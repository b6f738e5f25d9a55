import MailSchedule.Settings.Environment
import MailSchedule.Text.Blank

/-!
# Files of variables

A file of variables has a binding on each line: a name, an equals sign and a value, which may stand
between quotes and then run over several lines.  Lines that are no binding are passed over.

Results:

* `bindings`: the bindings of a file.
* `expand`: a value with references to other variables replaced.
* `assignments`: the variables of a file with their values.
* `referenceNames`: the names of other variables that a file may ask for.
-/

namespace MailSchedule.EnvFile

/-- A binding as it is written; without an equals sign there is no value. -/
abbrev Binding := List Char × Option (List Char)

/-! ## Characters -/

/-- Whether a character ends a line. -/
def endsLine (c : Char) : Bool := c = '\n' || c = '\r'

/-- Whether a character is blank within a line. -/
def isInnerBlank (c : Char) : Bool := Text.isBlank c && !endsLine c

/-- Line ends of all systems as line feeds. -/
def normalizeLines : List Char → List Char
  | '\r' :: '\n' :: rest => '\n' :: normalizeLines rest
  | '\r' :: rest => '\n' :: normalizeLines rest
  | c :: rest => c :: normalizeLines rest
  | [] => []

/-- The characters from the next line on. -/
def nextLine (cs : List Char) : List Char := (cs.dropWhile (!endsLine ·)).drop 1

/-! ## Values -/

/-- The character that a letter after a backslash stands for between double quotes. -/
def escape? : Char → Option Char
  | '\\' => some '\\'
  | '\x27' => some '\x27'
  | '"' => some '"'
  | 'a' => some '\x07'
  | 'b' => some '\x08'
  | 'f' => some '\x0c'
  | 'n' => some '\n'
  | 'r' => some '\r'
  | 't' => some '\t'
  | 'v' => some '\x0b'
  | _ => none

/-- The character that a letter after a backslash stands for between single quotes. -/
def singleEscape? : Char → Option Char
  | '\\' => some '\\'
  | '\x27' => some '\x27'
  | _ => none

/-- Replaces escapes; what is no escape stays. -/
def unescape (escape : Char → Option Char) : List Char → List Char
  | '\\' :: c :: rest =>
    match escape c with
    | some d => d :: unescape escape rest
    | none => '\\' :: unescape escape (c :: rest)
  | c :: rest => c :: unescape escape rest
  | [] => []

/-- The characters up to a closing quote and those after it.  A backslash takes the character after
it along, so that a quote there closes nothing. -/
def upToQuote (quote : Char) : List Char → Option (List Char × List Char)
  | [] => none
  | ['\\'] => none
  | '\\' :: c :: rest => (upToQuote quote rest).map fun p => ('\\' :: c :: p.1, p.2)
  | c :: rest =>
    if c = quote then some ([], rest)
    else (upToQuote quote rest).map fun p => (c :: p.1, p.2)

/-- A value without quotes up to a comment, which has a blank before it. -/
def beforeComment : List Char → List Char
  | [] => []
  | c :: rest =>
    if Text.isBlank c && ((c :: rest).dropWhile Text.isBlank).head? = some '#' then []
    else c :: beforeComment rest

/-- Reads what follows an equals sign: the value and what follows it, or nothing if a quote is not
closed. -/
def readValue (cs : List Char) : Option (List Char × List Char) :=
  match cs.dropWhile isInnerBlank with
  | '\x27' :: rest =>
    (upToQuote '\x27' rest).map fun p => (unescape singleEscape? p.1, p.2)
  | '"' :: rest => (upToQuote '"' rest).map fun p => (unescape escape? p.1, p.2)
  | _ =>
    let line := cs.takeWhile (!endsLine ·)
    some (Text.trim Text.isBlank (beforeComment line), cs.dropWhile (!endsLine ·))

/-! ## Bindings -/

/-- The characters after the word that may stand before a name. -/
def skipExport (cs : List Char) : List Char :=
  match cs with
  | 'e' :: 'x' :: 'p' :: 'o' :: 'r' :: 't' :: c :: rest =>
    if isInnerBlank c then rest.dropWhile isInnerBlank else cs
  | _ => cs

/-- Whether a character may stand in a name without quotes. -/
def inName (c : Char) : Bool := c ≠ '=' && c ≠ '#' && !Text.isBlank c

/-- Reads a name: what it is and what follows.  A comment has no name; `none` is no name at all. -/
def readName (cs : List Char) : Option (Option (List Char) × List Char) :=
  match cs with
  | [] => none
  | c :: rest =>
    if c = '#' then some (none, cs)
    else if c = '\x27' then
      let name := rest.takeWhile (· ≠ '\x27')
      match rest.dropWhile (· ≠ '\x27') with
      | _ :: after => if name.isEmpty then none else some (some name, after)
      | [] => none
    else
      let name := cs.takeWhile inName
      if name.isEmpty then none else some (some name, cs.dropWhile inName)

/-- The characters after a comment and the end of the line, if nothing else is there. -/
def endOfLine? (cs : List Char) : Option (List Char) :=
  let after := cs.dropWhile isInnerBlank
  let after := if after.head? = some '#' then after.dropWhile (!endsLine ·) else after
  match after with
  | [] => some []
  | c :: rest => if endsLine c then some rest else none

/-- Reads one binding: what it binds, if anything, and what follows. -/
def readBinding (cs : List Char) : Option Binding × List Char :=
  let cs := skipExport cs
  match readName cs with
  | none => (none, nextLine cs)
  | some (name, rest) =>
    let rest := rest.dropWhile isInnerBlank
    let finish (value : Option (List Char)) (rest : List Char) : Option Binding × List Char :=
      match endOfLine? rest with
      | none => (none, nextLine rest)
      | some after => (name.map fun n => (n, value), after)
    match rest with
    | '=' :: rest =>
      match readValue rest with
      | none => (none, nextLine rest)
      | some (value, rest) => finish (some value) rest
    | rest => finish none rest

/-- Reads bindings; every one takes a character at least. -/
def readBindings : Nat → List Char → List Binding
  | 0, _ => []
  | steps + 1, cs =>
    match cs.dropWhile Text.isBlank with
    | [] => []
    | cs =>
      let (binding, rest) := readBinding cs
      binding.toList ++ readBindings steps rest

/-- The mark that may stand at the beginning of a file. -/
def byteOrderMark : Char := '\ufeff'

/-- The characters without a byte order mark in front. -/
def dropMark : List Char → List Char
  | [] => []
  | c :: rest => if c = byteOrderMark then rest else c :: rest

/-- The bindings of a file, in order. -/
def bindings (text : String) : List Binding :=
  let cs := normalizeLines (dropMark text.toList)
  readBindings (cs.length + 1) cs

/-! ## References -/

/-- A variable with its value, if it has one. -/
abbrev Variable := Text × Option Text

/-- What a reference stands for: the value of the variable, which may be empty, or a default if
there is no such variable. -/
def resolve (known : List Variable) (name default : Text) : Text :=
  match known.lookup name with
  | some value => value.getD []
  | none => default

/-- A reference after its opening brace: name, default, and what follows. -/
def readReference (cs : List Char) : Option (List Char × List Char × List Char) :=
  let name := cs.takeWhile fun c => c ≠ '}' && c ≠ ':'
  match cs.dropWhile fun c => c ≠ '}' && c ≠ ':' with
  | '}' :: rest => some (name, [], rest)
  | ':' :: '-' :: rest =>
    match rest.dropWhile (· ≠ '}') with
    | _ :: after => some (name, rest.takeWhile (· ≠ '}'), after)
    | [] => none
  | _ => none

/-- The names after openings of references in a text. -/
def referenceNames : List Char → List (List Char)
  | [] => []
  | '$' :: rest =>
    (match rest with
      | '{' :: inner => ((readReference inner).map (·.1)).toList
      | _ => []) ++ referenceNames rest
  | _ :: rest => referenceNames rest

/-- Replaces references; every step takes a character at least. -/
def expandSteps (known : List Variable) : Nat → List Char → Text
  | 0, cs => Text.ofCharacters cs
  | _, [] => []
  | steps + 1, c :: rest =>
    match c, rest with
    | '$', '{' :: inner =>
      match readReference inner with
      | some (name, default, after) =>
        resolve known (Text.ofCharacters name) (Text.ofCharacters default) ++
          expandSteps known steps after
      | none => c.toNat :: expandSteps known steps rest
    | _, _ => c.toNat :: expandSteps known steps rest

/-- A value with its references replaced. -/
def expand (known : List Variable) (value : List Char) : Text :=
  expandSteps known value.length value

/-- Puts a variable among others: a name that is there already keeps its place. -/
def putVariable (v : Variable) : List Variable → List Variable
  | [] => [v]
  | a :: rest => if a.1 = v.1 then v :: rest else a :: putVariable v rest

/-- Adds the variables of bindings in order; a reference sees the ones before it, and then those of
the environment. -/
def addVariables (environment seen : List Variable) : List Binding → List Variable
  | [] => seen
  | (name, value) :: rest =>
    let value := value.map (expand (seen ++ environment))
    addVariables environment (putVariable (Text.ofCharacters name, value) seen) rest

/-- The variables of an environment with their values. -/
def ofEnvironment (environment : Environment) : List Variable :=
  environment.map fun v => (v.1, some v.2)

/-- The variables of a file with their values, in order; of two with one name the later counts, at
the place of the first. -/
def assignments (environment : Environment) (text : String) : List Variable :=
  addVariables (ofEnvironment environment).reverse [] (bindings text)

end MailSchedule.EnvFile

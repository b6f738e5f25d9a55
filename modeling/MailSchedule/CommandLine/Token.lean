import MailSchedule.CommandLine.Grammar
import MailSchedule.Text.Integer

/-!
# Words of a command line

Each word of a command line is a value, a switch, or the word `--`, after which all words are
values.  A long switch may be shortened as long as only one switch begins with what is left, and
what a switch takes may be joined to it.  A word that looks like a negative number or that holds a
space is a value, unless it is a switch.

Results:

* `tokens`: the words of a command line, told apart.
-/

namespace MailSchedule.CommandLine

/-- A switch found in a word. -/
structure Hit where
  switch : Switch
  /-- The name under which it was found. -/
  name : Text
  /-- What is joined to it. -/
  attached : Option Text := none
  deriving Repr

/-- What a word is. -/
inductive Role
  | value
  /-- The word after which all words are values. -/
  | separator
  | switch (hit : Hit)
  /-- It looks like a switch and is none. -/
  | unknownSwitch
  deriving Repr

/-- A word and what it is. -/
structure Token where
  word : Text
  role : Role
  deriving Repr

/-- Whether a word is a switch, known or not. -/
def Token.isSwitch (t : Token) : Bool :=
  match t.role with
  | .switch _ => true
  | .unknownSwitch => true
  | _ => false

/-- The code point of a hyphen, with which switches begin. -/
@[match_pattern]
abbrev hyphen : Nat := 0x2D

/-- The code point of an equals sign, which joins a value to a long switch. -/
def equalsSign : Nat := '='.toNat

/-- The part before an equals sign, and the part after it if there is one. -/
def splitJoined (word : Text) : Text × Option Text :=
  match word.dropWhile (· ≠ equalsSign) with
  | _ :: rest => (word.takeWhile (· ≠ equalsSign), some rest)
  | [] => (word, none)

/-- Whether a word looks like a negative number. -/
def looksNegative : List Char → Bool
  | '-' :: rest =>
    let rest := if rest.getLast? = some '\n' then rest.dropLast else rest
    let whole := rest.takeWhile Text.isDigit
    match rest.dropWhile Text.isDigit with
    | [] => !whole.isEmpty
    | '.' :: fraction => !fraction.isEmpty && fraction.all Text.isDigit
    | _ => false
  | _ => false

/-- The switches that a word may mean though it is none of their names: a long switch by its
beginning, a short one with a value joined to it. -/
def candidates (g : Grammar) (word : Text) : List Hit :=
  match word with
  | hyphen :: hyphen :: _ =>
    let (name, attached) := splitJoined word
    (g.namedSwitches.filter fun n => name.isPrefixOf n.1).map fun n =>
      { switch := n.2, name := n.1, attached }
  | hyphen :: c :: rest =>
    g.namedSwitches.filterMap fun n =>
      if n.1 = [hyphen, c] then some { switch := n.2, name := n.1, attached := some rest }
      else if word.isPrefixOf n.1 then some { switch := n.2, name := n.1 }
      else none
  | _ => []

/-- What a word is that begins with a hyphen and is no name of a switch. -/
def roleOfHyphened (g : Grammar) (word : Text) : Except Text Role :=
  match candidates g word with
  | [hit] => .ok (.switch hit)
  | [] =>
    if word.characters?.any looksNegative || word.contains ' '.toNat then .ok .value
    else .ok .unknownSwitch
  | hits =>
    .error ("ambiguous option: " ++ word ++ " could match " ++
      Text.separated ", " (hits.map (·.name)))

/-- What a word before any `--` is. -/
def roleOf (g : Grammar) (word : Text) : Except Text Role :=
  if word.head? ≠ some hyphen then .ok .value
  else
    match g.namedSwitches.lookup word with
    | some s => .ok (.switch { switch := s, name := word })
    | none =>
      if word.length = 1 then .ok .value
      else
        let (name, attached) := splitJoined word
        match attached, g.namedSwitches.lookup name with
        | some value, some s => .ok (.switch { switch := s, name, attached := some value })
        | _, _ => roleOfHyphened g word

/-- The word after which all words are values. -/
def separatorWord : Text := "--"

/-- The words of a command line, told apart. -/
def tokens (g : Grammar) : List Text → Except Text (List Token)
  | [] => .ok []
  | word :: rest =>
    if word = separatorWord then
      .ok (⟨word, .separator⟩ :: rest.map fun w => ⟨w, .value⟩)
    else do
      let role ← roleOf g word
      return ⟨word, role⟩ :: (← tokens g rest)

end MailSchedule.CommandLine

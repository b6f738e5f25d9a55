import MailSchedule.Json.Reader
import MailSchedule.Settings.Basic
import MailSchedule.Path
import MailSchedule.Text.Blank

/-!
# Values of settings

How a value that is given for a setting is understood.  Text counts for a number or a truth value
if it denotes one, whole numbers count for truth values and the other way round, and nothing else
is converted.

Results:

* `readInt`, `readBool`, `readText`, `readPath`: a value of each kind.
* `readNamesFrom`, `nameSet`: a set of names.
-/

namespace MailSchedule.Settings

open MailSchedule.Decimal (Binary64)
open MailSchedule.Json (Value)

/-! ## Numbers in text -/

/-- What follows zeros in front of a number, and underscores among them.  A number that consists of
them keeps the last, and one before a point is kept as well; a minus sign may follow them. -/
def dropLeadingZeros (last : Char) : List Char → Option (List Char)
  | [] => some [last]
  | c :: rest =>
    if c = '0' || c = '_' then dropLeadingZeros c rest
    else if c = '.' then some (last :: c :: rest)
    else if c.isDigit || c = '-' then some (c :: rest)
    else none

/-- Leaves out zeros in front of a number. -/
def stripLeadingZeros : List Char → Option (List Char)
  | [] => none
  | c :: rest =>
    if c = '0' then dropLeadingZeros c rest else if c.isDigit then some (c :: rest) else none

/-- Leaves out a fraction that consists of zeros. -/
def stripZeroFraction (cs : List Char) : List Char :=
  match cs.dropWhile (· ≠ '.') with
  | _ :: fraction =>
    if !fraction.isEmpty && fraction.all (· = '0') then cs.takeWhile (· ≠ '.') else cs
  | [] => cs

/-- Whether every underscore stands alone between other characters. -/
def isolatesUnderscores : List Char → Bool
  | [] => true
  | ['_'] => false
  | '_' :: '_' :: _ => false
  | _ :: rest => isolatesUnderscores rest

/-- Leaves out single underscores within a number. -/
def stripUnderscores (cs : List Char) : List Char :=
  if cs.head? ≠ some '_' && isolatesUnderscores cs then cs.filter (· ≠ '_') else cs

/-- A number in its plain form: a minus sign if it is negative, and digits. -/
def plainForm? (cs : List Char) : Option (List Char) :=
  let unsigned := match cs with
    | '+' :: '-' :: _ => none
    | '+' :: rest => some rest
    | rest => some rest
  let strip (cs : List Char) : Option (List Char) :=
    (stripLeadingZeros cs).map fun cs => stripUnderscores (stripZeroFraction cs)
  match unsigned with
  | some ('-' :: rest) => (strip rest).map ('-' :: ·)
  | some rest => strip rest
  | none => none

/-- The integer that a plain form denotes.  No more digits than `Json.maxDigits` are read, and it
does not matter then what follows them. -/
def plainInt (cs : List Char) : Except Problem Int :=
  let (negative, ds) := match cs with
    | '-' :: ds => (true, ds)
    | ds => (false, ds)
  let digits := ds.takeWhile Char.isDigit
  if digits.head? = some '0' then if ds = ['0'] then .ok 0 else .error .intParsing
  else if Json.maxDigits < digits.length then .error .intParsingSize
  else if digits.isEmpty || digits.length < ds.length then .error .intParsing
  else .ok (Json.signed negative (Json.ofDigits ds))

/-- The integer that a text denotes.  It is brought into its plain form only if it is not yet in it,
and has too many digits only if it is. -/
def intOfText (cs : List Char) : Except Problem Int :=
  match plainInt cs, plainForm? (Text.trim Text.isUnicodeBlank cs) with
  | .ok i, _ => .ok i
  | .error .intParsingSize, _ => .error .intParsingSize
  | .error _, none => .error .intParsing
  | .error _, some cs => (plainInt cs).mapError fun _ => .intParsing

/-! ## Kinds of values -/

/-- The whole number that a floating-point value is. -/
def wholeNumber? : Binary64 → Option Int
  | .finite negative m e =>
    let scale := Decimal.power 2 (-e)
    if m % scale = 0 then some (Json.signed negative (m / scale * Decimal.power 2 e)) else none
  | _ => none

/-- The bound of integers of 64 bits. -/
def wordBound : Nat := Nat.pow 2 63

/-- The whole numbers that floating-point values are converted to. -/
def inWordRange (i : Int) : Bool := -(wordBound : Int) < i && i < wordBound

/-- A floating-point value as an integer. -/
def intOfReal (x : Binary64) : Except Problem Int :=
  match x with
  | .finite _ _ _ =>
    match wholeNumber? x with
    | none => .error .intFromFloat
    | some i => if inWordRange i then .ok i else .error .intParsingSize
  | _ => .error .finiteNumber

/-- Reads a string value that must be ordinary text. -/
def readCharacters {α : Type} (read : List Char → Except Problem α) (t : Text) :
    Except Problem α :=
  match t.characters? with
  | some cs => read cs
  | none => .error .stringUnicode

/-- A value for an integer. -/
def readInt : Value → Except Problem Int
  | .int i => .ok i
  | .bool b => .ok (if b then 1 else 0)
  | .real x => intOfReal x
  | .string cs => readCharacters intOfText cs
  | _ => .error .intType

/-- The words for true. -/
def trueWords : List String := ["1", "on", "t", "true", "y", "yes"]

/-- The words for false. -/
def falseWords : List String := ["0", "off", "f", "false", "n", "no"]

/-- A text for a truth value; case does not matter. -/
def boolOfText (cs : List Char) : Except Problem Bool :=
  let word := String.ofList (cs.map Char.toLower)
  if trueWords.contains word then .ok true
  else if falseWords.contains word then .ok false
  else .error .boolParsing

/-- A whole number for a truth value. -/
def boolOfInt (i : Int) : Except Problem Bool :=
  if i = 0 then .ok false else if i = 1 then .ok true else .error .boolParsing

/-- A value for a truth value. -/
def readBool : Value → Except Problem Bool
  | .bool b => .ok b
  | .string cs => readCharacters boolOfText cs
  | .int i => if inWordRange i || i = -(wordBound : Int) then boolOfInt i else .error .boolType
  | .real x =>
    match intOfReal x with
    | .ok i => boolOfInt i
    | .error _ => .error .boolType
  | _ => .error .boolType

/-- A value for a text. -/
def readText : Value → Except Problem Text
  | .string cs => .ok cs
  | _ => .error .stringType

/-- A value for a path. -/
def readPath : Value → Except Problem Text
  | .string cs => .ok (Path.ofText cs).toText
  | _ => .error .pathType

/-- Texts without repetitions, in order. -/
def nameSet (names : List Text) : List Text :=
  names.eraseDups.mergeSort Text.precedes

/-- The names among values that stand at places from `index` on, or what is wrong with them. -/
def readNamesFrom (index : Nat) : List Value → List (Nat × Problem) × List Text
  | [] => ([], [])
  | v :: rest =>
    let (problems, names) := readNamesFrom (index + 1) rest
    match readText v with
    | .ok name => (problems, name :: names)
    | .error p => ((index, p) :: problems, names)

end MailSchedule.Settings

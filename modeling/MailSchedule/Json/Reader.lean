import MailSchedule.Json.Value

/-!
# Reading JSON

A reader of JSON documents over lists of characters.  Each part of the reader returns what it read
and the characters that follow it, or stops with a problem and the characters from the problem on;
the position of a problem is then a difference of lengths.

Blanks are space, tab, line feed and carriage return.  Beyond plain JSON the words `NaN`,
`Infinity` and `-Infinity` are numbers and an escape may name a lone surrogate; an integer may have
at most `maxDigits` digits.

Results:

* `readValue`: one value at the front of the characters.
* `readDocument`: a whole document, which is one value with blanks around it.
-/

namespace MailSchedule.Json

open MailSchedule.Decimal (Binary64)

/-! ## Problems -/

/-- What can be wrong with a document. -/
inductive Problem
  | byteOrderMark
  | expectingValue
  | expectingName
  | expectingColon
  | expectingComma
  | extraData
  | controlCharacter
  | unterminatedString
  | invalidEscape
  | invalidUnicodeEscape
  deriving DecidableEq, Repr

/-- The words for a problem. -/
def Problem.words : Problem → String
  | .byteOrderMark => "Unexpected UTF-8 BOM (decode using utf-8-sig)"
  | .expectingValue => "Expecting value"
  | .expectingName => "Expecting property name enclosed in double quotes"
  | .expectingColon => "Expecting ':' delimiter"
  | .expectingComma => "Expecting ',' delimiter"
  | .extraData => "Extra data"
  | .controlCharacter => "Invalid control character at"
  | .unterminatedString => "Unterminated string starting at"
  | .invalidEscape => "Invalid \\escape"
  | .invalidUnicodeEscape => "Invalid \\uXXXX escape"

/-- Why reading stopped. -/
inductive Stop
  /-- A problem at the front of `rest`. -/
  | malformed (problem : Problem) (rest : List Char)
  /-- An integer with more digits than are allowed. -/
  | longInteger (digits : Nat)
  deriving Repr

/-- Stops with a problem at the front of the given characters. -/
def stop {α : Type} (problem : Problem) (rest : List Char) : Except Stop α :=
  .error (.malformed problem rest)

/-! ## Blanks -/

/-- The blanks of JSON. -/
def isBlank (c : Char) : Bool := c = ' ' || c = '\t' || c = '\n' || c = '\r'

/-- The characters from the first that is no blank. -/
def skipBlanks (cs : List Char) : List Char := cs.dropWhile isBlank

/-! ## Strings -/

/-- The number that four hexadecimal digits denote. -/
def hexUnit? (a b c d : Char) : Option Nat := do
  let w ← Text.hexValue? a
  let x ← Text.hexValue? b
  let y ← Text.hexValue? c
  let z ← Text.hexValue? d
  return ((w * 16 + x) * 16 + y) * 16 + z

/-- The first half of a pair that denotes one code point. -/
def isHighSurrogate (n : Nat) : Bool := 0xD800 ≤ n && n ≤ 0xDBFF

/-- The second half of a pair that denotes one code point. -/
def isLowSurrogate (n : Nat) : Bool := 0xDC00 ≤ n && n ≤ 0xDFFF

/-- The code point that a pair of surrogates denotes. -/
def joinSurrogates (high low : Nat) : Nat := 0x10000 + (high - 0xD800) * 0x400 + (low - 0xDC00)

/-- The character that a letter after a backslash stands for. -/
def escaped? : Char → Option Char
  | '"' => some '"'
  | '\\' => some '\\'
  | '/' => some '/'
  | 'b' => some '\x08'
  | 'f' => some '\x0c'
  | 'n' => some '\n'
  | 'r' => some '\r'
  | 't' => some '\t'
  | _ => none

/-- Puts a code point in front of what was read. -/
def prepend (c : Nat) (r : Except Stop (Text × List Char)) :
    Except Stop (Text × List Char) :=
  r.map fun p => (c :: p.1, p.2)

/-- The second half of a pair whose first half has been read, if the characters give one: an escape
by number that more characters follow. -/
def lowHalf (high : Nat) : List Char → Except Stop (Option Nat)
  | '\\' :: 'u' :: a :: b :: c :: d :: next :: more =>
    if isHighSurrogate high then
      match hexUnit? a b c d with
      | none => stop .invalidUnicodeEscape ('u' :: a :: b :: c :: d :: next :: more)
      | some low => .ok (if isLowSurrogate low then some low else none)
    else .ok none
  | _ => .ok none

/-- Reads a string after its opening quote; `opening` are the characters from that quote on.  An
escape by number needs a character after its four digits. -/
def readString (opening : List Char) : List Char → Except Stop (Text × List Char)
  | [] => stop .unterminatedString opening
  | '"' :: rest => .ok ([], rest)
  | ['\\'] => stop .unterminatedString opening
  | '\\' :: 'u' :: a :: b :: c :: d :: rest =>
    match rest.isEmpty, hexUnit? a b c d with
    | false, some high =>
      match lowHalf high rest with
      | .error e => .error e
      | .ok none => prepend high (readString opening rest)
      | .ok (some low) =>
        match rest with
        | _ :: _ :: _ :: _ :: _ :: _ :: rest =>
          prepend (joinSurrogates high low) (readString opening rest)
        | _ => stop .unterminatedString opening
    | _, _ => stop .invalidUnicodeEscape ('u' :: a :: b :: c :: d :: rest)
  | '\\' :: 'u' :: short => stop .invalidUnicodeEscape ('u' :: short)
  | '\\' :: letter :: rest =>
    match escaped? letter with
    | none => stop .invalidEscape ('\\' :: letter :: rest)
    | some c => prepend c.toNat (readString opening rest)
  | c :: rest =>
    if c.toNat < 32 then stop .controlCharacter (c :: rest)
    else prepend c.toNat (readString opening rest)

/-! ## Numbers -/

/-- The most digits that an integer may have. -/
def maxDigits : Nat := 4300

/-- An integer that has no more digits than are allowed. -/
def Readable (i : Int) : Prop := (Nat.toDigits 10 i.natAbs).length ≤ maxDigits

instance (i : Int) : Decidable (Readable i) := inferInstanceAs (Decidable (_ ≤ _))

/-- The number that decimal digits denote. -/
def ofDigits (ds : List Char) : Nat := Nat.ofDigitChars 10 ds 0

/-- The integer with a sign and a magnitude. -/
def signed (negative : Bool) (n : Nat) : Int := if negative then -(n : Int) else n

/-- The digits of the whole part: a single zero, or digits that begin with another one. -/
def wholeDigits : List Char → List Char × List Char
  | [] => ([], [])
  | c :: rest =>
    if c = '0' then ([c], rest)
    else ((c :: rest).takeWhile Char.isDigit, (c :: rest).dropWhile Char.isDigit)

/-- The digits after a point.  A point without digits is not part of the number. -/
def fractionDigits : List Char → List Char × List Char
  | '.' :: rest =>
    if (rest.takeWhile Char.isDigit).isEmpty then ([], '.' :: rest)
    else (rest.takeWhile Char.isDigit, rest.dropWhile Char.isDigit)
  | cs => ([], cs)

/-- The sign of an exponent. -/
def exponentSign : List Char → Bool × List Char
  | '-' :: rest => (true, rest)
  | '+' :: rest => (false, rest)
  | cs => (false, cs)

/-- The exponent.  A letter without digits is not part of the number. -/
def exponentPart (cs : List Char) : Option Int × List Char :=
  match cs with
  | c :: rest =>
    if c = 'e' || c = 'E' then
      let (negative, digits) := exponentSign rest
      if (digits.takeWhile Char.isDigit).isEmpty then (none, cs)
      else (some (signed negative (ofDigits (digits.takeWhile Char.isDigit))),
        digits.dropWhile Char.isDigit)
    else (none, cs)
  | [] => (none, [])

/-- The value of a number with the given parts.  Without fraction and exponent it is an integer. -/
def numberValue (negative : Bool) (whole fraction : List Char) (exponent : Option Int) :
    Except Stop Value :=
  if fraction.isEmpty && exponent.isNone then
    if maxDigits < whole.length then .error (.longInteger whole.length)
    else .ok (.int (signed negative (ofDigits whole)))
  else .ok (.real (Binary64.nearest negative (ofDigits (whole ++ fraction))
    (exponent.getD 0 - fraction.length)))

/-- Reads a number without its sign; `start` are the characters from the sign on. -/
def readUnsigned (negative : Bool) (start cs : List Char) : Except Stop (Value × List Char) :=
  let (whole, rest) := wholeDigits cs
  if whole.isEmpty then stop .expectingValue start
  else
    let (fraction, rest) := fractionDigits rest
    let (exponent, rest) := exponentPart rest
    (numberValue negative whole fraction exponent).map fun v => (v, rest)

/-- Reads a number. -/
def readNumber : List Char → Except Stop (Value × List Char)
  | '-' :: rest => readUnsigned true ('-' :: rest) rest
  | cs => readUnsigned false cs cs

/-! ## Values -/

/-- The words that are values. -/
def literals : List (List Char × Value) := [
  ("null".toList, .null),
  ("true".toList, .bool true),
  ("false".toList, .bool false),
  ("NaN".toList, .real .nan),
  ("Infinity".toList, .real (.infinite false)),
  ("-Infinity".toList, .real (.infinite true))]

/-- A word that is a value, at the front of the characters. -/
def literal? (cs : List Char) : Option (Value × List Char) :=
  literals.findSome? fun w => if w.1.isPrefixOf cs then some (w.2, cs.drop w.1.length) else none

mutual

/-- Reads one value at the front of the characters.  Of any two steps in a row one takes a
character, so twice the number of characters bounds the steps. -/
def readValue : Nat → List Char → Except Stop (Value × List Char)
  | 0, cs => stop .expectingValue cs
  | steps + 1, cs =>
    match cs with
    | '"' :: rest => (readString cs rest).map fun p => (.string p.1, p.2)
    | '{' :: rest =>
      match skipBlanks rest with
      | '}' :: rest => .ok (.object [], rest)
      | rest => (readMembers steps rest).map fun p => (Value.ofMembers p.1, p.2)
    | '[' :: rest =>
      match skipBlanks rest with
      | ']' :: rest => .ok (.array [], rest)
      | rest => (readItems steps rest).map fun p => (.array p.1, p.2)
    | cs =>
      match literal? cs with
      | some p => .ok p
      | none => readNumber cs

/-- Reads the items of an array up to its closing bracket. -/
def readItems : Nat → List Char → Except Stop (List Value × List Char)
  | 0, cs => stop .expectingValue cs
  | steps + 1, cs => do
    let (v, rest) ← readValue steps cs
    match skipBlanks rest with
    | ']' :: rest => .ok ([v], rest)
    | ',' :: rest => (readItems steps (skipBlanks rest)).map fun p => (v :: p.1, p.2)
    | rest => stop .expectingComma rest

/-- Reads the members of an object up to its closing brace. -/
def readMembers : Nat → List Char → Except Stop (List (Text × Value) × List Char)
  | 0, cs => stop .expectingName cs
  | steps + 1, cs =>
    match cs with
    | '"' :: rest => do
      let (name, rest) ← readString cs rest
      match skipBlanks rest with
      | ':' :: rest => do
        let (v, rest) ← readValue steps (skipBlanks rest)
        match skipBlanks rest with
        | '}' :: rest => .ok ([(name, v)], rest)
        | ',' :: rest =>
          (readMembers steps (skipBlanks rest)).map fun p => ((name, v) :: p.1, p.2)
        | rest => stop .expectingComma rest
      | rest => stop .expectingColon rest
    | cs => stop .expectingName cs

end

/-! ## Documents -/

/-- Why a document is not read: a problem with its place, counted in characters from zero, or an
integer with too many digits. -/
inductive DocumentError
  | malformed (problem : Problem) (before : List Char)
  | longInteger (digits : Nat)
  deriving Repr

/-- The line of a place, from one: the line feeds before it. -/
def lineOf (before : List Char) : Nat := before.count '\n' + 1

/-- The column of a place, from one: the characters since the last line feed before it. -/
def columnOf (before : List Char) : Nat := (before.reverse.takeWhile (· != '\n')).length + 1

/-- A problem is reported with its line, column and place. -/
def DocumentError.message : DocumentError → String
  | .malformed problem before =>
    problem.words ++ ": line " ++ toString (lineOf before) ++ " column " ++
      toString (columnOf before) ++ " (char " ++ toString before.length ++ ")"
  | .longInteger digits =>
    "Exceeds the limit (" ++ toString maxDigits ++
      " digits) for integer string conversion: value has " ++ toString digits ++
      " digits; use sys.set_int_max_str_digits() to increase the limit"

/-- The place in `cs` at which reading stopped. -/
def Stop.within (cs : List Char) : Stop → DocumentError
  | .malformed problem rest => .malformed problem (cs.take (cs.length - rest.length))
  | .longInteger digits => .longInteger digits

/-- Reads one value with blanks around it. -/
def readWhole (cs : List Char) : Except Stop Value :=
  match cs with
  | '\uFEFF' :: _ => stop .byteOrderMark cs
  | _ => do
    let (v, rest) ← readValue (2 * cs.length + 2) (skipBlanks cs)
    match skipBlanks rest with
    | [] => .ok v
    | rest => stop .extraData rest

/-- The value of a document. -/
def readDocument (cs : List Char) : Except DocumentError Value :=
  (readWhole cs).mapError (Stop.within cs)

end MailSchedule.Json

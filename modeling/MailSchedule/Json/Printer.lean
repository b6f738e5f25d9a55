import MailSchedule.Json.Reader

/-!
# Writing JSON

The compact form of a JSON value: no blanks, and ASCII only, because every other code point is
given by its number.

Results:

* `Value.compact`: the compact form of a value.
-/

namespace MailSchedule.Json

/-- An escape by number. -/
def numberedEscape (unit : Nat) : List Char := '\\' :: 'u' :: Text.hexDigits 4 unit

/-- One code point inside a string.  Code points above `FFFF` are given as two surrogates. -/
def writtenPoint (c : Nat) : List Char :=
  if c = 34 then ['\\', '"']
  else if c = 92 then ['\\', '\\']
  else if c = 8 then ['\\', 'b']
  else if c = 9 then ['\\', 't']
  else if c = 10 then ['\\', 'n']
  else if c = 12 then ['\\', 'f']
  else if c = 13 then ['\\', 'r']
  else if 32 ≤ c && c ≤ 126 then [Char.ofNat c]
  else if c < 0x10000 then numberedEscape c
  else numberedEscape (0xD800 + (c - 0x10000) / 0x400) ++
    numberedEscape (0xDC00 + (c - 0x10000) % 0x400)

/-- A string with its quotes. -/
def writtenString (cs : Text) : List Char := '"' :: cs.flatMap writtenPoint ++ ['"']

/-- An integer in decimal digits. -/
def writtenInt : Int → List Char
  | .ofNat n => Nat.toDigits 10 n
  | .negSucc n => '-' :: Nat.toDigits 10 (n + 1)

/-- A number with a fraction or an exponent, or one of the words for the other values. -/
def writtenReal : Decimal.Binary64 → List Char
  | .nan => "NaN".toList
  | .infinite false => "Infinity".toList
  | .infinite true => "-Infinity".toList
  | x => x.text.toList

mutual

/-- The compact form of a value. -/
def Value.compact : Value → List Char
  | .null => "null".toList
  | .bool true => "true".toList
  | .bool false => "false".toList
  | .int i => writtenInt i
  | .real x => writtenReal x
  | .string cs => writtenString cs
  | .array [] => ['[', ']']
  | .array (v :: vs) => '[' :: (v.compact ++ compactItems vs)
  | .object [] => ['{', '}']
  | .object ((n, v) :: ms) => '{' :: (writtenString n ++ ':' :: (v.compact ++ compactMembers ms))

/-- The items of an array after the first, with the closing bracket. -/
def compactItems : List Value → List Char
  | [] => [']']
  | v :: vs => ',' :: (v.compact ++ compactItems vs)

/-- The members of an object after the first, with the closing brace. -/
def compactMembers : List (Text × Value) → List Char
  | [] => ['}']
  | (n, v) :: ms => ',' :: (writtenString n ++ ':' :: (v.compact ++ compactMembers ms))

end

namespace Value

@[simp]
theorem compact_bool (b : Bool) :
    (bool b).compact = if b then "true".toList else "false".toList := by
  cases b <;> rfl

@[simp]
theorem compact_int (i : Int) : (int i).compact = writtenInt i := rfl

@[simp]
theorem compact_array_nil : (array []).compact = ['[', ']'] := rfl

@[simp]
theorem compact_array_cons (v : Value) (vs : List Value) :
    (array (v :: vs)).compact = '[' :: (v.compact ++ compactItems vs) := rfl

@[simp]
theorem compact_object_cons (name : Text) (v : Value) (ms : List (Text × Value)) :
    (object ((name, v) :: ms)).compact =
      '{' :: (writtenString name ++ ':' :: (v.compact ++ compactMembers ms)) := rfl

end Value

end MailSchedule.Json

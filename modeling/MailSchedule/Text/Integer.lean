import MailSchedule.Text.Blank

/-!
# Integers in text

Integers as people write them: an optional sign and decimal digits of any script, with single
underscores between digits and blanks around the whole.

Results:

* `readInteger?`: the integer that a text denotes.
-/

namespace MailSchedule.Text

/-- The zeros of the scripts of Unicode 14.0 that have decimal digits; the other nine digits of a
script follow its zero. -/
def zeros : List Nat := [
  48, 1632, 1776, 1984, 2406, 2534, 2662, 2790, 2918, 3046, 3174, 3302, 3430, 3558, 3664, 3792,
  3872, 4160, 4240, 6112, 6160, 6470, 6608, 6784, 6800, 6992, 7088, 7232, 7248, 42528, 43216, 43264,
  43472, 43504, 43600, 44016, 65296, 66720, 68912, 69734, 69872, 69942, 70096, 70384, 70736, 70864,
  71248, 71360, 71472, 71904, 72016, 72784, 73040, 73120, 92768, 92864, 93008, 120782, 120792,
  120802, 120812, 120822, 123200, 123632, 125264, 130032]

/-- The value of a decimal digit of any script. -/
def digitValue? (c : Char) : Option Nat :=
  (zeros.find? fun z => z ≤ c.toNat && c.toNat < z + 10).map fun z => c.toNat - z

/-- Whether a character is a decimal digit of any script. -/
def isDigit (c : Char) : Bool := (digitValue? c).isSome

/-- The digits of a number with single underscores between them. -/
def readDigits? : List Char → Option (List Nat)
  | [] => none
  | [c] => (digitValue? c).map ([·])
  | c :: '_' :: rest => do
    let d ← digitValue? c
    return d :: (← readDigits? rest)
  | c :: rest => do
    let d ← digitValue? c
    return d :: (← readDigits? rest)

/-- The most digits that are read. -/
def maxDigits : Nat := 4300

/-- The number that digits denote, unless there are too many. -/
def ofDigits? (ds : List Nat) : Option Nat :=
  if maxDigits < ds.length then none else some (ds.foldl (fun n d => n * 10 + d) 0)

/-- The number that digits with underscores denote. -/
def readNatural? (cs : List Char) : Option Nat := do ofDigits? (← readDigits? cs)

/-- The integer that a text denotes. -/
def readInteger? (cs : List Char) : Option Int :=
  match trim isUnicodeBlank cs with
  | '-' :: rest => (readNatural? rest).map fun n => -(n : Int)
  | '+' :: rest => (readNatural? rest).map fun n => (n : Int)
  | rest => (readNatural? rest).map fun n => (n : Int)

end MailSchedule.Text

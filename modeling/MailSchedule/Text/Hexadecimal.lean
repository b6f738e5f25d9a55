/-!
# Hexadecimal digits

Results:

* `hexDigits`: the digits of a number, in lower case.
* `hexValue?`: the value of a digit in either case.
* `readHex`: the octets that pairs of digits denote.
-/

namespace MailSchedule.Text

/-- The low `width` hexadecimal digits of `n`, in lower case. -/
def hexDigits : Nat → Nat → List Char
  | 0, _ => []
  | width + 1, n => hexDigits width (n / 16) ++ [Nat.digitChar (n % 16)]

/-- The blanks of ASCII. -/
def isAsciiBlank (c : Char) : Bool := c = ' ' || ('\t' ≤ c && c ≤ '\r')

/-- The value of a hexadecimal digit. -/
def hexValue? (c : Char) : Option Nat :=
  if '0' ≤ c && c ≤ '9' then some (c.toNat - 48)
  else if 'a' ≤ c && c ≤ 'f' then some (c.toNat - 87)
  else if 'A' ≤ c && c ≤ 'F' then some (c.toNat - 55)
  else none

/-- The octets that pairs of digits denote, with blanks between pairs, or the position of what is no
digit; `position` is that of the first character. -/
def readHex (position : Nat) : List Char → Except Nat (List UInt8)
  | [] => .ok []
  | [c] =>
    if isAsciiBlank c then .ok []
    else .error (if (hexValue? c).isSome then position + 1 else position)
  | c :: d :: rest =>
    if isAsciiBlank c then readHex (position + 1) (d :: rest)
    else
      match hexValue? c, hexValue? d with
      | some x, some y => (readHex (position + 2) rest).map (UInt8.ofNat (x * 16 + y) :: ·)
      | some _, none => .error (position + 1)
      | none, _ => .error position

end MailSchedule.Text

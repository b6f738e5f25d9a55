import MailSchedule.Text.Basic
import MailSchedule.Text.Hexadecimal
import MailSchedule.Text.Utf8

/-!
# Octets

The octets in which text is written.  Lone surrogates have none, except that in the names of files
and of variables the surrogates from `DC80` to `DCFF` stand for the octets that are no text.

Results:

* `octets`, `nameOctets`: the octets of a text and of a name, or the place where there are none.
* `ofNameOctets`: the name that octets stand for, which always exists.
* `Octets.ofString`: the octets of an ordinary string.
-/

namespace MailSchedule

/-- A sequence of octets. -/
abbrev Octets := List UInt8

namespace Text

/-- The octets of a code point that is no surrogate. -/
def encodePoint (c : Nat) : Octets :=
  let lead (start unit : Nat) : UInt8 := UInt8.ofNat (start + c / unit)
  let continuation (unit : Nat) : UInt8 := UInt8.ofNat (0x80 + c / unit % 64)
  if c < 0x80 then [lead 0 1]
  else if c < 0x800 then [lead 0xC0 64, continuation 1]
  else if c < 0x10000 then [lead 0xE0 4096, continuation 64, continuation 1]
  else [lead 0xF0 262144, continuation 4096, continuation 64, continuation 1]

/-- Why a text has no octets: the first surrogate at fault, its position, and how many surrogates
stand there. -/
structure Unencodable where
  point : Nat
  position : Nat
  count : Nat
  deriving DecidableEq, Repr

/-- A single surrogate is shown, several are named by the positions they span. -/
def Unencodable.message (u : Unencodable) : String :=
  if u.count = 1 then
    "'utf-8' codec can't encode character '\\u" ++ String.ofList (hexDigits 4 u.point) ++
      "' in position " ++ toString u.position ++ ": surrogates not allowed"
  else
    "'utf-8' codec can't encode characters in position " ++ toString u.position ++ "-" ++
      toString (u.position + u.count - 1) ++ ": surrogates not allowed"

/-- Writes a text whose first code point stands at `position`; `single` is the octet that a
surrogate stands for, if any. -/
def encodeFrom (single : Nat → Option UInt8) (position : Nat) : Text → Except Unencodable Octets
  | [] => .ok []
  | c :: rest =>
    if isSurrogate c then
      match single c with
      | some b => (encodeFrom single (position + 1) rest).map (b :: ·)
      | none => .error ⟨c, position, ((c :: rest).takeWhile isSurrogate).length⟩
    else (encodeFrom single (position + 1) rest).map (encodePoint c ++ ·)

/-- The octets of a text. -/
def octets (t : Text) : Except Unencodable Octets := encodeFrom (fun _ => none) 0 t

/-! ## Names -/

/-- The octet that a surrogate stands for in a name. -/
def escapedOctet? (c : Nat) : Option UInt8 :=
  if 0xDC80 ≤ c && c ≤ 0xDCFF then some (UInt8.ofNat (c - 0xDC00)) else none

/-- Why a text is no name of a file or of a variable. -/
inductive NameFault
  | unencodable (reason : Unencodable)
  /-- An octet is zero. -/
  | containsZero
  deriving DecidableEq, Repr

/-- The octets of a text in which surrogates may stand for octets. -/
def escapedOctets (t : Text) : Except Unencodable Octets := encodeFrom escapedOctet? 0 t

/-- The octets of a name. -/
def nameOctets (t : Text) : Except NameFault Octets :=
  match t.escapedOctets with
  | .error u => .error (.unencodable u)
  | .ok bs => if bs.contains 0 then .error .containsZero else .ok bs

/-- The character that octets stand for, if they are those of one character. -/
def character? (bs : Octets) : Option Char :=
  match Utf8.decode bs with
  | .ok [c] => some c
  | _ => none

/-- The character that octets begin with, and how many octets follow its first one. -/
def leadingCharacter? (bs : Octets) : Option (Char × Nat) :=
  [0, 1, 2, 3].findSome? fun n => (character? (bs.take (n + 1))).map fun c => (c, n)

/-- The name that octets stand for. -/
def ofNameOctets : Octets → Text
  | [] => []
  | b :: rest =>
    match leadingCharacter? (b :: rest) with
    | some (c, n) => c.toNat :: ofNameOctets (rest.drop n)
    | none => (0xDC00 + b.toNat) :: ofNameOctets rest
termination_by bs => bs.length
decreasing_by all_goals grind

end Text

/-- The octets of an ordinary string. -/
def Octets.ofString (s : String) : Octets := (Text.ofString s).flatMap Text.encodePoint

instance : Coe String Octets := ⟨Octets.ofString⟩

end MailSchedule

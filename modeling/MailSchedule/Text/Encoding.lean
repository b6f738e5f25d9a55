import MailSchedule.Fault
import MailSchedule.Text.Utf8

/-!
# Encodings

Files hold text in UTF-8.  When the octets of such a file are taken to be in another encoding, other
text is found, or none.

Results:

* `Encoding.ofName?`: the encoding with a name.
* `Encoding.reread`: the text that is found in the octets of a text.
-/

namespace MailSchedule.Text

/-- An encoding in which a file may be read. -/
inductive Encoding
  | utf8
  /-- One octet for each of the first 256 characters. -/
  | latin1
  | ascii
  /-- Two octets for most characters, after a mark that tells their order. -/
  | utf16
  deriving DecidableEq, Repr

namespace Encoding

/-- The names of encodings, in small letters and with lines for what stands between words. -/
def names : List (String × Encoding) := [
  ("utf_8", .utf8), ("utf8", .utf8), ("u8", .utf8), ("utf", .utf8), ("utf_8_sig", .utf8),
  ("latin_1", .latin1), ("latin1", .latin1), ("latin", .latin1), ("l1", .latin1),
  ("iso_8859_1", .latin1), ("iso8859_1", .latin1), ("iso8859", .latin1), ("8859", .latin1),
  ("cp819", .latin1), ("ascii", .ascii), ("us_ascii", .ascii), ("us", .ascii), ("646", .ascii),
  ("utf_16", .utf16), ("utf16", .utf16), ("u16", .utf16)]

/-- A character of a name as names are compared. -/
def foldName (c : Char) : Char := if c = '-' || c = ' ' then '_' else c.toLower

/-- The encoding with a name. -/
def ofName? (name : String) : Option Encoding := names.lookup (name.map foldName)

/-- The fault of an octet that cannot be read. -/
def refusal (encoding : String) (b : UInt8) (position : Nat) (problem : String) : Fault :=
  ⟨.other "UnicodeDecodeError", "'" ++ encoding ++ "' codec can't decode byte 0x" ++
    Utf8.hexOctet b ++ " in position " ++ toString position ++ ": " ++ problem⟩

/-- Reads octets of which each is a character of its own. -/
def readSingle (octets : List UInt8) : String :=
  String.ofList (octets.map fun b => Char.ofNat b.toNat)

/-- Reads the octets of ASCII. -/
def readAscii (octets : List UInt8) : Except Fault String :=
  let good := octets.takeWhile (· < 0x80)
  match octets.drop good.length with
  | [] => .ok (readSingle octets)
  | b :: _ => .error (refusal "ascii" b good.length "ordinal not in range(128)")

/-- Reads pairs of octets, which text in UTF-8 is not: a pair is left incomplete, or the mark is
missing. -/
def readPairs (octets : List UInt8) : Except Fault String :=
  match octets.getLast? with
  | none => .ok ""
  | some b =>
    if octets.length % 2 = 1 then
      .error (refusal "utf-16-le" b (octets.length - 1) "truncated data")
    else .error ⟨.other "UnicodeError", "UTF-16 stream does not start with BOM"⟩

/-- The text that is found in the octets of a text. -/
def reread (e : Encoding) (text : String) : Except Fault String :=
  let octets := Octets.ofString text
  match e with
  | .utf8 => .ok text
  | .latin1 => .ok (readSingle octets)
  | .ascii => readAscii octets
  | .utf16 => readPairs octets

end Encoding

end MailSchedule.Text

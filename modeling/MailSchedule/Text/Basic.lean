/-!
# Text

Text as a list of code points, which may hold lone surrogates.  Ordinary strings stand for the text
of their characters.

Results:

* `Text.ofString`: the text of an ordinary string.
* `characters?`: the characters of a text without surrogates.
* `separated`: texts with a separator between them.
* `precedes`: the order of texts by their code points.
-/

namespace MailSchedule

/-- Text: its code points, among which there may be lone surrogates. -/
abbrev Text := List Nat

namespace Text

/-- The text of an ordinary string. -/
def ofString (s : String) : Text := s.toList.map Char.toNat

instance : Coe String Text := ⟨ofString⟩

/-- The text of characters. -/
def ofCharacters (cs : List Char) : Text := cs.map Char.toNat

/-- Whether a code point is no character of its own. -/
def isSurrogate (c : Nat) : Bool := 0xD800 ≤ c && c ≤ 0xDFFF

/-- Whether a text has no lone surrogates. -/
def isScalar (t : Text) : Bool := !t.any isSurrogate

/-- The characters of a text, unless it has lone surrogates. -/
def characters? (t : Text) : Option (List Char) :=
  if t.isScalar then some (t.map Char.ofNat) else none

/-- A text as it is shown: the sign for what is unknown stands for a lone surrogate. -/
def shown (t : Text) : String :=
  String.ofList (t.map fun c => if isSurrogate c then '\ufffd' else Char.ofNat c)

/-- Texts with a separator between them. -/
def separated (separator : Text) (ts : List Text) : Text := separator.intercalate ts

/-- Whether a text stands before another or is the same. -/
def precedes : Text → Text → Bool
  | [], _ => true
  | _ :: _, [] => false
  | a :: as, b :: bs => if a = b then precedes as bs else a < b

/-- Ordinary strings are told apart by their texts. -/
theorem ofString_inj {s t : String} : ofString s = ofString t ↔ s = t := by
  constructor
  · intro h
    have h := congrArg (List.map Char.ofNat) h
    exact String.ext (by simpa [ofString, Function.comp_def] using h)
  · rintro rfl
    rfl

end Text

end MailSchedule

/-!
# UTF-8

Reading a sequence of octets as text.  The reader is a total function over the octets; what it
refuses, it refuses at the first octet that cannot be continued, with the reason and the number of
octets that are at fault.

Results:

* `decode`: the characters of an octet sequence, or the first fault in it.
* `decode_encodeAscii`: the octets of ASCII text read back as that text.
-/

namespace MailSchedule.Text.Utf8

/-- Why a sequence of octets stops being text. -/
inductive Reason
  /-- The octet begins no character. -/
  | invalidStart
  /-- The octet after a good beginning does not continue it. -/
  | invalidContinuation
  /-- The octets end in the middle of a character. -/
  | unexpectedEnd
  deriving DecidableEq, Repr

/-- A fault: the first octet concerned, its position, and how many octets are concerned. -/
structure Fault where
  reason : Reason
  octet : UInt8
  position : Nat
  count : Nat
  deriving DecidableEq, Repr

/-- Octets `80` to `BF` continue a character. -/
def continues (b : UInt8) : Bool := 0x80 ≤ b && b ≤ 0xBF

/-- The six payload bits of a continuation octet. -/
def payloadBits (b : UInt8) : Nat := b.toNat % 64

/-- Whether `second` may follow `lead` in a character of three octets: no shorter form exists and
the result is no surrogate. -/
def continuesThree (lead second : UInt8) : Bool :=
  continues second && (lead != 0xE0 || 0xA0 ≤ second) && (lead != 0xED || second < 0xA0)

/-- Whether `second` may follow `lead` in a character of four octets: no shorter form exists and
the result is at most `10FFFF`. -/
def continuesFour (lead second : UInt8) : Bool :=
  continues second && (lead != 0xF0 || 0x90 ≤ second) && (lead != 0xF4 || second < 0x90)

/-- The character of two octets. -/
def two (a b : UInt8) : Char := Char.ofNat ((a.toNat - 0xC0) * 64 + payloadBits b)

/-- The character of three octets. -/
def three (a b c : UInt8) : Char :=
  Char.ofNat (((a.toNat - 0xE0) * 64 + payloadBits b) * 64 + payloadBits c)

/-- The character of four octets. -/
def four (a b c d : UInt8) : Char :=
  Char.ofNat ((((a.toNat - 0xF0) * 64 + payloadBits b) * 64 + payloadBits c) * 64 + payloadBits d)

/-- Reads octets of which the first stands at `position`. -/
def decodeFrom (position : Nat) : List UInt8 → Except Fault (List Char)
  | [] => .ok []
  | a :: rest =>
    if a < 0x80 then (decodeFrom (position + 1) rest).map (Char.ofNat a.toNat :: ·)
    else if a < 0xC2 then .error ⟨.invalidStart, a, position, 1⟩
    else if a < 0xE0 then
      match rest with
      | [] => .error ⟨.unexpectedEnd, a, position, 1⟩
      | b :: rest =>
        if continues b then (decodeFrom (position + 2) rest).map (two a b :: ·)
        else .error ⟨.invalidContinuation, a, position, 1⟩
    else if a < 0xF0 then
      match rest with
      | [] => .error ⟨.unexpectedEnd, a, position, 1⟩
      | [b] =>
        if continuesThree a b then .error ⟨.unexpectedEnd, a, position, 2⟩
        else .error ⟨.invalidContinuation, a, position, 1⟩
      | b :: c :: rest =>
        if !continuesThree a b then .error ⟨.invalidContinuation, a, position, 1⟩
        else if !continues c then .error ⟨.invalidContinuation, a, position, 2⟩
        else (decodeFrom (position + 3) rest).map (three a b c :: ·)
    else if a < 0xF5 then
      match rest with
      | [] => .error ⟨.unexpectedEnd, a, position, 1⟩
      | [b] =>
        if continuesFour a b then .error ⟨.unexpectedEnd, a, position, 2⟩
        else .error ⟨.invalidContinuation, a, position, 1⟩
      | [b, c] =>
        if !continuesFour a b then .error ⟨.invalidContinuation, a, position, 1⟩
        else if !continues c then .error ⟨.invalidContinuation, a, position, 2⟩
        else .error ⟨.unexpectedEnd, a, position, 3⟩
      | b :: c :: d :: rest =>
        if !continuesFour a b then .error ⟨.invalidContinuation, a, position, 1⟩
        else if !continues c then .error ⟨.invalidContinuation, a, position, 2⟩
        else if !continues d then .error ⟨.invalidContinuation, a, position, 3⟩
        else (decodeFrom (position + 4) rest).map (four a b c d :: ·)
    else .error ⟨.invalidStart, a, position, 1⟩

/-- The characters that the octets stand for. -/
def decode (octets : List UInt8) : Except Fault (List Char) := decodeFrom 0 octets

/-- The octets of ASCII text, one for each character. -/
def encodeAscii (cs : List Char) : List UInt8 := cs.map fun c => UInt8.ofNat c.toNat

/-! ## The text of a fault -/

/-- The words for a reason. -/
def Reason.words : Reason → String
  | .invalidStart => "invalid start byte"
  | .invalidContinuation => "invalid continuation byte"
  | .unexpectedEnd => "unexpected end of data"

/-- Two hexadecimal digits, in lower case. -/
def hexOctet (b : UInt8) : String :=
  String.ofList [Nat.digitChar (b.toNat / 16), Nat.digitChar (b.toNat % 16)]

/-- One octet is named with its value, several by the positions they span. -/
def Fault.message (f : Fault) : String :=
  if f.count = 1 then
    "'utf-8' codec can't decode byte 0x" ++ hexOctet f.octet ++ " in position " ++
      toString f.position ++ ": " ++ f.reason.words
  else
    "'utf-8' codec can't decode bytes in position " ++ toString f.position ++ "-" ++
      toString (f.position + f.count - 1) ++ ": " ++ f.reason.words

/-! ## ASCII text -/

theorem decodeFrom_cons_ascii (position : Nat) (a : UInt8) (rest : List UInt8) (h : a < 0x80) :
    decodeFrom position (a :: rest) =
      (decodeFrom (position + 1) rest).map (Char.ofNat a.toNat :: ·) := by
  rw [decodeFrom.eq_def]
  simp [h]

/-- The octets of ASCII text read back as that text, wherever they stand. -/
theorem decodeFrom_encodeAscii (cs : List Char) (h : ∀ c ∈ cs, c.toNat < 128) (position : Nat) :
    decodeFrom position (encodeAscii cs) = .ok cs := by
  induction cs generalizing position with
  | nil => rfl
  | cons c cs ih =>
    have hc : c.toNat < 128 := h c (by simp)
    have hb : (UInt8.ofNat c.toNat) < 0x80 := by
      rw [UInt8.lt_iff_toNat_lt, UInt8.toNat_ofNat']
      show c.toNat % 256 < 128
      omega
    have hn : (UInt8.ofNat c.toNat).toNat = c.toNat := by
      rw [UInt8.toNat_ofNat']
      exact Nat.mod_eq_of_lt (by omega)
    have ht := ih (fun d hd => h d (List.mem_cons_of_mem _ hd)) (position + 1)
    show decodeFrom position (UInt8.ofNat c.toNat :: encodeAscii cs) = _
    rw [decodeFrom_cons_ascii _ _ _ hb, ht, hn]
    simp [Except.map, Char.ofNat_toNat]

/-- The octets of ASCII text read back as that text. -/
theorem decode_encodeAscii (cs : List Char) (h : ∀ c ∈ cs, c.toNat < 128) :
    decode (encodeAscii cs) = .ok cs := decodeFrom_encodeAscii cs h 0

end MailSchedule.Text.Utf8

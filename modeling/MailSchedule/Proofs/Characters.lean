import MailSchedule.Text.Octets

/-!
# Text that comes back from its octets

The octets of an ordinary string, read as UTF-8, are its characters again.

Results:

* `Text.Utf8.decodeFrom_encodePoint`: the octets of one character, whatever follows them.
* `Text.Utf8.decode_ofString`: the octets of a string.
-/

namespace MailSchedule.Text.Utf8

/-! ## Octets by their numbers -/

section

variable {n : Nat}

theorem toNat_ofNat (h : n < 256) : (UInt8.ofNat n).toNat = n := by
  rw [UInt8.toNat_ofNat']
  exact Nat.mod_eq_of_lt h

theorem ofNat_lt_iff (h : n < 256) (b : UInt8) : UInt8.ofNat n < b ↔ n < b.toNat := by
  rw [UInt8.lt_iff_toNat_lt, toNat_ofNat h]

theorem le_ofNat_iff (h : n < 256) (b : UInt8) : b ≤ UInt8.ofNat n ↔ b.toNat ≤ n := by
  rw [UInt8.le_iff_toNat_le, toNat_ofNat h]

theorem ofNat_eq_iff (h : n < 256) (b : UInt8) : UInt8.ofNat n = b ↔ n = b.toNat := by
  rw [← UInt8.toNat_inj, toNat_ofNat h]

/-- The octet with six bits of a character continues it. -/
theorem continues_ofNat (h : n < 64) : continues (UInt8.ofNat (0x80 + n)) = true := by
  have hoctet : 0x80 + n < 256 := by omega
  simp only [continues, Bool.and_eq_true, decide_eq_true_eq, le_ofNat_iff hoctet,
    UInt8.le_iff_toNat_le, toNat_ofNat hoctet]
  exact ⟨Nat.le_add_right 128 n, show 128 + n ≤ 191 by omega⟩

theorem payloadBits_ofNat (h : n < 64) : payloadBits (UInt8.ofNat (0x80 + n)) = n := by
  unfold payloadBits
  rw [toNat_ofNat (by omega)]
  omega

/-- The second of three octets, where no shorter form exists and the result is no surrogate. -/
theorem continuesThree_ofNat {m : Nat} (hm : m < 16) (h : n < 64) (hlow : m = 0 → 32 ≤ n)
    (hhigh : m = 13 → n < 32) :
    continuesThree (UInt8.ofNat (0xE0 + m)) (UInt8.ofNat (0x80 + n)) = true := by
  have hlead : 0xE0 + m < 256 := by omega
  have hsecond : 0x80 + n < 256 := by omega
  simp only [continuesThree, continues_ofNat h, Bool.true_and, Bool.and_eq_true, Bool.or_eq_true,
    bne_iff_ne, ne_eq, decide_eq_true_eq, ofNat_eq_iff hlead, le_ofNat_iff hsecond,
    ofNat_lt_iff hsecond]
  constructor
  · show ¬0xE0 + m = 0xE0 ∨ 0xA0 ≤ 0x80 + n
    omega
  · show ¬0xE0 + m = 0xED ∨ 0x80 + n < 0xA0
    omega

/-- The second of four octets, where no shorter form exists and the result is not too large. -/
theorem continuesFour_ofNat {m : Nat} (hm : m < 5) (h : n < 64) (hlow : m = 0 → 16 ≤ n)
    (hhigh : m = 4 → n < 16) :
    continuesFour (UInt8.ofNat (0xF0 + m)) (UInt8.ofNat (0x80 + n)) = true := by
  have hlead : 0xF0 + m < 256 := by omega
  have hsecond : 0x80 + n < 256 := by omega
  simp only [continuesFour, continues_ofNat h, Bool.true_and, Bool.and_eq_true, Bool.or_eq_true,
    bne_iff_ne, ne_eq, decide_eq_true_eq, ofNat_eq_iff hlead, le_ofNat_iff hsecond,
    ofNat_lt_iff hsecond]
  constructor
  · show ¬0xF0 + m = 0xF0 ∨ 0x90 ≤ 0x80 + n
    omega
  · show ¬0xF0 + m = 0xF4 ∨ 0x80 + n < 0x90
    omega

end

/-! ## Characters -/

section

variable (position : Nat) (rest : List UInt8) {m k l o : Nat}

theorem decodeFrom_two (hm : m < 32) (hleast : 2 ≤ m) (hk : k < 64) :
    decodeFrom position (UInt8.ofNat (0xC0 + m) :: UInt8.ofNat (0x80 + k) :: rest) =
      (decodeFrom (position + 2) rest).map (Char.ofNat (m * 64 + k) :: ·) := by
  have hlead : 0xC0 + m < 256 := by omega
  have hchar : two (UInt8.ofNat (0xC0 + m)) (UInt8.ofNat (0x80 + k)) = Char.ofNat (m * 64 + k) := by
    unfold two
    rw [toNat_ofNat hlead, payloadBits_ofNat hk, show 0xC0 + m - 0xC0 = m by omega]
  have hascii : ¬0xC0 + m < (0x80 : UInt8).toNat := show ¬0xC0 + m < 0x80 by omega
  have hstart : ¬0xC0 + m < (0xC2 : UInt8).toNat := show ¬0xC0 + m < 0xC2 by omega
  have hend : 0xC0 + m < (0xE0 : UInt8).toNat := show 0xC0 + m < 0xE0 by omega
  rw [decodeFrom.eq_def]
  simp only [ofNat_lt_iff hlead, hascii, hstart, hend, continues_ofNat hk, hchar, if_true, if_false]

theorem decodeFrom_three (hm : m < 16) (hk : k < 64) (hleast : m = 0 → 32 ≤ k)
    (hscalar : m = 13 → k < 32) (hl : l < 64) :
    decodeFrom position
        (UInt8.ofNat (0xE0 + m) :: UInt8.ofNat (0x80 + k) :: UInt8.ofNat (0x80 + l) :: rest) =
      (decodeFrom (position + 3) rest).map (Char.ofNat ((m * 64 + k) * 64 + l) :: ·) := by
  have hlead : 0xE0 + m < 256 := by omega
  have hchar : three (UInt8.ofNat (0xE0 + m)) (UInt8.ofNat (0x80 + k)) (UInt8.ofNat (0x80 + l)) =
      Char.ofNat ((m * 64 + k) * 64 + l) := by
    unfold three
    rw [toNat_ofNat hlead, payloadBits_ofNat hk, payloadBits_ofNat hl,
      show 0xE0 + m - 0xE0 = m by omega]
  have hascii : ¬0xE0 + m < (0x80 : UInt8).toNat := show ¬0xE0 + m < 0x80 by omega
  have hstart : ¬0xE0 + m < (0xC2 : UInt8).toNat := show ¬0xE0 + m < 0xC2 by omega
  have htwo : ¬0xE0 + m < (0xE0 : UInt8).toNat := show ¬0xE0 + m < 0xE0 by omega
  have hend : 0xE0 + m < (0xF0 : UInt8).toNat := show 0xE0 + m < 0xF0 by omega
  rw [decodeFrom.eq_def]
  simp only [ofNat_lt_iff hlead, hascii, hstart, htwo, hend,
    continuesThree_ofNat hm hk hleast hscalar, continues_ofNat hl, hchar, if_true, if_false]
  rfl

theorem decodeFrom_four (hm : m < 5) (hk : k < 64) (hleast : m = 0 → 16 ≤ k)
    (hgreatest : m = 4 → k < 16) (hl : l < 64) (ho : o < 64) :
    decodeFrom position
        (UInt8.ofNat (0xF0 + m) :: UInt8.ofNat (0x80 + k) :: UInt8.ofNat (0x80 + l) ::
          UInt8.ofNat (0x80 + o) :: rest) =
      (decodeFrom (position + 4) rest).map
        (Char.ofNat (((m * 64 + k) * 64 + l) * 64 + o) :: ·) := by
  have hlead : 0xF0 + m < 256 := by omega
  have hchar : four (UInt8.ofNat (0xF0 + m)) (UInt8.ofNat (0x80 + k)) (UInt8.ofNat (0x80 + l))
      (UInt8.ofNat (0x80 + o)) = Char.ofNat (((m * 64 + k) * 64 + l) * 64 + o) := by
    unfold four
    rw [toNat_ofNat hlead, payloadBits_ofNat hk, payloadBits_ofNat hl, payloadBits_ofNat ho,
      show 0xF0 + m - 0xF0 = m by omega]
  have hascii : ¬0xF0 + m < (0x80 : UInt8).toNat := show ¬0xF0 + m < 0x80 by omega
  have hstart : ¬0xF0 + m < (0xC2 : UInt8).toNat := show ¬0xF0 + m < 0xC2 by omega
  have htwo : ¬0xF0 + m < (0xE0 : UInt8).toNat := show ¬0xF0 + m < 0xE0 by omega
  have hthree : ¬0xF0 + m < (0xF0 : UInt8).toNat := show ¬0xF0 + m < 0xF0 by omega
  have hend : 0xF0 + m < (0xF5 : UInt8).toNat := show 0xF0 + m < 0xF5 by omega
  rw [decodeFrom.eq_def]
  simp only [ofNat_lt_iff hlead, hascii, hstart, htwo, hthree, hend,
    continuesFour_ofNat hm hk hleast hgreatest, continues_ofNat hl, continues_ofNat ho, hchar,
    if_true, if_false]
  rfl

end

theorem toNat_scalar (c : Char) : c.toNat < 0xD800 ∨ 0xDFFF < c.toNat ∧ c.toNat < 0x110000 :=
  c.valid

/-- The number of a character is no surrogate. -/
theorem isSurrogate_toNat (c : Char) : isSurrogate c.toNat = false := by
  have hvalid := toNat_scalar c
  simp only [isSurrogate, Bool.and_eq_false_iff, decide_eq_false_iff_not]
  omega

/-- The octets of a character are read as that character. -/
theorem decodeFrom_encodePoint (c : Char) (rest : List UInt8) (position : Nat) :
    decodeFrom position (encodePoint c.toNat ++ rest) =
      (decodeFrom (position + (encodePoint c.toNat).length) rest).map (c :: ·) := by
  have hvalid := toNat_scalar c
  have hc : Char.ofNat c.toNat = c := Char.ofNat_toNat c
  generalize c.toNat = n at hvalid hc
  subst hc
  have hlow : n / 1 % 64 < 64 := Nat.mod_lt _ (by decide)
  have hmiddle : n / 64 % 64 < 64 := Nat.mod_lt _ (by decide)
  have hhigh : n / 4096 % 64 < 64 := Nat.mod_lt _ (by decide)
  unfold encodePoint
  dsimp only
  split
  · have hascii : 0 + n / 1 < 256 := by omega
    have hread := decodeFrom_cons_ascii position (UInt8.ofNat (0 + n / 1)) rest
      ((ofNat_lt_iff hascii 0x80).2 (show 0 + n / 1 < 0x80 by omega))
    rw [toNat_ofNat hascii, show 0 + n / 1 = n by omega] at hread
    rw [show 0 + n / 1 = n by omega]
    exact hread
  · split
    · have hread := decodeFrom_two position rest (m := n / 64) (by omega) (by omega) hlow
      rw [show n / 64 * 64 + n / 1 % 64 = n by omega] at hread
      exact hread
    · split
      · have hread := decodeFrom_three position rest (m := n / 4096) (by omega) hmiddle (by omega)
          (by omega) hlow
        rw [show (n / 4096 * 64 + n / 64 % 64) * 64 + n / 1 % 64 = n by omega] at hread
        exact hread
      · have hread := decodeFrom_four position rest (m := n / 262144) (by omega) hhigh (by omega)
          (by omega) hmiddle hlow
        rw [show ((n / 262144 * 64 + n / 4096 % 64) * 64 + n / 64 % 64) * 64 + n / 1 % 64 = n by
          omega] at hread
        exact hread

/-- The octets of a string are read as its characters. -/
theorem decode_ofString (s : String) : decode (Octets.ofString s) = .ok s.toList := by
  have hfrom : ∀ (cs : List Char) (position : Nat),
      decodeFrom position ((cs.map Char.toNat).flatMap encodePoint) = .ok cs := by
    intro cs
    induction cs with
    | nil => exact fun _ => rfl
    | cons c cs ih =>
      intro position
      rw [List.map_cons, List.flatMap_cons, decodeFrom_encodePoint, ih]
      rfl
  exact hfrom s.toList 0

end MailSchedule.Text.Utf8

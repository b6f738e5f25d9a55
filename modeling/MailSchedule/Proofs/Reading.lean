import Mathlib.Algebra.Group.Nat.Defs
import MailSchedule.Proofs.Payloads

/-!
# What is read

Whatever document is read, its integers have no more digits than are allowed.  A document that is
not read because of an integer with too many digits has that many digits in a row.

Results:

* `exists_of_bind_ok`, `bind_eq_error_iff` and the like: results and errors of what is done in a
  row.
* `Json.readable_signed`: the integer that digits denote has no more digits than there are.
* `Json.ReadsWithin`: what reading at the front of some characters may come to.
* `Json.readValue_within`: reading a value comes to a value whose integers the reader takes, or to a
  problem.
* `Json.readDocument_readable`, `Json.exists_long_run`: the same of whole documents.
-/

namespace MailSchedule

/-! ## Results and errors -/

section

variable {ε ε' α β : Type} {x : Except ε α}

/-- What comes to a result in the end had one at the start. -/
theorem exists_of_bind_ok {f : α → Except ε β} {b : β} (h : (x >>= f) = .ok b) :
    ∃ a, x = .ok a ∧ f a = .ok b := by
  cases x with
  | error e => cases h
  | ok a => exact ⟨a, rfl, h⟩

/-- An error is that of the first part, or that of the second one. -/
theorem bind_eq_error_iff {f : α → Except ε β} {e : ε} :
    (x >>= f) = .error e ↔ x = .error e ∨ ∃ a, x = .ok a ∧ f a = .error e := by
  cases x with
  | error e' =>
    refine ⟨fun h => Or.inl (congrArg _ (Except.error.inj h)), fun h => ?_⟩
    rcases h with h | ⟨a, h, -⟩
    · exact congrArg _ (Except.error.inj h)
    · cases h
  | ok a =>
    refine ⟨fun h => Or.inr ⟨a, rfl, h⟩, fun h => ?_⟩
    rcases h with h | ⟨a', h, h'⟩
    · cases h
    · cases h
      exact h'

theorem mapError_eq_ok_iff {g : ε → ε'} {a : α} : x.mapError g = .ok a ↔ x = .ok a := by
  cases x with
  | error e => exact ⟨nofun, nofun⟩
  | ok b => exact ⟨fun h => congrArg _ (Except.ok.inj h), fun h => congrArg _ (Except.ok.inj h)⟩

theorem mapError_eq_error_iff {g : ε → ε'} {e' : ε'} :
    x.mapError g = .error e' ↔ ∃ e, x = .error e ∧ g e = e' := by
  cases x with
  | error e =>
    refine ⟨fun h => ⟨e, rfl, Except.error.inj h⟩, fun h => ?_⟩
    obtain ⟨e₁, h, rfl⟩ := h
    cases h
    rfl
  | ok b => exact ⟨nofun, nofun⟩

end

namespace Json

open MailSchedule.Decimal (Binary64)

/-! ## Digits -/

theorem digitValue_lt {c : Char} (h : c.isDigit = true) : c.toNat - '0'.toNat < 10 := by
  simp only [Char.isDigit, Bool.and_eq_true, decide_eq_true_eq] at h
  have hle : c.toNat ≤ 57 := UInt32.le_iff_toNat_le.1 h.2
  have hzero : '0'.toNat = 48 := rfl
  omega

theorem ofDigitChars_lt {ds : List Char} (h : ∀ c ∈ ds, c.isDigit = true) (start : Nat) :
    Nat.ofDigitChars 10 ds start < (start + 1) * 10 ^ ds.length := by
  induction ds generalizing start with
  | nil => simp [Nat.ofDigitChars]
  | cons c ds ih =>
    have hc := digitValue_lt (h c List.mem_cons_self)
    have hds := ih (fun d hd => h d (List.mem_cons_of_mem c hd)) (10 * start + (c.toNat - '0'.toNat))
    rw [Nat.ofDigitChars_cons]
    calc Nat.ofDigitChars 10 ds (10 * start + (c.toNat - '0'.toNat))
        < (10 * start + (c.toNat - '0'.toNat) + 1) * 10 ^ ds.length := hds
      _ ≤ ((start + 1) * 10) * 10 ^ ds.length := Nat.mul_le_mul_right _ (by omega)
      _ = (start + 1) * 10 ^ (c :: ds).length := by
        rw [List.length_cons, Nat.pow_succ, Nat.mul_assoc, Nat.mul_comm 10]

/-- Digits denote an integer that has no more digits than they are. -/
theorem readable_signed (negative : Bool) {ds : List Char} (h : ∀ c ∈ ds, c.isDigit = true)
    (hlength : ds.length ≤ maxDigits) : Readable (signed negative (ofDigits ds)) := by
  have hlt : ofDigits ds < 10 ^ maxDigits := by
    have hds := ofDigitChars_lt h 0
    rw [Nat.zero_add, Nat.one_mul] at hds
    exact Nat.lt_of_lt_of_le hds (Nat.pow_le_pow_right (by decide) hlength)
  have hmagnitude : (signed negative (ofDigits ds)).natAbs = ofDigits ds := by
    cases negative <;> simp [signed]
  unfold Readable
  rw [hmagnitude]
  exact (Nat.length_toDigits_le_iff (by decide) (by decide)).2 hlt

/-! ## Outcomes of reading -/

/-- A value in which no integer has more digits than the reader takes. -/
inductive Value.Readable : Value → Prop
  | null : Readable .null
  | bool (b : Bool) : Readable (.bool b)
  | int {i : Int} : Json.Readable i → Readable (.int i)
  | real (x : Binary64) : Readable (.real x)
  | string (cs : Text) : Readable (.string cs)
  | array {vs : List Value} : (∀ v ∈ vs, Readable v) → Readable (.array vs)
  | object {ms : List (Text × Value)} : (∀ m ∈ ms, Readable m.2) → Readable (.object ms)

/-- So many digits stand in a row among the characters. -/
def HasRun (n : Nat) (cs : List Char) : Prop :=
  ∃ ds, ds <:+: cs ∧ ds.length = n ∧ ∀ c ∈ ds, c.isDigit = true

/-- Reading at the front of some characters comes to a value with a property, and leaves the last of
the characters, or it stops.  If it stops at an integer with too many digits, these stand in a row
among the characters. -/
def ReadsWithin {α : Type} (Q : α → Prop) (cs : List Char) :
    Except Stop (α × List Char) → Prop
  | .ok (a, rest) => Q a ∧ rest <:+ cs
  | .error (.longInteger n) => maxDigits < n ∧ HasRun n cs
  | .error (.malformed _ _) => True

namespace ReadsWithin

variable {α β : Type} {Q : α → Prop} {Q' : β → Prop} {cs : List Char}
  {r : Except Stop (α × List Char)}

theorem stop (problem : Problem) (rest : List Char) : ReadsWithin Q cs (Json.stop problem rest) :=
  trivial

/-- Characters in front do not matter. -/
theorem of_suffix {ds : List Char} (h : ReadsWithin Q ds r) (hds : ds <:+ cs) :
    ReadsWithin Q cs r := by
  match r, h with
  | .ok (a, rest), h => exact ⟨h.1, h.2.trans hds⟩
  | .error (.longInteger n), ⟨hn, run, hrun, hdigits⟩ =>
    exact ⟨hn, run, hrun.trans hds.isInfix, hdigits⟩
  | .error (.malformed _ _), _ => trivial

theorem map (h : ReadsWithin Q cs r) {f : α → β} (hf : ∀ a, Q a → Q' (f a)) :
    ReadsWithin Q' cs (r.map fun p => (f p.1, p.2)) := by
  match r, h with
  | .ok (a, rest), h => exact ⟨hf a h.1, h.2⟩
  | .error (.longInteger n), h => exact h
  | .error (.malformed _ _), _ => trivial

theorem bind (h : ReadsWithin Q cs r) {next : α × List Char → Except Stop (β × List Char)}
    (hnext : ∀ a rest, Q a → rest <:+ cs → ReadsWithin Q' cs (next (a, rest))) :
    ReadsWithin Q' cs (r >>= next) := by
  match r, h with
  | .ok (a, rest), h => exact hnext a rest h.1 h.2
  | .error (.longInteger n), h => exact h
  | .error (.malformed _ _), _ => trivial

theorem prepend {r : Except Stop (Text × List Char)} (h : ReadsWithin (fun _ => True) cs r)
    (c : Nat) : ReadsWithin (fun _ => True) cs (prepend c r) := h.map fun _ _ => trivial

end ReadsWithin

theorem skipBlanks_suffix (cs : List Char) : skipBlanks cs <:+ cs := List.dropWhile_suffix _

/-- What stands behind a first character was behind all of them. -/
theorem suffix_of_skipBlanks {c : Char} {cs rest : List Char} (h : skipBlanks cs = c :: rest) :
    rest <:+ cs := by
  have hsuffix := skipBlanks_suffix cs
  rw [h] at hsuffix
  exact (List.suffix_cons c rest).trans hsuffix

/-! ## Strings and words -/

theorem lowHalf_error {high : Nat} {cs : List Char} {e : Stop} (h : lowHalf high cs = .error e) :
    ∃ problem rest, e = .malformed problem rest := by
  unfold lowHalf at h
  split at h
  · split at h
    · split at h
      · cases h
        exact ⟨_, _, rfl⟩
      · cases h
    · cases h
  · cases h

theorem readString_within (opening cs : List Char) :
    ReadsWithin (fun _ => True) cs (readString opening cs) := by
  fun_induction readString opening cs with
  | case1 => exact .stop _ _
  | case2 rest => exact ⟨trivial, List.suffix_cons _ rest⟩
  | case3 => exact .stop _ _
  | case4 a b c d rest high _ _ e hlow =>
    obtain ⟨problem, rest', rfl⟩ := lowHalf_error hlow
    exact trivial
  | case5 a b c d rest high _ _ _ ih =>
    exact (ih.prepend high).of_suffix (List.suffix_append ['\\', 'u', a, b, c, d] rest)
  | case6 a b c d high _ low c₁ c₂ c₃ c₄ c₅ c₆ rest _ _ ih =>
    exact (ih.prepend _).of_suffix
      (List.suffix_append ['\\', 'u', a, b, c, d, c₁, c₂, c₃, c₄, c₅, c₆] rest)
  | case7 => exact .stop _ _
  | case8 => exact .stop _ _
  | case9 => exact .stop _ _
  | case10 => exact .stop _ _
  | case11 letter rest _ _ c _ ih =>
    exact (ih.prepend _).of_suffix (List.suffix_append ['\\', letter] rest)
  | case12 => exact .stop _ _
  | case13 c rest _ _ _ _ _ _ ih => exact (ih.prepend _).of_suffix (List.suffix_cons c rest)

theorem literal?_within {cs rest : List Char} {v : Value} (h : literal? cs = some (v, rest)) :
    v.Readable ∧ rest <:+ cs := by
  unfold literal? at h
  obtain ⟨w, hw, hword⟩ := List.exists_of_findSome?_eq_some h
  split at hword
  · cases hword
    refine ⟨?_, List.drop_suffix _ _⟩
    simp only [literals, List.mem_cons, List.not_mem_nil, or_false] at hw
    rcases hw with rfl | rfl | rfl | rfl | rfl | rfl
    · exact .null
    · exact .bool true
    · exact .bool false
    · exact .real _
    · exact .real _
    · exact .real _
  · cases hword

/-! ## Numbers -/

theorem wholeDigits_within (cs : List Char) :
    (wholeDigits cs).1 <:+: cs ∧ (∀ c ∈ (wholeDigits cs).1, c.isDigit = true) ∧
      (wholeDigits cs).2 <:+ cs := by
  cases cs with
  | nil => exact ⟨List.infix_rfl, nofun, List.suffix_rfl⟩
  | cons c rest =>
    unfold wholeDigits
    dsimp only
    by_cases hc : c = '0'
    · rw [if_pos hc]
      refine ⟨(List.prefix_append [c] rest).isInfix, ?_, List.suffix_cons c rest⟩
      intro d hd
      rw [List.mem_singleton.1 hd, hc]
      rfl
    · rw [if_neg hc]
      exact ⟨(List.takeWhile_prefix _).isInfix, List.all_eq_true.1 List.all_takeWhile,
        List.dropWhile_suffix _⟩

theorem fractionDigits_suffix (cs : List Char) : (fractionDigits cs).2 <:+ cs := by
  unfold fractionDigits
  split
  · split
    · exact List.suffix_rfl
    · exact (List.dropWhile_suffix _).trans (List.suffix_cons _ _)
  · exact List.suffix_rfl

theorem exponentSign_suffix (cs : List Char) : (exponentSign cs).2 <:+ cs := by
  unfold exponentSign
  split
  · exact List.suffix_cons _ _
  · exact List.suffix_cons _ _
  · exact List.suffix_rfl

theorem exponentPart_suffix (cs : List Char) : (exponentPart cs).2 <:+ cs := by
  cases cs with
  | nil => exact List.suffix_rfl
  | cons c rest =>
    unfold exponentPart
    dsimp only
    split
    · split
      · exact List.suffix_rfl
      · exact (List.dropWhile_suffix _).trans
          ((exponentSign_suffix rest).trans (List.suffix_cons c rest))
    · exact List.suffix_rfl

/-- The value of a number is an integer that the reader takes or no integer at all, unless there are
too many digits. -/
theorem numberValue_cases (negative : Bool) {whole : List Char} (fraction : List Char)
    (exponent : Option Int) (h : ∀ c ∈ whole, c.isDigit = true) :
    (∃ v, numberValue negative whole fraction exponent = .ok v ∧ v.Readable) ∨
      (numberValue negative whole fraction exponent = .error (.longInteger whole.length) ∧
        maxDigits < whole.length) := by
  unfold numberValue
  split
  · split
    · rename_i hlong
      exact Or.inr ⟨rfl, hlong⟩
    · rename_i hshort
      exact Or.inl ⟨_, rfl, .int (readable_signed negative h (Nat.le_of_not_lt hshort))⟩
  · exact Or.inl ⟨_, rfl, .real _⟩

theorem readUnsigned_within (negative : Bool) (start cs : List Char) :
    ReadsWithin Value.Readable cs (readUnsigned negative start cs) := by
  obtain ⟨hwhole, hdigits, hrest⟩ := wholeDigits_within cs
  unfold readUnsigned
  dsimp only
  split
  · exact .stop _ _
  · rcases numberValue_cases negative (fractionDigits (wholeDigits cs).2).1
      (exponentPart (fractionDigits (wholeDigits cs).2).2).1 hdigits with ⟨v, hv, hread⟩ | ⟨hv, hlong⟩
    · rw [hv]
      exact ⟨hread, (exponentPart_suffix _).trans ((fractionDigits_suffix _).trans hrest)⟩
    · rw [hv]
      exact ⟨hlong, _, hwhole, rfl, hdigits⟩

theorem readNumber_within (cs : List Char) :
    ReadsWithin Value.Readable cs (readNumber cs) := by
  unfold readNumber
  split
  · exact (readUnsigned_within true _ _).of_suffix (List.suffix_cons _ _)
  · exact readUnsigned_within false _ _

/-! ## Values -/

theorem readable_putMember {name : Text} {v : Value} (hv : v.Readable)
    {ms : List (Text × Value)} (hms : ∀ m ∈ ms, m.2.Readable) :
    ∀ m ∈ Value.putMember name v ms, m.2.Readable := by
  induction ms with
  | nil =>
    intro m hm
    rw [List.mem_singleton.1 hm]
    exact hv
  | cons m₀ ms ih =>
    intro m hm
    unfold Value.putMember at hm
    split at hm
    · rcases List.mem_cons.1 hm with rfl | hm
      · exact hv
      · exact hms m (List.mem_cons_of_mem m₀ hm)
    · rcases List.mem_cons.1 hm with rfl | hm
      · exact hms _ List.mem_cons_self
      · exact ih (fun m' hm' => hms m' (List.mem_cons_of_mem m₀ hm')) m hm

theorem readable_ofMembers {ms : List (Text × Value)} (hms : ∀ m ∈ ms, m.2.Readable) :
    (Value.ofMembers ms).Readable := by
  have hfold : ∀ acc : List (Text × Value), (∀ m ∈ acc, m.2.Readable) →
      ∀ m ∈ ms.foldl (fun acc m => Value.putMember m.1 m.2 acc) acc, m.2.Readable := by
    induction ms with
    | nil => exact fun acc hacc => hacc
    | cons m₀ ms ih =>
      intro acc hacc
      exact ih (fun m hm => hms m (List.mem_cons_of_mem m₀ hm)) _
        (readable_putMember (hms m₀ List.mem_cons_self) hacc)
  exact .object (hfold [] nofun)

section

variable {steps : Nat} (hvalue : ∀ cs, ReadsWithin Value.Readable cs (readValue steps cs))
  (hitems : ∀ cs, ReadsWithin (fun vs => ∀ v ∈ vs, Value.Readable v) cs (readItems steps cs))
  (hmembers : ∀ cs,
    ReadsWithin (fun ms => ∀ m ∈ ms, Value.Readable m.2) cs (readMembers steps cs))

include hitems hmembers in
theorem readValue_succ_within (cs : List Char) :
    ReadsWithin Value.Readable cs (readValue (steps + 1) cs) := by
  unfold readValue
  split
  · rename_i rest
    exact ((readString_within _ rest).map fun cs _ => .string cs).of_suffix
      (List.suffix_cons _ rest)
  · rename_i rest
    split
    · rename_i after hafter
      have hsuffix := (suffix_of_skipBlanks hafter).trans (List.suffix_cons '{' rest)
      exact ⟨.object (List.forall_mem_nil _), hsuffix⟩
    · exact ((hmembers _).map fun ms hms => readable_ofMembers hms).of_suffix
        ((skipBlanks_suffix rest).trans (List.suffix_cons _ rest))
  · rename_i rest
    split
    · rename_i after hafter
      have hsuffix := (suffix_of_skipBlanks hafter).trans (List.suffix_cons '[' rest)
      exact ⟨.array (List.forall_mem_nil _), hsuffix⟩
    · exact ((hitems _).map fun vs hvs => .array hvs).of_suffix
        ((skipBlanks_suffix rest).trans (List.suffix_cons _ rest))
  · split
    · rename_i p hp
      exact literal?_within hp
    · exact readNumber_within cs

include hvalue hitems in
theorem readItems_succ_within (cs : List Char) :
    ReadsWithin (fun vs => ∀ v ∈ vs, Value.Readable v) cs (readItems (steps + 1) cs) := by
  unfold readItems
  refine (hvalue cs).bind fun v rest hv hrest => ?_
  dsimp only
  split
  · rename_i after hafter
    exact ⟨by simpa using hv, (suffix_of_skipBlanks hafter).trans hrest⟩
  · rename_i after hafter
    have hsuffix := (skipBlanks_suffix after).trans ((suffix_of_skipBlanks hafter).trans hrest)
    refine ((hitems _).map (f := fun vs => v :: vs) fun vs hvs => ?_).of_suffix hsuffix
    exact List.forall_mem_cons.2 ⟨hv, hvs⟩
  · exact .stop _ _

include hvalue hmembers in
theorem readMembers_succ_within (cs : List Char) :
    ReadsWithin (fun ms => ∀ m ∈ ms, Value.Readable m.2) cs (readMembers (steps + 1) cs) := by
  unfold readMembers
  split
  · rename_i rest
    refine ReadsWithin.of_suffix ?_ (List.suffix_cons _ rest)
    refine (readString_within _ rest).bind fun name after _ hafter => ?_
    dsimp only
    split
    · rename_i tail htail
      have hvalues := (skipBlanks_suffix tail).trans ((suffix_of_skipBlanks htail).trans hafter)
      refine ((hvalue _).of_suffix hvalues).bind fun v left hv hleft => ?_
      dsimp only
      split
      · rename_i last hlast
        exact ⟨by simpa using hv, (suffix_of_skipBlanks hlast).trans hleft⟩
      · rename_i more hmore
        have hsuffix := (skipBlanks_suffix more).trans ((suffix_of_skipBlanks hmore).trans hleft)
        refine ((hmembers _).map (f := fun ms => (name, v) :: ms) fun ms hms => ?_).of_suffix
          hsuffix
        exact List.forall_mem_cons.2 ⟨hv, hms⟩
      · exact .stop _ _
    · exact .stop _ _
  · exact .stop _ _

end

/-- Reading a value, items or members, by induction on the steps that are left. -/
theorem readValue_within (steps : Nat) :
    (∀ cs, ReadsWithin Value.Readable cs (readValue steps cs)) ∧
      (∀ cs, ReadsWithin (fun vs => ∀ v ∈ vs, Value.Readable v) cs (readItems steps cs)) ∧
      ∀ cs, ReadsWithin (fun ms => ∀ m ∈ ms, Value.Readable m.2) cs (readMembers steps cs) := by
  induction steps with
  | zero => exact ⟨fun _ => .stop _ _, fun _ => .stop _ _, fun _ => .stop _ _⟩
  | succ steps ih =>
    obtain ⟨hvalue, hitems, hmembers⟩ := ih
    exact ⟨readValue_succ_within hitems hmembers, readItems_succ_within hvalue hitems,
      readMembers_succ_within hvalue hmembers⟩

/-! ## Documents -/

theorem readWhole_cases (cs : List Char) :
    (∃ v, readWhole cs = .ok v ∧ v.Readable) ∨
      (∃ problem rest, readWhole cs = .error (.malformed problem rest)) ∨
      ∃ n, readWhole cs = .error (.longInteger n) ∧ maxDigits < n ∧ HasRun n cs := by
  unfold readWhole
  split
  · exact Or.inr (Or.inl ⟨_, _, rfl⟩)
  · have h := ((readValue_within (2 * cs.length + 2)).1 (skipBlanks cs)).of_suffix
      (skipBlanks_suffix cs)
    simp only [bind, Except.bind]
    match readValue (2 * cs.length + 2) (skipBlanks cs), h with
    | .error (.longInteger n), h => exact Or.inr (Or.inr ⟨n, rfl, h⟩)
    | .error (.malformed problem rest), _ => exact Or.inr (Or.inl ⟨problem, rest, rfl⟩)
    | .ok (v, rest), h =>
      dsimp only
      split
      · exact Or.inl ⟨v, rfl, h.1⟩
      · exact Or.inr (Or.inl ⟨_, _, rfl⟩)

/-- No integer in a document that is read has more digits than the reader takes. -/
theorem readDocument_readable {cs : List Char} {v : Value} (h : readDocument cs = .ok v) :
    v.Readable := by
  unfold readDocument at h
  rcases readWhole_cases cs with ⟨w, hw, hread⟩ | ⟨problem, rest, hw⟩ | ⟨n, hw, -⟩
  · rw [hw] at h
    cases h
    exact hread
  · rw [hw] at h
    cases h
  · rw [hw] at h
    cases h

/-- If the reader stops at an integer with too many digits, these are there. -/
theorem exists_long_run {cs : List Char} {n : Nat}
    (h : readDocument cs = .error (.longInteger n)) : maxDigits < n ∧ HasRun n cs := by
  unfold readDocument at h
  rcases readWhole_cases cs with ⟨w, hw, -⟩ | ⟨problem, rest, hw⟩ | ⟨m, hw, hm, hrun⟩
  · rw [hw] at h
    cases h
  · rw [hw] at h
    cases h
  · rw [hw] at h
    cases h
    exact ⟨hm, hrun⟩

end Json

end MailSchedule

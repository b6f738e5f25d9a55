import MailSchedule.Proofs.JsonTexts
import MailSchedule.Proofs.Reading

/-!
# Nothing but texts is read

The reader reads every text of a value, and it reads nothing else: whatever it takes for a value is
one of the texts of that value.  So the documents that are read are exactly those of the grammar.

Results:

* `unitsText_of_readString`, `numberText_of_readNumber`: what is read as a string or a number.
* `texts_of_read`: what is read as a value, as items or as members.
* `readDocument_eq_ok_iff`: the documents that are read as a value are its texts.
-/

namespace MailSchedule.Json

/-! ## Strings -/

theorem prepend_eq_ok_iff {c : Nat} {r : Except Stop (Text × List Char)} {t : Text}
    {rest : List Char} :
    prepend c r = .ok (t, rest) ↔ ∃ t', r = .ok (t', rest) ∧ t = c :: t' := by
  cases r with
  | error e => exact ⟨nofun, nofun⟩
  | ok p =>
    constructor
    · intro h
      cases h
      exact ⟨p.1, rfl, rfl⟩
    · rintro ⟨t', h, rfl⟩
      cases h
      rfl

/-- Where the reader finds the second half of a pair, an escape by number stands. -/
theorem lowHalf_eq_some {u v : Nat} {cs : List Char} (h : lowHalf u cs = .ok (some v)) :
    ∃ a b c d rest, cs = '\\' :: 'u' :: a :: b :: c :: d :: rest ∧ hexUnit? a b c d = some v ∧
      arePair u v = true := by
  unfold lowHalf at h
  split at h
  · rename_i a b c d next more
    split at h
    · rename_i hhigh
      split at h
      · cases h
      · rename_i low hlow
        by_cases hpair : isLowSurrogate low = true
        · rw [if_pos hpair] at h
          cases h
          exact ⟨a, b, c, d, next :: more, rfl, hlow, by rw [arePair, hhigh, hpair]; rfl⟩
        · rw [if_neg hpair] at h
          cases h
    · cases h
  · cases h

/-- What is read as a string, up to its quote, are the signs of units that the string is made
of. -/
theorem unitsText_of_readString {opening cs rest : List Char} {t : Text}
    (h : readString opening cs = .ok (t, rest)) :
    ∃ us es, cs = es ++ '"' :: rest ∧ UnitsText us es ∧ joinPairs us = t := by
  fun_induction readString opening cs generalizing t with
  | case1 => cases h
  | case2 rest' =>
    cases h
    exact ⟨[], [], rfl, .nil, rfl⟩
  | case3 => cases h
  | case4 => cases h
  | case5 a b c d more high hhigh hne hlow ih =>
    obtain ⟨t', hread, rfl⟩ := prepend_eq_ok_iff.1 h
    obtain ⟨us, es, rfl, hus, rfl⟩ := ih hread
    rw [lowHalf_units high hus] at hlow
    exact ⟨high :: us, _, rfl, .cons (.number hhigh) hus, joinPairs_cons (Except.ok.inj hlow)⟩
  | case6 a b c d high hhigh low c₁ c₂ c₃ c₄ c₅ c₆ more hne hlow ih =>
    obtain ⟨t', hread, rfl⟩ := prepend_eq_ok_iff.1 h
    obtain ⟨us, es, rfl, hus, rfl⟩ := ih hread
    obtain ⟨a', b', c', d', rest', heq, hlow, hpair⟩ := lowHalf_eq_some hlow
    cases heq
    refine ⟨high :: low :: us, _, rfl, .cons (.number hhigh) (.cons (.number hlow) hus), ?_⟩
    rw [joinPairs, if_pos hpair]
  | case7 => cases h
  | case8 => cases h
  | case9 => cases h
  | case10 => cases h
  | case11 letter more hu hletter c hc ih =>
    obtain ⟨t', hread, rfl⟩ := prepend_eq_ok_iff.1 h
    obtain ⟨us, es, rfl, hus, rfl⟩ := ih hread
    exact ⟨c.toNat :: us, _, rfl, .cons (.letter hc) hus, joinPairs_toNat_cons c us⟩
  | case12 => cases h
  | case13 c more hquote hlast _ _ hescape hcontrol ih =>
    have hslash : c ≠ '\\' := by
      intro hc
      cases more with
      | nil => exact hlast hc rfl
      | cons letter more => exact hescape letter more hc rfl
    obtain ⟨t', hread, rfl⟩ := prepend_eq_ok_iff.1 h
    obtain ⟨us, es, rfl, hus, rfl⟩ := ih hread
    have hplain : IsPlain c := ⟨hquote, hslash, Nat.le_of_not_lt hcontrol⟩
    exact ⟨c.toNat :: us, _, rfl, .cons (.plain hplain) hus, joinPairs_toNat_cons c us⟩

/-! ## Numbers -/

theorem digits_of_takeWhile (cs : List Char) :
    ∀ c ∈ cs.takeWhile Char.isDigit, c.isDigit = true := List.all_eq_true.1 List.all_takeWhile

theorem wholeText_of_wholeDigits {cs : List Char} (h : (wholeDigits cs).1.isEmpty = false) :
    WholeText (wholeDigits cs).1 ∧ cs = (wholeDigits cs).1 ++ (wholeDigits cs).2 := by
  cases cs with
  | nil => cases h
  | cons c cs =>
    unfold wholeDigits at h ⊢
    dsimp only at h ⊢
    by_cases hc : c = '0'
    · rw [if_pos hc, hc]
      exact ⟨.zero, rfl⟩
    · rw [if_neg hc] at h ⊢
      refine ⟨?_, List.takeWhile_append_dropWhile.symm⟩
      have hdigits := digits_of_takeWhile (c :: cs)
      by_cases hdigit : c.isDigit = true
      · dsimp only
        rw [List.takeWhile_cons_of_pos hdigit] at hdigits ⊢
        exact .digits hc hdigits
      · rw [List.takeWhile_cons_of_neg hdigit] at h
        cases h

theorem fractionText_of_fractionDigits (cs : List Char) :
    ∃ fraction, cs = fraction ++ (fractionDigits cs).2 ∧
      FractionText (fractionDigits cs).1 fraction := by
  unfold fractionDigits
  split
  · rename_i rest
    split
    · exact ⟨[], rfl, .absent⟩
    · rename_i hne
      refine ⟨'.' :: rest.takeWhile Char.isDigit, ?_, .present ?_ (digits_of_takeWhile rest)⟩
      · rw [List.cons_append, List.takeWhile_append_dropWhile]
      · simpa using hne
  · exact ⟨[], rfl, .absent⟩

theorem exponentSignText_of_exponentSign (cs : List Char) :
    ∃ sign, cs = sign ++ (exponentSign cs).2 ∧ ExponentSignText (exponentSign cs).1 sign := by
  unfold exponentSign
  split
  · exact ⟨['-'], rfl, .minus⟩
  · exact ⟨['+'], rfl, .plus⟩
  · exact ⟨[], rfl, .absent⟩

theorem exponentText_of_exponentPart (cs : List Char) :
    ∃ exponent, cs = exponent ++ (exponentPart cs).2 ∧
      ExponentText (exponentPart cs).1 exponent := by
  cases cs with
  | nil => exact ⟨[], rfl, .absent⟩
  | cons c cs =>
    obtain ⟨sign, hsplit, hsign⟩ := exponentSignText_of_exponentSign cs
    unfold exponentPart
    dsimp only
    split
    · rename_i hletter
      split
      · exact ⟨[], rfl, .absent⟩
      · rename_i hne
        refine ⟨c :: (sign ++ (exponentSign cs).2.takeWhile Char.isDigit), ?_,
          .present (by simpa using hletter) hsign (by simpa using hne) (digits_of_takeWhile _)⟩
        rw [List.cons_append, List.append_assoc, List.takeWhile_append_dropWhile, ← hsplit]
    · exact ⟨[], rfl, .absent⟩

/-- The value of a number tells whether it has a fraction or an exponent. -/
theorem numberText_of_numberValue {negative : Bool}
    {minus whole digits fraction exponent : List Char} {e : Option Int} {v : Value}
    (hminus : MinusText negative minus) (hwhole : WholeText whole)
    (hfraction : FractionText digits fraction) (hexponent : ExponentText e exponent)
    (h : numberValue negative whole digits e = .ok v) :
    NumberText v (minus ++ (whole ++ (fraction ++ exponent))) := by
  unfold numberValue at h
  split at h
  · rename_i hnone
    rw [Bool.and_eq_true, List.isEmpty_iff, Option.isNone_iff_eq_none] at hnone
    obtain ⟨rfl, rfl⟩ := hnone
    split at h
    · cases h
    · rename_i hlength
      cases h
      cases hexponent
      cases hfraction with
      | absent =>
        rw [List.append_nil, List.append_nil]
        exact .int hminus hwhole (Nat.le_of_not_lt hlength)
      | present hne => exact absurd rfl hne
  · rename_i hsome
    cases h
    refine .real hminus hwhole hfraction hexponent fun hnil => hsome ?_
    obtain ⟨rfl, rfl⟩ := List.append_eq_nil_iff.1 hnil
    cases hfraction
    cases hexponent
    rfl

theorem numberText_of_readUnsigned {negative : Bool} {minus start cs rest : List Char} {v : Value}
    (hminus : MinusText negative minus) (h : readUnsigned negative start cs = .ok (v, rest)) :
    ∃ es, minus ++ cs = es ++ rest ∧ NumberText v es := by
  unfold readUnsigned at h
  dsimp only at h
  split at h
  · cases h
  · rename_i hne
    obtain ⟨hwhole, hcs⟩ := wholeText_of_wholeDigits (Bool.eq_false_iff.2 hne)
    obtain ⟨fraction, hrest, hfraction⟩ := fractionText_of_fractionDigits (wholeDigits cs).2
    obtain ⟨exponent, hend, hexponent⟩ :=
      exponentText_of_exponentPart (fractionDigits (wholeDigits cs).2).2
    cases hvalue : numberValue negative (wholeDigits cs).1 (fractionDigits (wholeDigits cs).2).1
        (exponentPart (fractionDigits (wholeDigits cs).2).2).1 with
    | error e =>
      rw [hvalue] at h
      cases h
    | ok v' =>
      rw [hvalue] at h
      cases h
      refine ⟨_, ?_, numberText_of_numberValue hminus hwhole hfraction hexponent hvalue⟩
      calc minus ++ cs
          = minus ++ ((wholeDigits cs).1 ++ (fraction ++ (exponent ++
              (exponentPart (fractionDigits (wholeDigits cs).2).2).2))) := by
            rw [← hend, ← hrest, ← hcs]
        _ = _ := by simp only [List.append_assoc]

/-- What is read as a number is a text of it. -/
theorem numberText_of_readNumber {cs rest : List Char} {v : Value}
    (h : readNumber cs = .ok (v, rest)) : ∃ es, cs = es ++ rest ∧ NumberText v es := by
  unfold readNumber at h
  split at h
  · exact numberText_of_readUnsigned .present h
  · exact numberText_of_readUnsigned .absent h

/-! ## Values -/

theorem word_of_literal? {cs rest : List Char} {v : Value} (h : literal? cs = some (v, rest)) :
    ∃ w ∈ literals, w.2 = v ∧ cs = w.1 ++ rest := by
  obtain ⟨w, hw, hword⟩ := List.exists_of_findSome?_eq_some h
  split at hword
  · rename_i hprefix
    cases hword
    obtain ⟨rest, rfl⟩ := List.isPrefixOf_iff_prefix.1 hprefix
    exact ⟨w, hw, rfl, by rw [List.drop_left]⟩
  · cases hword

theorem exists_blanks (cs : List Char) : ∃ b, Blanks b ∧ cs = b ++ skipBlanks cs :=
  ⟨cs.takeWhile isBlank, List.all_eq_true.1 List.all_takeWhile,
    List.takeWhile_append_dropWhile.symm⟩

theorem Blanks.append {b b' : List Char} (h : Blanks b) (h' : Blanks b') : Blanks (b ++ b') :=
  List.forall_mem_append.2 ⟨h, h'⟩

/-- More blanks may stand before the items of an array. -/
theorem ItemsText.blanks {b cs : List Char} {vs : List Value} (hb : Blanks b)
    (h : ItemsText vs cs) : ItemsText vs (b ++ cs) := by
  cases h with
  | none hb' => exact .none (hb.append hb')
  | one hb₁ hv hb₂ =>
    rw [← List.append_assoc]
    exact .one (hb.append hb₁) hv hb₂
  | more hb₁ hv hb₂ hvs =>
    rw [← List.append_assoc]
    exact .more (hb.append hb₁) hv hb₂ hvs

theorem MemberText.blanks {b cs : List Char} {m : Text × Value} (hb : Blanks b)
    (h : MemberText m cs) : MemberText m (b ++ cs) := by
  cases h with
  | named hb₁ hn hb₂ hb₃ hv hb₄ =>
    rw [← List.append_assoc]
    exact .named (hb.append hb₁) hn hb₂ hb₃ hv hb₄

theorem MembersText.blanks {b cs : List Char} {ms : List (Text × Value)} (hb : Blanks b)
    (h : MembersText ms cs) : MembersText ms (b ++ cs) := by
  cases h with
  | none hb' => exact .none (hb.append hb')
  | one hm => exact .one (hm.blanks hb)
  | more hm hms =>
    rw [← List.append_assoc]
    exact .more (hm.blanks hb) hms

/-- A reader reads nothing but texts, up to the characters that close them. -/
def ReadsTexts {α : Type} (P : α → List Char → Prop) (closing : List Char)
    (read : List Char → Except Stop (α × List Char)) : Prop :=
  ∀ cs a rest, read cs = .ok (a, rest) → ∃ es, cs = es ++ (closing ++ rest) ∧ P a es

theorem map_eq_ok_iff {α β : Type} {r : Except Stop (α × List Char)} {f : α → β} {b : β}
    {rest : List Char} :
    (r.map fun p => (f p.1, p.2)) = .ok (b, rest) ↔ ∃ a, r = .ok (a, rest) ∧ f a = b := by
  cases r with
  | error e => exact ⟨nofun, nofun⟩
  | ok p =>
    constructor
    · intro h
      cases h
      exact ⟨p.1, rfl, rfl⟩
    · rintro ⟨a, h, rfl⟩
      cases h
      rfl

section

variable {steps : Nat} (hvalue : ReadsTexts ValueText [] (readValue steps))
  (hitems : ReadsTexts (fun vs es => ItemsText vs es ∧ vs ≠ []) [']'] (readItems steps))
  (hmembers : ReadsTexts (fun ms es => MembersText ms es ∧ ms ≠ []) ['}'] (readMembers steps))

include hitems hmembers in
theorem readValue_succ_texts : ReadsTexts ValueText [] (readValue (steps + 1)) := by
  intro cs v rest h
  unfold readValue at h
  split at h
  · rename_i more
    obtain ⟨t, hread, rfl⟩ := map_eq_ok_iff.1 h
    obtain ⟨us, es, rfl, hus, rfl⟩ := unitsText_of_readString hread
    exact ⟨_, by simp, .string (.quoted hus)⟩
  · rename_i more
    obtain ⟨b, hb, hmore⟩ := exists_blanks more
    split at h
    · rename_i after hafter
      cases h
      rw [hafter] at hmore
      exact ⟨'{' :: (b ++ ['}']), by simp [hmore], .object (.none hb)⟩
    · obtain ⟨ms, hread, rfl⟩ := map_eq_ok_iff.1 h
      obtain ⟨es, hes, hms, -⟩ := hmembers _ _ _ hread
      rw [hes] at hmore
      exact ⟨'{' :: (b ++ es ++ ['}']), by simp [hmore], .object (hms.blanks hb)⟩
  · rename_i more
    obtain ⟨b, hb, hmore⟩ := exists_blanks more
    split at h
    · rename_i after hafter
      cases h
      rw [hafter] at hmore
      exact ⟨'[' :: (b ++ [']']), by simp [hmore], .array (.none hb)⟩
    · obtain ⟨vs, hread, rfl⟩ := map_eq_ok_iff.1 h
      obtain ⟨es, hes, hvs, -⟩ := hitems _ _ _ hread
      rw [hes] at hmore
      exact ⟨'[' :: (b ++ es ++ [']']), by simp [hmore], .array (hvs.blanks hb)⟩
  · split at h
    · rename_i p hword
      cases h
      obtain ⟨w, hw, rfl, rfl⟩ := word_of_literal? hword
      exact ⟨w.1, rfl, .word hw⟩
    · obtain ⟨es, rfl, hv⟩ := numberText_of_readNumber h
      exact ⟨es, rfl, .number hv⟩

include hvalue hitems in
theorem readItems_succ_texts :
    ReadsTexts (fun vs es => ItemsText vs es ∧ vs ≠ []) [']'] (readItems (steps + 1)) := by
  intro cs vs rest h
  unfold readItems at h
  obtain ⟨⟨v, more⟩, hread, hbehind⟩ := exists_of_bind_ok h
  obtain ⟨es, hcs, hv⟩ := hvalue _ _ _ hread
  obtain ⟨b, hb, hmore⟩ := exists_blanks more
  dsimp only at hbehind
  split at hbehind
  · rename_i after hafter
    cases hbehind
    rw [hafter] at hmore
    exact ⟨[] ++ (es ++ b), by simp [hcs, hmore], .one (List.forall_mem_nil _) hv hb, by simp⟩
  · rename_i after hafter
    obtain ⟨vs, hread, rfl⟩ := map_eq_ok_iff.1 hbehind
    obtain ⟨ds, hds, hvs, hne⟩ := hitems _ _ _ hread
    obtain ⟨b', hb', hblanks⟩ := exists_blanks after
    rw [hds] at hblanks
    rw [hafter, hblanks] at hmore
    cases vs with
    | nil => exact absurd rfl hne
    | cons w vs =>
      exact ⟨[] ++ (es ++ (b ++ ',' :: (b' ++ ds))), by simp [hcs, hmore],
        .more (List.forall_mem_nil _) hv hb (hvs.blanks hb'), by simp⟩
  · cases hbehind

include hvalue hmembers in
theorem readMembers_succ_texts :
    ReadsTexts (fun ms es => MembersText ms es ∧ ms ≠ []) ['}'] (readMembers (steps + 1)) := by
  intro cs ms rest h
  unfold readMembers at h
  split at h
  · rename_i more
    obtain ⟨⟨n, behind⟩, hname, h₁⟩ := exists_of_bind_ok h
    obtain ⟨us, ns, hns, hus, rfl⟩ := unitsText_of_readString hname
    obtain ⟨b₂, hb₂, hbehind⟩ := exists_blanks behind
    dsimp only at h₁
    split at h₁
    · rename_i after hafter
      obtain ⟨⟨v, left⟩, hread, h₂⟩ := exists_of_bind_ok h₁
      obtain ⟨es, hes, hv⟩ := hvalue _ _ _ hread
      obtain ⟨b₃, hb₃, hblanks⟩ := exists_blanks after
      obtain ⟨b₄, hb₄, hleft⟩ := exists_blanks left
      have hmember : MemberText (joinPairs us, v)
          ([] ++ ('"' :: (ns ++ ['"']) ++ (b₂ ++ ':' :: (b₃ ++ (es ++ b₄))))) :=
        .named (List.forall_mem_nil _) (.quoted hus) hb₂ hb₃ hv hb₄
      rw [hes] at hblanks
      rw [hafter, hblanks] at hbehind
      dsimp only at h₂
      split at h₂
      · rename_i last hlast
        cases h₂
        rw [hlast] at hleft
        exact ⟨_, by simp [hns, hbehind, hleft], .one hmember, by simp⟩
      · rename_i next hnext
        obtain ⟨ms, hread, rfl⟩ := map_eq_ok_iff.1 h₂
        obtain ⟨ds, hds, hms, hne⟩ := hmembers _ _ _ hread
        obtain ⟨b, hb, hblanks⟩ := exists_blanks next
        rw [hds] at hblanks
        rw [hnext, hblanks] at hleft
        cases ms with
        | nil => exact absurd rfl hne
        | cons m ms =>
          exact ⟨_, by simp [hns, hbehind, hleft], .more hmember (hms.blanks hb), by simp⟩
      · cases h₂
    · cases h₁
  · cases h

end

/-- What is read as a value, as items or as members, by induction on the steps that are left. -/
theorem texts_of_read (steps : Nat) :
    ReadsTexts ValueText [] (readValue steps) ∧
      ReadsTexts (fun vs es => ItemsText vs es ∧ vs ≠ []) [']'] (readItems steps) ∧
      ReadsTexts (fun ms es => MembersText ms es ∧ ms ≠ []) ['}'] (readMembers steps) := by
  induction steps with
  | zero => exact ⟨nofun, nofun, nofun⟩
  | succ steps ih =>
    obtain ⟨hvalue, hitems, hmembers⟩ := ih
    exact ⟨readValue_succ_texts hitems hmembers, readItems_succ_texts hvalue hitems,
      readMembers_succ_texts hvalue hmembers⟩

/-! ## Documents -/

/-- The documents that are read as a value are its texts, and no others. -/
theorem readDocument_eq_ok_iff {cs : List Char} {v : Value} :
    readDocument cs = .ok v ↔ DocumentText v cs := by
  refine ⟨fun h => ?_, readDocument_of_text⟩
  replace h := mapError_eq_ok_iff.1 h
  unfold readWhole at h
  split at h
  · cases h
  · obtain ⟨⟨v', rest⟩, hread, hend⟩ := exists_of_bind_ok h
    obtain ⟨es, hes, hv⟩ := (texts_of_read _).1 _ _ _ hread
    obtain ⟨b₁, hb₁, hcs⟩ := exists_blanks cs
    obtain ⟨b₂, hb₂, hrest⟩ := exists_blanks rest
    dsimp only at hend
    split at hend
    · rename_i hnone
      cases hend
      rw [hnone, List.append_nil] at hrest
      rw [hcs, hes, List.nil_append, hrest]
      exact .value hb₁ hv hb₂
    · cases hend

end MailSchedule.Json

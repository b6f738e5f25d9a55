import MailSchedule.Proofs.Payloads

/-!
# Payloads that mean one thing

The payload of a snapshot is never mistaken for that of another one.  Whatever the number of digits
in it, it is read as that snapshot or not at all, and snapshots with one payload are the same but
for the number that stands for no account.

Results:

* `Json.Faithful`: a value whose compact form is read as that value or not at all.
* `Snapshot.of_decode_encode`: a snapshot that is read from the payload of another one.
* `Json.Apart`: values that differ have compact forms neither of which begins the other.
* `Snapshot.encode_inj`: snapshots with one payload.
-/

namespace MailSchedule

namespace Json

/-! ## Reading what was written, or nothing -/

/-- What is read from the compact form of a value, whatever follows it there, is that value, unless
reading fails. -/
structure Faithful (v : Value) : Prop where
  starts : ∃ c cs, v.compact = c :: cs ∧ isBlank c = false ∧ c ≠ ']'
  read : ∀ steps rest, Follows rest → (∃ e, readValue steps (v.compact ++ rest) = .error e) ∨
    readValue steps (v.compact ++ rest) = .ok (v, rest)

theorem faithful_int (i : Int) : Faithful (.int i) where
  starts := starts_int i
  read steps rest hrest := by
    cases steps with
    | zero => exact Or.inl ⟨_, rfl⟩
    | succ steps =>
      rw [readValue_int i steps hrest]
      split
      · exact Or.inr rfl
      · exact Or.inl ⟨_, rfl⟩

theorem faithful_bool (b : Bool) : Faithful (.bool b) where
  starts := (reads_bool b).starts
  read steps rest hrest := by
    cases steps with
    | zero => exact Or.inl ⟨_, rfl⟩
    | succ steps => exact Or.inr ((reads_bool b).read (steps + 1) rest (by omega) hrest)

theorem readItems_faithful {v : Value} {vs : List Value} (h : ∀ w ∈ v :: vs, Faithful w)
    (rest : List Char) (steps : Nat) :
    (∃ e, readItems steps (v.compact ++ (compactItems vs ++ rest)) = .error e) ∨
      readItems steps (v.compact ++ (compactItems vs ++ rest)) = .ok (v :: vs, rest) := by
  induction vs generalizing v steps with
  | nil =>
    cases steps with
    | zero => exact Or.inl ⟨_, rfl⟩
    | succ steps =>
      rw [readItems]
      rcases (h v List.mem_cons_self).read steps (compactItems [] ++ rest)
        (follows_compactItems [] rest) with ⟨e, he⟩ | hv
      · rw [he]
        exact Or.inl ⟨e, rfl⟩
      · rw [hv]
        exact Or.inr rfl
  | cons w vs ih =>
    cases steps with
    | zero => exact Or.inl ⟨_, rfl⟩
    | succ steps =>
      rw [readItems]
      rcases (h v List.mem_cons_self).read steps (compactItems (w :: vs) ++ rest)
        (follows_compactItems (w :: vs) rest) with ⟨e, he⟩ | hv
      · rw [he]
        exact Or.inl ⟨e, rfl⟩
      have hw := skipBlanks_append (h w (by simp)).starts (compactItems vs ++ rest)
      rw [hv]
      simp only [compactItems, List.cons_append, List.append_assoc, bind, Except.bind]
      rw [skipBlanks_cons (by decide)]
      simp only
      rw [hw]
      rcases ih (v := w) (fun x hx => h x (List.mem_cons_of_mem _ hx)) steps with ⟨e, he⟩ | hvs
      · rw [he]
        exact Or.inl ⟨e, rfl⟩
      · rw [hvs]
        exact Or.inr rfl

theorem faithful_array {vs : List Value} (h : ∀ v ∈ vs, Faithful v) : Faithful (.array vs) := by
  cases vs with
  | nil =>
    refine ⟨⟨'[', [']'], rfl, by decide, by decide⟩, fun steps rest _ => ?_⟩
    cases steps with
    | zero => exact Or.inl ⟨_, rfl⟩
    | succ steps => exact Or.inr rfl
  | cons v vs =>
    refine ⟨⟨'[', v.compact ++ compactItems vs, rfl, by decide, by decide⟩, fun steps rest _ => ?_⟩
    cases steps with
    | zero => exact Or.inl ⟨_, rfl⟩
    | succ steps =>
      have hitems := readItems_faithful h rest steps
      obtain ⟨c, cs, hc, -, hbracket⟩ := (h v List.mem_cons_self).starts
      rw [Value.compact_array_cons, List.cons_append, List.append_assoc, readValue,
        skipBlanks_append (h v List.mem_cons_self).starts]
      rw [hc, List.cons_append] at hitems ⊢
      split
      · rename_i heq
        exact absurd (List.cons.inj heq).1 hbracket
      · rcases hitems with ⟨e, he⟩ | hvs
        · rw [he]
          exact Or.inl ⟨e, rfl⟩
        · rw [hvs]
          exact Or.inr rfl

theorem readMembers_faithful {name : Text} {v : Value} {ms : List (Text × Value)}
    (h : ∀ m ∈ (name, v) :: ms, PlainName m.1 ∧ Faithful m.2) (rest : List Char) (steps : Nat) :
    (∃ e, readMembers steps
        (writtenString name ++ ':' :: (v.compact ++ (compactMembers ms ++ rest))) = .error e) ∨
      readMembers steps
          (writtenString name ++ ':' :: (v.compact ++ (compactMembers ms ++ rest))) =
        .ok ((name, v) :: ms, rest) := by
  induction ms generalizing name v steps with
  | nil =>
    obtain ⟨hname, hv⟩ := h (name, v) List.mem_cons_self
    cases steps with
    | zero => exact Or.inl ⟨_, rfl⟩
    | succ steps =>
      rw [readMembers_succ hname hv.starts]
      rcases hv.read steps _ (follows_compactMembers [] rest) with ⟨e, he⟩ | hvalue
      · rw [he]
        exact Or.inl ⟨e, rfl⟩
      · rw [hvalue]
        exact Or.inr rfl
  | cons m ms ih =>
    obtain ⟨hname, hv⟩ := h (name, v) List.mem_cons_self
    cases steps with
    | zero => exact Or.inl ⟨_, rfl⟩
    | succ steps =>
      obtain ⟨hcomma, hnext⟩ := skipBlanks_compactMembers m ms (h m (by simp)).1 rest
      rw [readMembers_succ hname hv.starts]
      rcases hv.read steps _ (follows_compactMembers (m :: ms) rest) with ⟨e, he⟩ | hvalue
      · rw [he]
        exact Or.inl ⟨e, rfl⟩
      rw [hvalue]
      simp only [bind, Except.bind, hcomma, hnext]
      rcases @ih m.1 m.2 (fun x hx => h x (List.mem_cons_of_mem _ hx)) steps with ⟨e, he⟩ | hms
      · rw [he]
        exact Or.inl ⟨e, rfl⟩
      · rw [hms]
        exact Or.inr rfl

/-- A document is read as what was written, or not at all. -/
theorem readDocument_faithful {name : Text} {v : Value} {ms : List (Text × Value)}
    (h : ∀ m ∈ (name, v) :: ms, PlainName m.1 ∧ Faithful m.2) {d : Value}
    (hd : readDocument (Value.object ((name, v) :: ms)).compact = .ok d) :
    d = Value.ofMembers ((name, v) :: ms) := by
  obtain ⟨cs, -, -, hwritten⟩ := (h (name, v) List.mem_cons_self).1
  have hvalue : ∀ steps, (∃ e, readValue steps (Value.object ((name, v) :: ms)).compact =
        .error e) ∨
      readValue steps (Value.object ((name, v) :: ms)).compact =
        .ok (Value.ofMembers ((name, v) :: ms), []) := by
    intro steps
    cases steps with
    | zero => exact Or.inl ⟨_, rfl⟩
    | succ steps =>
      have hmembers := readMembers_faithful h [] steps
      rw [List.append_nil] at hmembers
      rw [Value.compact_object_cons, readValue]
      rw [hwritten] at hmembers ⊢
      rw [List.cons_append] at hmembers ⊢
      rw [skipBlanks_cons (by decide)]
      rcases hmembers with ⟨e, he⟩ | hms
      · refine Or.inl ⟨e, ?_⟩
        show Except.map (fun p => (Value.ofMembers p.1, p.2)) (readMembers steps _) = _
        rw [he]
        rfl
      · refine Or.inr ?_
        show Except.map (fun p => (Value.ofMembers p.1, p.2)) (readMembers steps _) = _
        rw [hms]
        rfl
  unfold readDocument readWhole at hd
  obtain ⟨rest, hrest⟩ : ∃ rest, (Value.object ((name, v) :: ms)).compact = '{' :: rest := ⟨_, rfl⟩
  rw [hrest] at hd hvalue
  split at hd
  · rename_i heq
    exact absurd (List.cons.inj heq).1 (by decide)
  · rw [skipBlanks_cons (by decide)] at hd
    rcases hvalue (2 * ('{' :: rest).length + 2) with ⟨e, he⟩ | hok
    · rw [he] at hd
      cases hd
    · rw [hok] at hd
      exact (Except.ok.inj hd).symm

/-! ## Forms that differ -/

theorem toDigits_append_inj {n m : Nat} {rest rest' : List Char} (h : Follows rest)
    (h' : Follows rest') (heq : Nat.toDigits 10 n ++ rest = Nat.toDigits 10 m ++ rest') :
    n = m ∧ rest = rest' := by
  obtain ⟨htake, hdrop⟩ := takeWhile_digits (fun _ => digits_isDigit (n := n)) h
  obtain ⟨htake', hdrop'⟩ := takeWhile_digits (fun _ => digits_isDigit (n := m)) h'
  rw [heq] at htake hdrop
  have hdigits : Nat.toDigits 10 n = Nat.toDigits 10 m := htake.symm.trans htake'
  refine ⟨?_, hdrop.symm.trans hdrop'⟩
  rw [← Nat.ofDigitChars_ten_toDigits (n := n), hdigits, Nat.ofDigitChars_ten_toDigits]

/-- Digits do not begin with a sign. -/
theorem toDigits_append_ne (n : Nat) (rest rest' : List Char) :
    Nat.toDigits 10 n ++ rest ≠ '-' :: rest' := by
  intro heq
  cases hd : Nat.toDigits 10 n with
  | nil => exact Nat.toDigits_ne_nil hd
  | cons d ds =>
    rw [hd] at heq
    obtain ⟨rfl, -⟩ := List.cons.inj heq
    have hdigit := digits_isDigit (hd ▸ List.mem_cons_self : '-' ∈ Nat.toDigits 10 n)
    exact absurd hdigit (by decide)

theorem writtenInt_append_inj {i j : Int} {rest rest' : List Char} (h : Follows rest)
    (h' : Follows rest') (heq : writtenInt i ++ rest = writtenInt j ++ rest') :
    i = j ∧ rest = rest' := by
  cases i with
  | ofNat n =>
    cases j with
    | ofNat m =>
      obtain ⟨rfl, hrest⟩ := toDigits_append_inj h h' heq
      exact ⟨rfl, hrest⟩
    | negSucc m => exact absurd heq (toDigits_append_ne n _ _)
  | negSucc n =>
    cases j with
    | ofNat m => exact absurd heq.symm (toDigits_append_ne m _ _)
    | negSucc m =>
      obtain ⟨hnm, hrest⟩ := toDigits_append_inj h h' (List.cons.inj heq).2
      exact ⟨by rw [Nat.succ.inj hnm], hrest⟩

/-- Values of a kind are told apart by their compact forms, whatever follows them, and these begin
with no closing bracket. -/
structure Apart (S : Value → Prop) : Prop where
  starts : ∀ v, S v → ∃ c cs, v.compact = c :: cs ∧ c ≠ ']'
  inj : ∀ v w rest rest', S v → S w → Follows rest → Follows rest' →
    v.compact ++ rest = w.compact ++ rest' → v = w ∧ rest = rest'

theorem apart_int : Apart fun v => ∃ i, v = .int i where
  starts := by
    rintro _ ⟨i, rfl⟩
    obtain ⟨c, cs, hc, -, hbracket⟩ := starts_int i
    exact ⟨c, cs, hc, hbracket⟩
  inj := by
    rintro _ _ rest rest' ⟨i, rfl⟩ ⟨j, rfl⟩ h h' heq
    obtain ⟨rfl, hrest⟩ := writtenInt_append_inj h h' heq
    exact ⟨rfl, hrest⟩

theorem Apart.items {S : Value → Prop} (hS : Apart S) {vs ws : List Value} (hvs : ∀ v ∈ vs, S v)
    (hws : ∀ w ∈ ws, S w) {rest rest' : List Char}
    (heq : compactItems vs ++ rest = compactItems ws ++ rest') : vs = ws ∧ rest = rest' := by
  induction vs generalizing ws with
  | nil =>
    cases ws with
    | nil => exact ⟨rfl, (List.cons.inj heq).2⟩
    | cons w ws => exact absurd (List.cons.inj heq).1 (by decide)
  | cons v vs ih =>
    cases ws with
    | nil => exact absurd (List.cons.inj heq).1 (by decide)
    | cons w ws =>
      have htail : v.compact ++ (compactItems vs ++ rest) =
          w.compact ++ (compactItems ws ++ rest') := by
        simpa only [compactItems, List.cons_append, List.append_assoc, List.cons.injEq, true_and]
          using heq
      obtain ⟨rfl, hrest⟩ := hS.inj v w _ _ (hvs v List.mem_cons_self) (hws w List.mem_cons_self)
        (follows_compactItems vs rest) (follows_compactItems ws rest') htail
      obtain ⟨rfl, hend⟩ := ih (fun x hx => hvs x (List.mem_cons_of_mem _ hx))
        (fun x hx => hws x (List.mem_cons_of_mem _ hx)) hrest
      exact ⟨rfl, hend⟩

/-- Arrays are told apart if their items are. -/
theorem Apart.array {S : Value → Prop} (hS : Apart S) :
    Apart fun v => ∃ vs, v = .array vs ∧ ∀ x ∈ vs, S x where
  starts := by
    rintro _ ⟨vs, rfl, -⟩
    cases vs with
    | nil => exact ⟨'[', _, rfl, by decide⟩
    | cons v vs => exact ⟨'[', _, rfl, by decide⟩
  inj := by
    rintro _ _ rest rest' ⟨vs, rfl, hvs⟩ ⟨ws, rfl, hws⟩ - - heq
    -- An empty array is closed where the others have their first item.
    have hclosed : ∀ (v : Value) (tail tail' : List Char), S v →
        v.compact ++ tail ≠ ']' :: tail' := by
      intro v tail tail' hv hsame
      obtain ⟨c, cs, hc, hbracket⟩ := hS.starts v hv
      rw [hc] at hsame
      exact hbracket (List.cons.inj hsame).1
    cases vs with
    | nil =>
      cases ws with
      | nil => exact ⟨rfl, (List.cons.inj (List.cons.inj heq).2).2⟩
      | cons w ws =>
        simp only [Value.compact_array_nil, Value.compact_array_cons, List.cons_append,
          List.append_assoc, List.cons.injEq, true_and] at heq
        exact absurd heq.symm (hclosed w _ _ (hws w List.mem_cons_self))
    | cons v vs =>
      cases ws with
      | nil =>
        simp only [Value.compact_array_nil, Value.compact_array_cons, List.cons_append,
          List.append_assoc, List.cons.injEq, true_and] at heq
        exact absurd heq (hclosed v _ _ (hvs v List.mem_cons_self))
      | cons w ws =>
        simp only [Value.compact_array_cons, List.cons_append, List.append_assoc, List.cons.injEq,
          true_and] at heq
        obtain ⟨rfl, hrest⟩ := hS.inj v w _ _ (hvs v List.mem_cons_self)
          (hws w List.mem_cons_self) (follows_compactItems vs rest)
          (follows_compactItems ws rest') heq
        obtain ⟨rfl, hend⟩ := hS.items (fun x hx => hvs x (List.mem_cons_of_mem _ hx))
          (fun x hx => hws x (List.mem_cons_of_mem _ hx)) hrest
        exact ⟨rfl, hend⟩

end Json

namespace Snapshot

open Json (Value Faithful PlainName)

/-! ## Snapshots -/

theorem faithful_pairValue (p : Int × Int) : Faithful (pairValue p) := by
  refine Json.faithful_array fun v hv => ?_
  simp only [List.mem_cons, List.not_mem_nil, or_false] at hv
  rcases hv with rfl | rfl <;> exact Json.faithful_int _

/-- What is read from the payload of a snapshot is that snapshot, but for the number that stands for
no account. -/
theorem of_decode_encode {s s' : Snapshot} (h : decode (some s.encode) = .ok s') :
    s' = { s with account := s.account.filter (· ≠ noAccount) } := by
  have hmembers : ∀ m ∈ [(("account" : Text), Value.int (s.account.getD noAccount)),
      ("accounts", .array (s.prevSyncTimes.map pairValue)), ("watchdog", .bool s.watchdog)],
      PlainName m.1 ∧ Faithful m.2 := by
    intro m hm
    simp only [List.mem_cons, List.not_mem_nil, or_false] at hm
    rcases hm with rfl | rfl | rfl
    · exact ⟨plainName_account, Json.faithful_int _⟩
    · refine ⟨plainName_accounts, Json.faithful_array fun v hv => ?_⟩
      obtain ⟨p, -, rfl⟩ := List.mem_map.1 hv
      exact faithful_pairValue p
    · exact ⟨plainName_watchdog, Json.faithful_bool _⟩
  have hread : ∀ d, readPayload s.encode = .ok d → d = s.document := by
    intro d hd
    unfold readPayload encode at hd
    rw [Text.Utf8.decode_encodeAscii _ (isAscii_document s)] at hd
    change (Json.readDocument s.document.compact).mapError DecodeError.notDocument = .ok d at hd
    cases hdocument : Json.readDocument s.document.compact with
    | error e =>
      rw [hdocument] at hd
      cases hd
    | ok d' =>
      rw [hdocument] at hd
      cases hd
      exact Json.readDocument_faithful hmembers hdocument
  obtain ⟨b, bs, hb⟩ : ∃ b bs, s.encode = b :: bs := ⟨_, _, rfl⟩
  rw [hb] at h hread
  change (readPayload (b :: bs) >>= ofDocument) = .ok s' at h
  cases hp : readPayload (b :: bs) with
  | error e =>
    rw [hp] at h
    cases h
  | ok d =>
    rw [hp, hread d hp] at h
    exact (Except.ok.inj (h.symm.trans (ofDocument_document s)))

theorem pairValue_inj {p q : Int × Int} (h : pairValue p = pairValue q) : p = q := by
  simp only [pairValue, Value.array.injEq, List.cons.injEq, Value.int.injEq, and_true] at h
  exact Prod.ext h.1 h.2

/-- Snapshots with one payload name the same account, if any, and carry the same times. -/
theorem encode_inj {s t : Snapshot} (h : s.encode = t.encode) :
    s.account.getD noAccount = t.account.getD noAccount ∧ s.prevSyncTimes = t.prevSyncTimes ∧
      s.watchdog = t.watchdog := by
  have htext : s.document.compact = t.document.compact := by
    have hread := Text.Utf8.decode_encodeAscii _ (isAscii_document s)
    change Text.Utf8.decode s.encode = _ at hread
    rw [h] at hread
    exact Except.ok.inj (hread.symm.trans (Text.Utf8.decode_encodeAscii _ (isAscii_document t)))
  simp only [document, Value.compact_object_cons, Value.compact_int, Json.compactMembers,
    List.cons.injEq, true_and, List.append_cancel_left_eq] at htext
  have hcomma : ∀ cs, Json.Follows (',' :: cs) := fun _ => Or.inl rfl
  obtain ⟨haccount, htext⟩ := Json.writtenInt_append_inj (hcomma _) (hcomma _) htext
  simp only [List.cons.injEq, true_and, List.append_cancel_left_eq] at htext
  have hpairs : ∀ ps : List (Int × Int), ∃ vs, Value.array (ps.map pairValue) = .array vs ∧
      ∀ x ∈ vs, ∃ is, x = .array is ∧ ∀ y ∈ is, ∃ i, y = .int i := by
    refine fun ps => ⟨_, rfl, fun x hx => ?_⟩
    obtain ⟨p, -, rfl⟩ := List.mem_map.1 hx
    exact ⟨_, rfl, by simp⟩
  obtain ⟨harray, htext⟩ := Json.apart_int.array.array.inj _ _ _ _ (hpairs s.prevSyncTimes)
    (hpairs t.prevSyncTimes) (hcomma _) (hcomma _) htext
  simp only [List.cons.injEq, true_and, List.append_cancel_left_eq] at htext
  refine ⟨haccount, (List.map_inj_right fun _ _ => pairValue_inj).1 (Value.array.inj harray), ?_⟩
  cases hs : s.watchdog <;> cases ht : t.watchdog <;> simp_all

end Snapshot

end MailSchedule

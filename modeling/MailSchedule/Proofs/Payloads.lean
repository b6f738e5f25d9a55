import MailSchedule.Snapshot.Payload

/-!
# Payloads that are read back

The payload of a snapshot, read again, gives the snapshot, except that the number that stands for no
account comes back as no account.  The integers in it may have as many digits as the reader takes.

Results:

* `Json.Reads`: a value whose compact form is read back, whatever follows it.
* `Snapshot.decode_encode`: a snapshot comes back from its payload.
-/

namespace MailSchedule

namespace Json

/-! ## Numbers -/

/-- What may follow a value in the compact form of another one. -/
def Follows : List Char → Prop
  | [] => True
  | c :: _ => c = ',' ∨ c = ']' ∨ c = '}'

theorem digits_isDigit {n : Nat} {c : Char} (h : c ∈ Nat.toDigits 10 n) : c.isDigit = true :=
  Nat.isDigit_of_mem_toDigits (by decide) (by decide) h

theorem Follows.head_not_digit {rest : List Char} (h : Follows rest) :
    ∀ c ∈ rest.head?, c.isDigit = false := by
  intro c hc
  cases rest with
  | nil => cases hc
  | cons d rest =>
    cases hc
    obtain rfl | rfl | rfl := h <;> rfl

/-- Digits end where no digit stands. -/
theorem span_digits {ds rest : List Char} (hds : ∀ c ∈ ds, c.isDigit = true)
    (hrest : ∀ c ∈ rest.head?, c.isDigit = false) :
    (ds ++ rest).takeWhile Char.isDigit = ds ∧ (ds ++ rest).dropWhile Char.isDigit = rest := by
  rw [List.takeWhile_append_of_pos hds, List.dropWhile_append_of_pos hds]
  cases rest with
  | nil => exact ⟨List.append_nil ds, rfl⟩
  | cons c rest =>
    have hc := hrest c rfl
    simp [hc]

theorem takeWhile_digits {ds rest : List Char} (hds : ∀ c ∈ ds, c.isDigit = true)
    (h : Follows rest) :
    (ds ++ rest).takeWhile Char.isDigit = ds ∧ (ds ++ rest).dropWhile Char.isDigit = rest :=
  span_digits hds h.head_not_digit

/-- The digits of a positive number do not begin with a zero. -/
theorem head_toDigits_ne_zero {n : Nat} (hn : 0 < n) {c : Char} {ds : List Char}
    (h : Nat.toDigits 10 n = c :: ds) : c ≠ '0' := by
  induction n using Nat.strongRecOn generalizing ds with
  | _ n ih =>
    by_cases hlt : n < 10
    · rw [Nat.toDigits_of_lt_base hlt] at h
      obtain ⟨rfl, -⟩ := List.cons.inj h
      have hall : ∀ m : Fin 10, 0 < m.val → Nat.digitChar m.val ≠ '0' := by decide
      exact hall ⟨n, hlt⟩ hn
    · rw [Nat.toDigits_of_base_le (by decide) (by omega)] at h
      cases hq : Nat.toDigits 10 (n / 10) with
      | nil => exact absurd hq Nat.toDigits_ne_nil
      | cons d ds' =>
        rw [hq, List.cons_append] at h
        obtain ⟨rfl, -⟩ := List.cons.inj h
        exact ih (n / 10) (by omega) (by omega) hq

theorem wholeDigits_toDigits (n : Nat) {rest : List Char} (h : Follows rest) :
    wholeDigits (Nat.toDigits 10 n ++ rest) = (Nat.toDigits 10 n, rest) := by
  cases hd : Nat.toDigits 10 n with
  | nil => exact absurd hd Nat.toDigits_ne_nil
  | cons c ds =>
    rw [List.cons_append, wholeDigits]
    by_cases hc : c = '0'
    · -- only zero itself is written with a zero in front
      have hn : n = 0 :=
        Nat.eq_zero_of_not_pos fun hn => head_toDigits_ne_zero hn hd hc
      subst hn
      rw [Nat.toDigits_zero] at hd
      obtain ⟨rfl, rfl⟩ := List.cons.inj hd
      rfl
    · rw [if_neg hc, ← List.cons_append]
      have hall : ∀ d ∈ c :: ds, d.isDigit = true := fun d hmem => digits_isDigit (hd ▸ hmem)
      rw [(takeWhile_digits hall h).1, (takeWhile_digits hall h).2]

theorem fractionDigits_of_follows {rest : List Char} (h : Follows rest) :
    fractionDigits rest = ([], rest) := by
  cases rest with
  | nil => rfl
  | cons c rest => obtain rfl | rfl | rfl := h <;> rfl

theorem exponentPart_of_follows {rest : List Char} (h : Follows rest) :
    exponentPart rest = (none, rest) := by
  cases rest with
  | nil => rfl
  | cons c rest => obtain rfl | rfl | rfl := h <;> rfl

/-- Digits are read up to what follows, unless there are too many of them. -/
theorem readUnsigned_toDigits (negative : Bool) (start : List Char) (n : Nat) {rest : List Char}
    (h : Follows rest) :
    readUnsigned negative start (Nat.toDigits 10 n ++ rest) =
      if maxDigits < (Nat.toDigits 10 n).length then
        .error (.longInteger (Nat.toDigits 10 n).length)
      else .ok (.int (signed negative n), rest) := by
  unfold readUnsigned
  rw [wholeDigits_toDigits n h]
  dsimp only
  rw [if_neg (by simp [Nat.toDigits_ne_nil]), fractionDigits_of_follows h]
  dsimp only
  rw [exponentPart_of_follows h]
  have hv : numberValue negative (Nat.toDigits 10 n) [] none =
      if maxDigits < (Nat.toDigits 10 n).length then
        .error (.longInteger (Nat.toDigits 10 n).length)
      else .ok (.int (signed negative n)) := by
    unfold numberValue ofDigits
    rw [if_pos (by rfl), Nat.ofDigitChars_ten_toDigits]
  dsimp only
  rw [hv]
  split <;> rfl

theorem readNumber_writtenInt (i : Int) {rest : List Char} (h : Follows rest) :
    readNumber (writtenInt i ++ rest) =
      if Readable i then .ok (.int i, rest)
      else .error (.longInteger (Nat.toDigits 10 i.natAbs).length) := by
  have hswap : ∀ {α : Type} (n : Nat) (a b : α),
      (if maxDigits < n then a else b) = if n ≤ maxDigits then b else a := by
    intro α n a b
    by_cases hn : n ≤ maxDigits
    · rw [if_pos hn, if_neg (Nat.not_lt.2 hn)]
    · rw [if_neg hn, if_pos (Nat.not_le.1 hn)]
  cases i with
  | ofNat n =>
    have hr := readUnsigned_toDigits false (Nat.toDigits 10 n ++ rest) n h
    rw [hswap] at hr
    show readNumber (Nat.toDigits 10 n ++ rest) = _
    refine Eq.trans ?_ hr
    cases hd : Nat.toDigits 10 n with
    | nil => exact absurd hd Nat.toDigits_ne_nil
    | cons c ds =>
      have hc : c ≠ '-' := by
        rintro rfl
        have := digits_isDigit (hd ▸ List.mem_cons_self : '-' ∈ Nat.toDigits 10 n)
        exact absurd this (by decide)
      rw [List.cons_append]
      unfold readNumber
      split
      · rename_i heq
        exact absurd (List.cons.inj heq).1 hc
      · rfl
  | negSucc n =>
    have hr := readUnsigned_toDigits true ('-' :: (Nat.toDigits 10 (n + 1) ++ rest)) (n + 1) h
    rw [hswap] at hr
    exact hr

/-- What a number begins with: a digit, or a sign and a digit. -/
def StartsNumber (cs : List Char) : Prop := ∃ c ds, cs = c :: ds ∧
  (c.isDigit = true ∨ c = '-' ∧ ∃ d es, ds = d :: es ∧ d.isDigit = true)

theorem startsNumber_writtenInt (i : Int) : StartsNumber (writtenInt i) := by
  have hdigits : ∀ n, ∃ d ds, Nat.toDigits 10 n = d :: ds ∧ d.isDigit = true := by
    intro n
    cases hd : Nat.toDigits 10 n with
    | nil => exact absurd hd Nat.toDigits_ne_nil
    | cons d ds => exact ⟨d, ds, rfl, digits_isDigit (hd ▸ List.mem_cons_self)⟩
  cases i with
  | ofNat n =>
    obtain ⟨d, ds, hd, hdigit⟩ := hdigits n
    exact ⟨d, ds, hd, Or.inl hdigit⟩
  | negSucc n =>
    obtain ⟨d, ds, hd, hdigit⟩ := hdigits (n + 1)
    exact ⟨'-', Nat.toDigits 10 (n + 1), rfl, Or.inr ⟨rfl, d, ds, hd, hdigit⟩⟩

/-! ## Values -/

/-- A value is read back from its compact form in so many steps, whatever follows it there, and the
form begins with no blank and no closing bracket. -/
structure Reads (needed : Nat) (v : Value) : Prop where
  starts : ∃ c cs, v.compact = c :: cs ∧ isBlank c = false ∧ c ≠ ']'
  read : ∀ steps rest, needed ≤ steps → Follows rest →
    readValue steps (v.compact ++ rest) = .ok (v, rest)

theorem Reads.mono {n m : Nat} {v : Value} (h : Reads n v) (hnm : n ≤ m) : Reads m v where
  starts := h.starts
  read steps rest hs hr := h.read steps rest (by omega) hr

theorem skipBlanks_cons {c : Char} (h : isBlank c = false) (cs : List Char) :
    skipBlanks (c :: cs) = c :: cs := by
  unfold skipBlanks
  rw [List.dropWhile_cons_of_neg (by simp [h])]

/-- A compact form is not shortened by leaving out blanks in front of it. -/
theorem skipBlanks_append {cs : List Char}
    (h : ∃ c ds, cs = c :: ds ∧ isBlank c = false ∧ c ≠ ']') (rest : List Char) :
    skipBlanks (cs ++ rest) = cs ++ rest := by
  obtain ⟨c, ds, rfl, hblank, -⟩ := h
  rw [List.cons_append, skipBlanks_cons hblank]

theorem ne_of_isDigit {c d : Char} (hc : c.isDigit = true) (hd : d.isDigit = false) : c ≠ d := by
  rintro rfl
  rw [hc] at hd
  cases hd

/-- A word that is a value begins with a letter, or with a sign and a letter. -/
theorem literals_head : ∀ w ∈ literals.map (·.1), ∃ d ds, w = d :: ds ∧ d.isDigit = false ∧
    (d = '-' → ∃ e es, ds = e :: es ∧ e.isDigit = false) := by
  intro w hw
  simp only [literals, List.map_cons, List.map_nil, List.mem_cons, List.not_mem_nil,
    or_false] at hw
  rcases hw with rfl | rfl | rfl | rfl | rfl | rfl
  all_goals exact ⟨_, _, rfl, by decide, fun _ => ⟨_, _, rfl, by decide⟩⟩

theorem literal?_of_startsNumber {cs : List Char} (h : StartsNumber cs) (rest : List Char) :
    literal? (cs ++ rest) = none := by
  obtain ⟨c, cs, rfl, hc⟩ := h
  rw [List.cons_append]
  unfold literal?
  rw [List.findSome?_eq_none_iff]
  intro w hw
  obtain ⟨d, ds, hd, hletter, hsign⟩ := literals_head w.1 (List.mem_map_of_mem hw)
  rw [if_neg]
  rw [hd, List.isPrefixOf_cons_cons, Bool.and_eq_true, beq_iff_eq, not_and]
  rintro rfl
  rcases hc with hc | ⟨rfl, e, es, rfl, he⟩
  · rw [hc] at hletter
    cases hletter
  · obtain ⟨x, xs, rfl, hx⟩ := hsign rfl
    rw [List.cons_append, List.isPrefixOf_cons_cons, Bool.and_eq_true, beq_iff_eq]
    rintro ⟨rfl, -⟩
    rw [he] at hx
    cases hx

theorem StartsNumber.ne {cs : List Char} (h : StartsNumber cs) {c : Char} {ds : List Char}
    (hcs : cs = c :: ds) {d : Char} (hd : d.isDigit = false) (hminus : d ≠ '-') : c ≠ d := by
  obtain ⟨c', cs', h', hfirst⟩ := h
  obtain ⟨rfl, -⟩ := List.cons.inj (hcs.symm.trans h')
  rcases hfirst with hc | ⟨rfl, -⟩
  · exact ne_of_isDigit hc hd
  · exact hminus.symm

/-- Where a number begins, a number is read. -/
theorem readValue_of_startsNumber {cs : List Char} (h : StartsNumber cs) (steps : Nat)
    (rest : List Char) : readValue (steps + 1) (cs ++ rest) = readNumber (cs ++ rest) := by
  have hword := literal?_of_startsNumber h rest
  have hne := @StartsNumber.ne cs h
  obtain ⟨c, ds, rfl, -⟩ := h
  rw [List.cons_append] at hword ⊢
  rw [readValue, hword]
  · exact fun _ heq => hne rfl (by decide) (by decide) (List.cons.inj heq).1
  · exact fun _ heq => hne rfl (by decide) (by decide) (List.cons.inj heq).1
  · exact fun _ heq => hne rfl (by decide) (by decide) (List.cons.inj heq).1

theorem starts_int (i : Int) :
    ∃ c cs, (Value.int i).compact = c :: cs ∧ isBlank c = false ∧ c ≠ ']' := by
  obtain ⟨c, cs, hc, -⟩ := startsNumber_writtenInt i
  have hne := fun d hd hminus => (startsNumber_writtenInt i).ne (d := d) hc hd hminus
  refine ⟨c, cs, by rw [Value.compact_int, hc], ?_, hne ']' (by decide) (by decide)⟩
  simp [isBlank, hne ' ' (by decide) (by decide), hne '\t' (by decide) (by decide),
    hne '\n' (by decide) (by decide), hne '\r' (by decide) (by decide)]

theorem readValue_int (i : Int) (steps : Nat) {rest : List Char} (h : Follows rest) :
    readValue (steps + 1) ((Value.int i).compact ++ rest) =
      if Readable i then .ok (.int i, rest)
      else .error (.longInteger (Nat.toDigits 10 i.natAbs).length) := by
  rw [Value.compact_int, readValue_of_startsNumber (startsNumber_writtenInt i)]
  exact readNumber_writtenInt i h

theorem reads_int {i : Int} (hi : Readable i) : Reads 1 (.int i) where
  starts := starts_int i
  read steps rest hsteps hrest := by
    obtain ⟨steps, rfl⟩ : ∃ k, steps = k + 1 := ⟨steps - 1, by omega⟩
    rw [readValue_int i steps hrest, if_pos hi]

theorem follows_compactItems (vs : List Value) (rest : List Char) :
    Follows (compactItems vs ++ rest) := by
  cases vs with
  | nil => exact Or.inr (Or.inl rfl)
  | cons v vs => exact Or.inl rfl

/-- The items of an array are read up to its bracket. -/
theorem readItems_compact {n : Nat} {v : Value} {vs : List Value}
    (h : ∀ w ∈ v :: vs, Reads n w) (rest : List Char) :
    ∀ steps, n + vs.length + 1 ≤ steps →
      readItems steps (v.compact ++ (compactItems vs ++ rest)) = .ok (v :: vs, rest) := by
  induction vs generalizing v with
  | nil =>
    intro steps hsteps
    obtain ⟨steps, rfl⟩ : ∃ k, steps = k + 1 := ⟨steps - 1, by omega⟩
    have hv := (h v List.mem_cons_self).read steps (compactItems [] ++ rest)
      (by simp only [List.length_nil] at hsteps; omega) (follows_compactItems [] rest)
    rw [readItems, hv]
    rfl
  | cons w vs ih =>
    intro steps hsteps
    rw [List.length_cons] at hsteps
    obtain ⟨steps, rfl⟩ : ∃ k, steps = k + 1 := ⟨steps - 1, by omega⟩
    have hv := (h v List.mem_cons_self).read steps (compactItems (w :: vs) ++ rest) (by omega)
      (follows_compactItems (w :: vs) rest)
    have hw := skipBlanks_append (h w (by simp)).starts (compactItems vs ++ rest)
    have hvs := ih (v := w) (fun x hx => h x (List.mem_cons_of_mem _ hx)) steps (by omega)
    rw [readItems, hv]
    simp only [compactItems, List.cons_append, List.append_assoc, bind, Except.bind]
    rw [skipBlanks_cons (by decide)]
    simp only
    rw [hw, hvs]
    rfl

theorem reads_array {n : Nat} {vs : List Value} (h : ∀ v ∈ vs, Reads n v) :
    Reads (n + vs.length + 1) (.array vs) := by
  cases vs with
  | nil =>
    refine ⟨⟨'[', [']'], rfl, by decide, by decide⟩, ?_⟩
    intro steps rest hsteps _
    obtain ⟨steps, rfl⟩ : ∃ k, steps = k + 1 := ⟨steps - 1, by omega⟩
    rfl
  | cons v vs =>
    refine ⟨⟨'[', v.compact ++ compactItems vs, rfl, by decide, by decide⟩, ?_⟩
    intro steps rest hsteps _
    rw [List.length_cons] at hsteps
    obtain ⟨steps, rfl⟩ : ∃ k, steps = k + 1 := ⟨steps - 1, by omega⟩
    have hv := h v List.mem_cons_self
    have hitems := readItems_compact h rest steps (by omega)
    have hblanks := skipBlanks_append hv.starts (compactItems vs ++ rest)
    obtain ⟨c, cs, hc, -, hbracket⟩ := hv.starts
    rw [Value.compact_array_cons, List.cons_append, List.append_assoc, readValue, hblanks]
    rw [hc, List.cons_append] at hitems ⊢
    split
    · rename_i heq
      exact absurd (List.cons.inj heq).1 hbracket
    · rw [hitems]
      rfl

theorem reads_bool (b : Bool) : Reads 1 (.bool b) := by
  cases b with
  | true =>
    refine ⟨⟨'t', ['r', 'u', 'e'], rfl, by decide, by decide⟩, ?_⟩
    intro steps rest hsteps _
    obtain ⟨steps, rfl⟩ : ∃ k, steps = k + 1 := ⟨steps - 1, by omega⟩
    rfl
  | false =>
    refine ⟨⟨'f', ['a', 'l', 's', 'e'], rfl, by decide, by decide⟩, ?_⟩
    intro steps rest hsteps _
    obtain ⟨steps, rfl⟩ : ∃ k, steps = k + 1 := ⟨steps - 1, by omega⟩
    rfl

/-! ## Members -/

/-- A character that stands for itself inside a string. -/
def IsPlain (c : Char) : Prop := c ≠ '"' ∧ c ≠ '\\' ∧ 32 ≤ c.toNat

theorem readString_plain_cons (opening : List Char) {c : Char} (hc : IsPlain c)
    (rest : List Char) :
    readString opening (c :: rest) = prepend c.toNat (readString opening rest) := by
  obtain ⟨hquote, hslash, hcontrol⟩ := hc
  rw [readString, if_neg (by omega)]
  all_goals simp_all

/-- A string of plain characters is read up to its quote. -/
theorem readString_plain (opening rest : List Char) {cs : List Char} (h : ∀ c ∈ cs, IsPlain c) :
    readString opening (cs ++ '"' :: rest) = .ok (Text.ofCharacters cs, rest) := by
  induction cs with
  | nil => rw [List.nil_append, readString]; rfl
  | cons c cs ih =>
    rw [List.cons_append, readString_plain_cons opening (h c List.mem_cons_self),
      ih fun d hd => h d (List.mem_cons_of_mem _ hd)]
    rfl

/-- A name of plain characters is written as it is. -/
def PlainName (name : Text) : Prop :=
  ∃ cs, name = Text.ofCharacters cs ∧ (∀ c ∈ cs, IsPlain c) ∧
    writtenString name = '"' :: (cs ++ ['"'])

theorem follows_compactMembers (ms : List (Text × Value)) (rest : List Char) :
    Follows (compactMembers ms ++ rest) := by
  cases ms with
  | nil => exact Or.inr (Or.inr rfl)
  | cons m ms => exact Or.inl rfl

/-- After the name of a member its value is read, and then the members that follow. -/
theorem readMembers_succ {name : Text} (hname : PlainName name) {v : Value}
    (hv : ∃ c cs, v.compact = c :: cs ∧ isBlank c = false ∧ c ≠ ']') (steps : Nat)
    (rest : List Char) :
    readMembers (steps + 1) (writtenString name ++ ':' :: (v.compact ++ rest)) =
      readValue steps (v.compact ++ rest) >>= fun p =>
        match skipBlanks p.2 with
        | '}' :: rest => .ok ([(name, p.1)], rest)
        | ',' :: rest =>
          (readMembers steps (skipBlanks rest)).map fun q => ((name, p.1) :: q.1, q.2)
        | rest => stop .expectingComma rest := by
  obtain ⟨cs, rfl, hplain, hwritten⟩ := hname
  have hread := readString_plain ('"' :: (cs ++ '"' :: ':' :: (v.compact ++ rest)))
    (':' :: (v.compact ++ rest)) hplain
  rw [hwritten, List.cons_append, List.append_assoc, List.singleton_append, readMembers, hread]
  have hvalue := congrArg (readValue steps) (skipBlanks_append hv rest)
  exact Eq.trans rfl (congr (congrArg (· >>= ·) hvalue) rfl)

/-- What follows a member is another one, or the brace. -/
theorem skipBlanks_compactMembers (m : Text × Value) (ms : List (Text × Value)) (hm : PlainName m.1)
    (rest : List Char) :
    skipBlanks (compactMembers (m :: ms) ++ rest) = ',' :: (writtenString m.1 ++
        ':' :: (m.2.compact ++ (compactMembers ms ++ rest))) ∧
      skipBlanks (writtenString m.1 ++ ':' :: (m.2.compact ++ (compactMembers ms ++ rest))) =
        writtenString m.1 ++ ':' :: (m.2.compact ++ (compactMembers ms ++ rest)) := by
  obtain ⟨cs, -, -, hwritten⟩ := hm
  constructor
  · simp only [compactMembers, List.cons_append, List.append_assoc]
    exact skipBlanks_cons (by decide) _
  · rw [hwritten, List.cons_append]
    exact skipBlanks_cons (by decide) _

/-- The members of an object are read up to its brace. -/
theorem readMembers_compact {k : Nat} {name : Text} {v : Value} {ms : List (Text × Value)}
    (h : ∀ m ∈ (name, v) :: ms, PlainName m.1 ∧ Reads k m.2) (rest : List Char) :
    ∀ steps, k + ms.length + 1 ≤ steps →
      readMembers steps
          (writtenString name ++ ':' :: (v.compact ++ (compactMembers ms ++ rest))) =
        .ok ((name, v) :: ms, rest) := by
  induction ms generalizing name v with
  | nil =>
    intro steps hsteps
    obtain ⟨steps, rfl⟩ : ∃ k, steps = k + 1 := ⟨steps - 1, by omega⟩
    obtain ⟨hname, hv⟩ := h (name, v) List.mem_cons_self
    have hvalue := hv.read steps (compactMembers [] ++ rest)
      (by simp only [List.length_nil] at hsteps; omega) (follows_compactMembers [] rest)
    rw [readMembers_succ hname hv.starts, hvalue]
    rfl
  | cons m ms ih =>
    intro steps hsteps
    rw [List.length_cons] at hsteps
    obtain ⟨steps, rfl⟩ : ∃ k, steps = k + 1 := ⟨steps - 1, by omega⟩
    obtain ⟨hname, hv⟩ := h (name, v) List.mem_cons_self
    have hrest := @ih m.1 m.2 (fun x hx => h x (List.mem_cons_of_mem _ hx)) steps (by omega)
    have hvalue := hv.read steps (compactMembers (m :: ms) ++ rest) (by omega)
      (follows_compactMembers (m :: ms) rest)
    obtain ⟨hcomma, hnext⟩ := skipBlanks_compactMembers m ms (h m (by simp)).1 rest
    rw [readMembers_succ hname hv.starts, hvalue]
    simp only [bind, Except.bind, hcomma, hnext, hrest]
    rfl

/-- An object with members is read back, as far as the names of its members differ. -/
theorem readValue_object {k : Nat} {name : Text} {v : Value} {ms : List (Text × Value)}
    (h : ∀ m ∈ (name, v) :: ms, PlainName m.1 ∧ Reads k m.2) (rest : List Char) (steps : Nat)
    (hsteps : k + ms.length + 2 ≤ steps) :
    readValue steps ((Value.object ((name, v) :: ms)).compact ++ rest) =
      .ok (Value.ofMembers ((name, v) :: ms), rest) := by
  obtain ⟨steps, rfl⟩ : ∃ k, steps = k + 1 := ⟨steps - 1, by omega⟩
  obtain ⟨⟨cs, -, -, hwritten⟩, -⟩ := h (name, v) List.mem_cons_self
  have hmembers := readMembers_compact h rest steps (by omega)
  rw [Value.compact_object_cons, List.cons_append, List.append_assoc, List.cons_append,
    List.append_assoc, readValue]
  rw [hwritten] at hmembers ⊢
  rw [List.cons_append] at hmembers ⊢
  rw [skipBlanks_cons (by decide)]
  show Except.map (fun p => (Value.ofMembers p.1, p.2)) (readMembers steps _) = _
  rw [hmembers]
  rfl

/-! ## Octets -/

/-- Characters of one octet each. -/
def IsAscii (cs : List Char) : Prop := ∀ c ∈ cs, c.toNat < 128

theorem IsAscii.append {cs ds : List Char} (hc : IsAscii cs) (hd : IsAscii ds) :
    IsAscii (cs ++ ds) := fun c h => (List.mem_append.1 h).elim (hc c) (hd c)

theorem IsAscii.cons {c : Char} {cs : List Char} (hc : c.toNat < 128) (h : IsAscii cs) :
    IsAscii (c :: cs) := by
  intro d hd
  rcases List.mem_cons.1 hd with rfl | hd
  · exact hc
  · exact h d hd

theorem isAscii_toDigits (n : Nat) : IsAscii (Nat.toDigits 10 n) := by
  intro c hc
  have hdigit := digits_isDigit hc
  simp only [Char.isDigit, Bool.and_eq_true, decide_eq_true_eq] at hdigit
  have hle : c.val.toNat ≤ 57 := UInt32.le_iff_toNat_le.1 hdigit.2
  exact Nat.lt_of_le_of_lt hle (by decide)

theorem isAscii_writtenInt (i : Int) : IsAscii (writtenInt i) := by
  cases i with
  | ofNat n => exact isAscii_toDigits n
  | negSucc n => exact (isAscii_toDigits (n + 1)).cons (by decide)

theorem isAscii_compactItems {vs : List Value} (h : ∀ v ∈ vs, IsAscii v.compact) :
    IsAscii (compactItems vs) := by
  induction vs with
  | nil => exact IsAscii.cons (by decide) (by simp [IsAscii])
  | cons v vs ih =>
    have hvs := ih fun w hw => h w (List.mem_cons_of_mem _ hw)
    exact ((h v List.mem_cons_self).append hvs).cons (by decide)

theorem isAscii_array {vs : List Value} (h : ∀ v ∈ vs, IsAscii v.compact) :
    IsAscii (Value.array vs).compact := by
  cases vs with
  | nil => exact IsAscii.cons (by decide) (IsAscii.cons (by decide) (by simp [IsAscii]))
  | cons v vs =>
    have hvs := isAscii_compactItems fun w hw => h w (List.mem_cons_of_mem _ hw)
    exact ((h v List.mem_cons_self).append hvs).cons (by decide)

end Json

namespace Snapshot

open Json (Value Readable Reads PlainName IsAscii)

/-! ## Snapshots -/

theorem plainName_account : PlainName "account" :=
  ⟨"account".toList, rfl, by simp [Json.IsPlain], rfl⟩

theorem plainName_accounts : PlainName "accounts" :=
  ⟨"accounts".toList, rfl, by simp [Json.IsPlain], rfl⟩

theorem plainName_watchdog : PlainName "watchdog" :=
  ⟨"watchdog".toList, rfl, by simp [Json.IsPlain], rfl⟩

theorem reads_pairValue {p : Int × Int} (h : Json.Readable p.1 ∧ Json.Readable p.2) :
    Reads 4 (pairValue p) := by
  refine @Json.reads_array 1 [.int p.1, .int p.2] ?_
  intro v hv
  simp only [List.mem_cons, List.not_mem_nil, or_false] at hv
  rcases hv with rfl | rfl
  · exact Json.reads_int h.1
  · exact Json.reads_int h.2

/-- Each pair takes a step, so the steps that the reader has are enough for all of them. -/
theorem length_pairs_le (pairs : List (Int × Int)) :
    pairs.length ≤ (Value.array (pairs.map pairValue)).compact.length := by
  have hitems : ∀ ps : List (Int × Int),
      ps.length ≤ (Json.compactItems (ps.map pairValue)).length := by
    intro ps
    induction ps with
    | nil => exact Nat.zero_le _
    | cons p ps ih =>
      simp only [List.map_cons, Json.compactItems, List.length_cons, List.length_append]
      omega
  cases pairs with
  | nil => exact Nat.zero_le _
  | cons p ps =>
    have := hitems ps
    simp only [List.map_cons, Value.compact_array_cons, List.length_cons, List.length_append]
    omega

theorem isAscii_document (s : Snapshot) : IsAscii s.document.compact := by
  have hname : ∀ (name : Text), PlainName name → (∀ c ∈ name, c < 128) →
      IsAscii (Json.writtenString name) := by
    rintro name ⟨cs, rfl, -, hwritten⟩ hsmall
    rw [hwritten]
    refine (IsAscii.append ?_ (by simp [IsAscii])).cons (by decide)
    exact fun c hc => hsmall c.toNat (List.mem_map_of_mem hc)
  have hpairs : IsAscii (Value.array (s.prevSyncTimes.map pairValue)).compact := by
    apply Json.isAscii_array
    intro v hv
    obtain ⟨p, -, rfl⟩ := List.mem_map.1 hv
    apply Json.isAscii_array
    intro w hw
    simp only [List.mem_cons, List.not_mem_nil, or_false] at hw
    rcases hw with rfl | rfl <;> exact Json.isAscii_writtenInt _
  have hbool : IsAscii (Value.bool s.watchdog).compact := by
    cases s.watchdog <;> simp [IsAscii]
  have h1 := hname _ plainName_account (by decide)
  have h2 := hname _ plainName_accounts (by decide)
  have h3 := hname _ plainName_watchdog (by decide)
  unfold document
  rw [Value.compact_object_cons]
  refine IsAscii.cons (by decide) (h1.append (IsAscii.cons (by decide) ?_))
  refine (Json.isAscii_writtenInt _).append (IsAscii.cons (by decide) ?_)
  refine h2.append (IsAscii.cons (by decide) (hpairs.append (IsAscii.cons (by decide) ?_)))
  refine h3.append (IsAscii.cons (by decide) (hbool.append (IsAscii.cons (by decide) ?_)))
  simp [IsAscii]

/-- The document of a snapshot is read from its payload. -/
theorem readPayload_encode {s : Snapshot} (h : s.Readable) :
    readPayload s.encode = .ok s.document := by
  have haccount : Json.Readable (s.account.getD noAccount) := by
    cases ha : s.account with
    | none => decide
    | some id => exact h.account id ha
  have hmembers : ∀ m ∈ [(("account" : Text), Value.int (s.account.getD noAccount)),
      ("accounts", .array (s.prevSyncTimes.map pairValue)), ("watchdog", .bool s.watchdog)],
      PlainName m.1 ∧ Reads (s.prevSyncTimes.length + 5) m.2 := by
    intro m hm
    simp only [List.mem_cons, List.not_mem_nil, or_false] at hm
    rcases hm with rfl | rfl | rfl
    · exact ⟨plainName_account, (Json.reads_int haccount).mono (by omega)⟩
    · refine ⟨plainName_accounts, (Json.reads_array (n := 4) ?_).mono ?_⟩
      · intro v hv
        obtain ⟨p, hp, rfl⟩ := List.mem_map.1 hv
        exact reads_pairValue (h.pairs p hp)
      · rw [List.length_map]
        omega
    · exact ⟨plainName_watchdog, (Json.reads_bool _).mono (by omega)⟩
  have hlength : s.prevSyncTimes.length + 10 ≤ s.document.compact.length := by
    have := length_pairs_le s.prevSyncTimes
    have hname : (Json.writtenString ("account" : Text)).length = 9 := by decide
    simp only [document, Value.compact_object_cons, Json.compactMembers, List.length_cons,
      List.length_append, hname]
    omega
  have hread : Json.readValue (2 * s.document.compact.length + 2) s.document.compact =
      .ok (s.document, []) := by
    have := Json.readValue_object hmembers [] (2 * s.document.compact.length + 2) (by
      simp only [List.length_cons, List.length_nil]
      omega)
    rw [List.append_nil] at this
    exact this
  have hwhole : Json.readDocument s.document.compact = .ok s.document := by
    unfold Json.readDocument Json.readWhole
    obtain ⟨cs, hcs⟩ : ∃ cs, s.document.compact = '{' :: cs := ⟨_, rfl⟩
    rw [hcs] at hread ⊢
    split
    · rename_i heq
      exact absurd (List.cons.inj heq).1 (by decide)
    · rw [Json.skipBlanks_cons (by decide)]
      simp only [bind, Except.bind]
      rw [hread]
      rfl
  unfold readPayload encode
  rw [Text.Utf8.decode_encodeAscii _ (isAscii_document s)]
  show (Json.readDocument s.document.compact).mapError DecodeError.notDocument = _
  rw [hwhole]
  rfl

theorem mapM_readEntry (pairs : List (Int × Int)) :
    (pairs.map pairValue).mapM readEntry = .ok pairs := by
  induction pairs with
  | nil => rfl
  | cons p ps ih =>
    rw [List.map_cons, List.mapM_cons, ih]
    rfl

theorem entries_pairs (pairs : List (Int × Int)) :
    entries (.array (pairs.map pairValue)) = .ok (pairs.map pairValue) := by
  cases pairs <;> rfl

theorem ofDocument_document (s : Snapshot) :
    ofDocument s.document = .ok { s with account := s.account.filter (· ≠ noAccount) } := by
  have haccount : readAccount (.int (s.account.getD noAccount)) =
      .ok (s.account.filter (· ≠ noAccount)) := by
    cases ha : s.account with
    | none => rfl
    | some id => by_cases hid : id = noAccount <;> simp [readAccount, hid, Option.filter_some]
  have hsteps : ofDocument s.document =
      readAccount (.int (s.account.getD noAccount)) >>= fun account =>
      entries (.array (s.prevSyncTimes.map pairValue)) >>= fun listed =>
      listed.mapM readEntry >>= fun pairs =>
      pure { account, prevSyncTimes := pairs, watchdog := s.watchdog } := rfl
  rw [hsteps, haccount, entries_pairs]
  simp only [bind, Except.bind, mapM_readEntry]
  rfl

/-- A snapshot comes back from its payload, but for the number that stands for no account. -/
theorem decode_encode {s : Snapshot} (h : s.Readable) :
    decode (some s.encode) = .ok { s with account := s.account.filter (· ≠ noAccount) } := by
  have hread := readPayload_encode h
  have hne : ∃ b bs, s.encode = b :: bs := ⟨_, _, rfl⟩
  obtain ⟨b, bs, hb⟩ := hne
  rw [hb] at hread ⊢
  show (readPayload (b :: bs) >>= ofDocument) = _
  rw [hread]
  exact ofDocument_document s

/-- A number that is not the one that stands for no account comes back. -/
theorem filter_account {account : Option Int} (h : account ≠ some noAccount) :
    account.filter (· ≠ noAccount) = account := by
  cases account with
  | none => rfl
  | some id => simp [Option.filter_some, show id ≠ noAccount from fun hid => h (by rw [hid])]

/-- So a snapshot that does not name that number comes back as it is. -/
theorem decode_encode_self {s : Snapshot} (h : s.Readable) (hne : s.account ≠ some noAccount) :
    decode (some s.encode) = .ok s := by
  rw [decode_encode h, filter_account hne]

end Snapshot

end MailSchedule

import MailSchedule.Proofs.Characters
import MailSchedule.Proofs.Payloads

/-!
# The texts of JSON values

One value has many texts.  Blanks may stand around every part of a text, a string may be spelled
with escapes or without, a number may have a fraction, an exponent or neither, and members may stand
in any order.  The grammar here says which characters are a text of which value, without a word
about reading.  The reader reads every text as its value and stops right behind it.

Results:

* `UnitsText`, `joinPairs`, `StringText`: the texts of strings.
* `NumberText`: the texts of numbers.
* `ValueText`, `ItemsText`, `MembersText`: the texts of values, and what stands between brackets.
* `ValueText.read`: a text of a value is read as that value.
* `readDocument_of_text`: so is a document.
-/

namespace MailSchedule.Json

open MailSchedule.Decimal (Binary64)

/-! ## Strings -/

/-- One sign of a string and the unit it stands for: a character that stands for itself, a letter
after a backslash, or four hexadecimal digits. -/
inductive SignText : Nat → List Char → Prop
  | plain {c : Char} (h : IsPlain c) : SignText c.toNat [c]
  | letter {l c : Char} (h : escaped? l = some c) : SignText c.toNat ['\\', l]
  | number {a b c d : Char} {u : Nat} (h : hexUnit? a b c d = some u) :
      SignText u ['\\', 'u', a, b, c, d]

/-- The signs of a string one after the other. -/
inductive UnitsText : List Nat → List Char → Prop
  | nil : UnitsText [] []
  | cons {u : Nat} {us : List Nat} {cs ds : List Char} (hsign : SignText u cs)
      (hsigns : UnitsText us ds) : UnitsText (u :: us) (cs ++ ds)

/-- Whether two units are the halves of one code point. -/
def arePair (u v : Nat) : Bool := isHighSurrogate u && isLowSurrogate v

/-- The code points of units, where two halves of a pair that stand next to each other are one. -/
def joinPairs : List Nat → Text
  | [] => []
  | [u] => [u]
  | u :: v :: us =>
    if arePair u v then joinSurrogates u v :: joinPairs us else u :: joinPairs (v :: us)

/-- The texts of a string: its signs between quotes. -/
inductive StringText : Text → List Char → Prop
  | quoted {us : List Nat} {cs : List Char} (h : UnitsText us cs) :
      StringText (joinPairs us) ('"' :: (cs ++ ['"']))

/-- The letter before a number stands for no character. -/
theorem ne_of_escaped? {l c : Char} (h : escaped? l = some c) : l ≠ 'u' := by
  rintro rfl
  cases h

/-- A half of a pair has no sign but its number. -/
theorem SignText.number_of_surrogate {u : Nat} {cs : List Char} (h : SignText u cs)
    (hu : Text.isSurrogate u = true) :
    ∃ a b c d, cs = ['\\', 'u', a, b, c, d] ∧ hexUnit? a b c d = some u := by
  cases h with
  | plain hc =>
    rw [Text.Utf8.isSurrogate_toNat] at hu
    cases hu
  | letter hl =>
    rw [Text.Utf8.isSurrogate_toNat] at hu
    cases hu
  | number hu => exact ⟨_, _, _, _, rfl, hu⟩

theorem isSurrogate_of_arePair {u v : Nat} (h : arePair u v = true) :
    Text.isSurrogate u = true ∧ Text.isSurrogate v = true := by
  simp only [arePair, isHighSurrogate, isLowSurrogate, Text.isSurrogate, Bool.and_eq_true,
    decide_eq_true_eq] at h ⊢
  omega

/-- No pair ends with a character. -/
theorem arePair_toNat (u : Nat) (c : Char) : arePair u c.toNat = false := by
  cases h : arePair u c.toNat with
  | false => rfl
  | true =>
    have hc := (isSurrogate_of_arePair h).2
    rw [Text.Utf8.isSurrogate_toNat] at hc
    cases hc

/-- A unit that makes no pair with the next one stands for itself. -/
theorem joinPairs_cons {u : Nat} {us : List Nat} (h : us.head?.filter (arePair u) = none) :
    joinPairs (u :: us) = u :: joinPairs us := by
  cases us with
  | nil => rfl
  | cons v us =>
    rw [List.head?_cons, Option.filter_some] at h
    by_cases hpair : arePair u v = true
    · rw [if_pos hpair] at h
      cases h
    · rw [joinPairs, if_neg hpair]

/-- A character makes no pair with what follows it. -/
theorem joinPairs_toNat_cons (c : Char) (us : List Nat) :
    joinPairs (c.toNat :: us) = c.toNat :: joinPairs us := by
  refine joinPairs_cons ?_
  cases us with
  | nil => rfl
  | cons v us =>
    rw [List.head?_cons, Option.filter_some, if_neg]
    intro hpair
    have hc := (isSurrogate_of_arePair hpair).1
    rw [Text.Utf8.isSurrogate_toNat] at hc
    cases hc

theorem joinPairs_ofCharacters (cs : List Char) :
    joinPairs (Text.ofCharacters cs) = Text.ofCharacters cs := by
  induction cs with
  | nil => rfl
  | cons c cs ih => exact (joinPairs_toNat_cons c _).trans (congrArg _ ih)

theorem unitsText_plain {cs : List Char} (h : ∀ c ∈ cs, IsPlain c) :
    UnitsText (Text.ofCharacters cs) cs := by
  induction cs with
  | nil => exact .nil
  | cons c cs ih =>
    exact .cons (.plain (h c List.mem_cons_self)) (ih fun d hd => h d (List.mem_cons_of_mem c hd))

/-- Plain characters between quotes are a text of their string. -/
theorem stringText_plain {cs : List Char} (h : ∀ c ∈ cs, IsPlain c) :
    StringText (Text.ofCharacters cs) ('"' :: (cs ++ ['"'])) := by
  have hquoted := StringText.quoted (unitsText_plain h)
  rw [joinPairs_ofCharacters] at hquoted
  exact hquoted

theorem lowHalf_of_ne {u : Nat} {cs : List Char} (h : ∀ ds, cs ≠ '\\' :: 'u' :: ds) :
    lowHalf u cs = .ok none := by
  unfold lowHalf
  split
  · exact absurd rfl (h _)
  · rfl

/-- The second half that the reader looks for behind a first one is there if the next unit is
one. -/
theorem lowHalf_units (u : Nat) {us : List Nat} {cs : List Char} (h : UnitsText us cs)
    (rest : List Char) :
    lowHalf u (cs ++ '"' :: rest) = .ok (us.head?.filter (arePair u)) := by
  cases h with
  | nil => rfl
  | @cons v us cs ds hsign hsigns =>
    rw [List.head?_cons, Option.filter_some, List.append_assoc]
    cases hsign with
    | @plain c hc =>
      rw [arePair_toNat]
      exact lowHalf_of_ne fun _ heq => hc.2.1 (List.cons.inj heq).1
    | @letter l c hl =>
      have hu := ne_of_escaped? hl
      rw [arePair_toNat]
      exact lowHalf_of_ne fun _ heq => hu (List.cons.inj (List.cons.inj heq).2).1
    | @number a b c d v hv =>
      -- the quote at least stands behind the four digits
      obtain ⟨next, more, hnext⟩ : ∃ next more, ds ++ '"' :: rest = next :: more := by
        cases ds <;> exact ⟨_, _, rfl⟩
      rw [hnext]
      simp only [List.cons_append, List.nil_append, lowHalf, hv]
      cases hhigh : isHighSurrogate u with
      | true =>
        rw [show arePair u v = isLowSurrogate v by rw [arePair, hhigh, Bool.true_and]]
        rfl
      | false =>
        rw [show arePair u v = false by rw [arePair, hhigh, Bool.false_and]]
        rfl

/-! ### Reading strings -/

theorem readString_letter (opening : List Char) {l c : Char} (h : escaped? l = some c)
    (rest : List Char) :
    readString opening ('\\' :: l :: rest) = prepend c.toNat (readString opening rest) := by
  have hl := ne_of_escaped? h
  rw [readString]
  · rw [h]
  all_goals simp_all

theorem readString_number (opening : List Char) {a b c d : Char} {u : Nat}
    (h : hexUnit? a b c d = some u) {us : List Nat} {cs : List Char} (hcs : UnitsText us cs)
    (rest : List Char) (hpair : us.head?.filter (arePair u) = none) :
    readString opening ('\\' :: 'u' :: a :: b :: c :: d :: (cs ++ '"' :: rest)) =
      prepend u (readString opening (cs ++ '"' :: rest)) := by
  have hlow := lowHalf_units u hcs rest
  have hne : (cs ++ '"' :: rest).isEmpty = false := by cases cs <;> rfl
  rw [hpair] at hlow
  rw [readString, hne, h]
  simp only [hlow]

/-- A sign is read as its unit, unless the reader finds the other half of a pair behind it. -/
theorem readString_sign (opening : List Char) {u : Nat} {cs : List Char} (h : SignText u cs)
    {us : List Nat} {ds : List Char} (hds : UnitsText us ds) (rest : List Char)
    (hpair : us.head?.filter (arePair u) = none) :
    readString opening (cs ++ (ds ++ '"' :: rest)) =
      prepend u (readString opening (ds ++ '"' :: rest)) := by
  cases h with
  | plain hc => exact readString_plain_cons opening hc _
  | letter hl => exact readString_letter opening hl _
  | number hu => exact readString_number opening hu hds rest hpair

/-- The halves of a pair are read as the code point they denote. -/
theorem readString_pair (opening : List Char) {u v : Nat} (hpair : arePair u v = true)
    {cs ds : List Char} (hcs : SignText u cs) (hds : SignText v ds) {us : List Nat}
    {es : List Char} (hes : UnitsText us es) (rest : List Char) :
    readString opening (cs ++ (ds ++ (es ++ '"' :: rest))) =
      prepend (joinSurrogates u v) (readString opening (es ++ '"' :: rest)) := by
  have hlow := lowHalf_units u (.cons hds hes) rest
  rw [List.head?_cons, Option.filter_some, if_pos hpair, List.append_assoc] at hlow
  obtain ⟨hu, hv⟩ := isSurrogate_of_arePair hpair
  obtain ⟨a, b, c, d, rfl, hhex⟩ := hcs.number_of_surrogate hu
  obtain ⟨a', b', c', d', rfl, -⟩ := hds.number_of_surrogate hv
  simp only [List.cons_append, List.nil_append] at hlow ⊢
  rw [readString, hhex]
  simp only [List.isEmpty_cons, hlow]

/-- A string is read up to its quote. -/
theorem readString_units (opening : List Char) {us : List Nat} {cs : List Char}
    (h : UnitsText us cs) (rest : List Char) :
    readString opening (cs ++ '"' :: rest) = .ok (joinPairs us, rest) := by
  fun_induction joinPairs us generalizing cs with
  | case1 =>
    cases h with
    | nil => rw [List.nil_append, readString]
  | case2 u =>
    cases h with
    | cons hsign hnil =>
      have hread := readString_sign opening hsign hnil rest rfl
      cases hnil with
      | nil =>
        rw [List.append_assoc, hread, List.nil_append, readString]
        rfl
  | case3 u v us hpair ih =>
    cases h with
    | cons hu h =>
      cases h with
      | cons hv hus =>
        rw [List.append_assoc, List.append_assoc, readString_pair opening hpair hu hv hus, ih hus]
        rfl
  | case4 u v us hpair ih =>
    cases h with
    | cons hu hus =>
      have hnone : (v :: us).head?.filter (arePair u) = none := by
        rw [List.head?_cons, Option.filter_some, if_neg hpair]
      rw [List.append_assoc, readString_sign opening hu hus rest hnone, ih hus]
      rfl

/-! ## Numbers -/

/-- A sign that may be left out. -/
inductive MinusText : Bool → List Char → Prop
  | absent : MinusText false []
  | present : MinusText true ['-']

/-- The digits before a point: a zero, or digits that begin with another one. -/
inductive WholeText : List Char → Prop
  | zero : WholeText ['0']
  | digits {d : Char} {ds : List Char} (hzero : d ≠ '0') (hds : ∀ c ∈ d :: ds, c.isDigit = true) :
      WholeText (d :: ds)

/-- A point with digits, one at least, that may be left out. -/
inductive FractionText : List Char → List Char → Prop
  | absent : FractionText [] []
  | present {ds : List Char} (hne : ds ≠ []) (hds : ∀ c ∈ ds, c.isDigit = true) :
      FractionText ds ('.' :: ds)

/-- The sign of an exponent. -/
inductive ExponentSignText : Bool → List Char → Prop
  | absent : ExponentSignText false []
  | plus : ExponentSignText false ['+']
  | minus : ExponentSignText true ['-']

/-- An exponent that may be left out. -/
inductive ExponentText : Option Int → List Char → Prop
  | absent : ExponentText none []
  | present {letter : Char} {negative : Bool} {sign ds : List Char}
      (hletter : letter = 'e' ∨ letter = 'E') (hsign : ExponentSignText negative sign)
      (hne : ds ≠ []) (hds : ∀ c ∈ ds, c.isDigit = true) :
      ExponentText (some (signed negative (ofDigits ds))) (letter :: (sign ++ ds))

/-- The texts of a number.  Without fraction and exponent it is an integer, which has no more digits
than are allowed. -/
inductive NumberText : Value → List Char → Prop
  | int {negative : Bool} {minus whole : List Char} (hminus : MinusText negative minus)
      (hwhole : WholeText whole) (hlength : whole.length ≤ maxDigits) :
      NumberText (.int (signed negative (ofDigits whole))) (minus ++ whole)
  | real {negative : Bool} {minus whole digits fraction exponent : List Char} {e : Option Int}
      (hminus : MinusText negative minus) (hwhole : WholeText whole)
      (hfraction : FractionText digits fraction) (hexponent : ExponentText e exponent)
      (hne : fraction ++ exponent ≠ []) :
      NumberText
        (.real (Binary64.nearest negative (ofDigits (whole ++ digits)) (e.getD 0 - digits.length)))
        (minus ++ (whole ++ (fraction ++ exponent)))

/-- What stands behind a value: nothing, a blank, or a character that separates or closes. -/
def Ends (rest : List Char) : Prop :=
  ∀ c ∈ rest.head?, isBlank c = true ∨ c = ',' ∨ c = ']' ∨ c = '}'

/-! ### Reading numbers -/

theorem Ends.head {rest : List Char} (h : Ends rest) {c : Char} (hc : c ∈ rest.head?) :
    c.isDigit = false ∧ c ≠ '.' ∧ c ≠ 'e' ∧ c ≠ 'E' := by
  have hends := h c hc
  simp only [isBlank, Bool.or_eq_true, decide_eq_true_eq] at hends
  rcases hends with ((((rfl | rfl) | rfl) | rfl) | rfl | rfl | rfl) <;> decide

/-- The whole part begins with a digit. -/
theorem WholeText.head {whole : List Char} (h : WholeText whole) :
    ∃ d ds, whole = d :: ds ∧ d.isDigit = true := by
  cases h with
  | zero => exact ⟨'0', [], rfl, rfl⟩
  | digits _ hds => exact ⟨_, _, rfl, hds _ List.mem_cons_self⟩

theorem NumberText.startsNumber {v : Value} {cs : List Char} (h : NumberText v cs) :
    StartsNumber cs := by
  have hstarts : ∀ {negative : Bool} {minus whole : List Char}, MinusText negative minus →
      WholeText whole → ∀ rest, StartsNumber (minus ++ (whole ++ rest)) := by
    intro negative minus whole hminus hwhole rest
    obtain ⟨d, ds, rfl, hd⟩ := hwhole.head
    cases hminus with
    | absent => exact ⟨d, ds ++ rest, rfl, Or.inl hd⟩
    | present => exact ⟨'-', d :: ds ++ rest, rfl, Or.inr ⟨rfl, d, ds ++ rest, rfl, hd⟩⟩
  cases h with
  | int hminus hwhole =>
    have h := hstarts hminus hwhole []
    rw [List.append_nil] at h
    exact h
  | real hminus hwhole => exact hstarts hminus hwhole _

theorem wholeDigits_text {whole rest : List Char} (h : WholeText whole)
    (hrest : ∀ c ∈ rest.head?, c.isDigit = false) :
    wholeDigits (whole ++ rest) = (whole, rest) := by
  cases h with
  | zero => rfl
  | @digits d ds hzero hds =>
    obtain ⟨htake, hdrop⟩ := span_digits hds hrest
    rw [List.cons_append] at htake hdrop ⊢
    rw [wholeDigits, if_neg hzero, htake, hdrop]

theorem fractionDigits_text {digits fraction rest : List Char} (h : FractionText digits fraction)
    (hrest : ∀ c ∈ rest.head?, c.isDigit = false ∧ c ≠ '.') :
    fractionDigits (fraction ++ rest) = (digits, rest) := by
  cases h with
  | absent =>
    rw [List.nil_append]
    unfold fractionDigits
    split
    · exact absurd rfl (hrest '.' rfl).2
    · rfl
  | present hne hds =>
    obtain ⟨htake, hdrop⟩ := span_digits hds fun c hc => (hrest c hc).1
    rw [List.cons_append, fractionDigits, htake, hdrop, if_neg (by simp [hne])]

theorem exponentSign_text {negative : Bool} {sign ds : List Char}
    (h : ExponentSignText negative sign) (hne : ds ≠ []) (hds : ∀ c ∈ ds, c.isDigit = true)
    (rest : List Char) : exponentSign (sign ++ (ds ++ rest)) = (negative, ds ++ rest) := by
  cases h with
  | absent =>
    cases ds with
    | nil => exact absurd rfl hne
    | cons d ds =>
      have hd := hds d List.mem_cons_self
      rw [List.nil_append, List.cons_append]
      unfold exponentSign
      split
      · rename_i heq
        exact absurd (List.cons.inj heq).1 (ne_of_isDigit hd (by decide))
      · rename_i heq
        exact absurd (List.cons.inj heq).1 (ne_of_isDigit hd (by decide))
      · rfl
  | plus => rfl
  | minus => rfl

theorem exponentPart_text {e : Option Int} {exponent rest : List Char}
    (h : ExponentText e exponent) (hrest : Ends rest) :
    exponentPart (exponent ++ rest) = (e, rest) := by
  cases h with
  | absent =>
    cases rest with
    | nil => rfl
    | cons c rest =>
      have hc := hrest.head (c := c) rfl
      rw [List.nil_append, exponentPart, if_neg (by simp [hc.2.2.1, hc.2.2.2])]
  | @present letter negative sign ds hletter hsign hne hds =>
    obtain ⟨htake, hdrop⟩ := span_digits hds fun c hc => (hrest.head hc).1
    rw [List.cons_append, List.append_assoc, exponentPart, if_pos (by simpa using hletter),
      exponentSign_text hsign hne hds]
    dsimp only
    rw [htake, hdrop, if_neg (by simp [hne])]

/-- The parts of a number are read up to its end. -/
theorem readUnsigned_text (negative : Bool) (start : List Char) {e : Option Int}
    {whole digits fraction exponent rest : List Char} (hwhole : WholeText whole)
    (hfraction : FractionText digits fraction) (hexponent : ExponentText e exponent)
    (hrest : Ends rest) :
    readUnsigned negative start (whole ++ (fraction ++ (exponent ++ rest))) =
      (numberValue negative whole digits e).map fun v => (v, rest) := by
  have hends : ∀ c ∈ (exponent ++ rest).head?, c.isDigit = false ∧ c ≠ '.' := by
    intro c hc
    cases hexponent with
    | absent => exact ⟨(hrest.head hc).1, (hrest.head hc).2.1⟩
    | present hletter =>
      cases hc
      rcases hletter with rfl | rfl <;> decide
  have hpoint : ∀ c ∈ (fraction ++ (exponent ++ rest)).head?, c.isDigit = false := by
    intro c hc
    cases hfraction with
    | absent => exact (hends c hc).1
    | present =>
      cases hc
      rfl
  have hne : whole.isEmpty = false := by
    obtain ⟨d, ds, rfl, -⟩ := hwhole.head
    rfl
  unfold readUnsigned
  rw [wholeDigits_text hwhole hpoint]
  dsimp only
  rw [hne, fractionDigits_text hfraction hends]
  dsimp only
  rw [exponentPart_text hexponent hrest]
  rfl

theorem readNumber_minus {negative : Bool} {minus whole : List Char}
    (hminus : MinusText negative minus) (hwhole : WholeText whole) (rest : List Char) :
    ∃ start,
      readNumber (minus ++ (whole ++ rest)) = readUnsigned negative start (whole ++ rest) := by
  cases hminus with
  | absent =>
    refine ⟨whole ++ rest, ?_⟩
    obtain ⟨d, ds, rfl, hd⟩ := hwhole.head
    rw [List.nil_append, List.cons_append]
    unfold readNumber
    split
    · rename_i heq
      exact absurd (List.cons.inj heq).1 (ne_of_isDigit hd (by decide))
    · rfl
  | present => exact ⟨'-' :: (whole ++ rest), rfl⟩

/-- A text of a number is read as that number. -/
theorem readNumber_text {v : Value} {cs rest : List Char} (h : NumberText v cs)
    (hrest : Ends rest) : readNumber (cs ++ rest) = .ok (v, rest) := by
  cases h with
  | @int negative minus whole hminus hwhole hlength =>
    obtain ⟨start, hstart⟩ := readNumber_minus hminus hwhole rest
    have hread := readUnsigned_text negative start hwhole .absent .absent hrest
    have hvalue : numberValue negative whole [] none =
        .ok (.int (signed negative (ofDigits whole))) := by
      unfold numberValue
      rw [if_pos (by rfl), if_neg (Nat.not_lt.2 hlength)]
    rw [hvalue] at hread
    rw [List.append_assoc, hstart]
    exact hread
  | @real negative minus whole digits fraction exponent e hminus hwhole hfraction hexponent hne =>
    obtain ⟨start, hstart⟩ := readNumber_minus hminus hwhole (fraction ++ (exponent ++ rest))
    have hread := readUnsigned_text negative start hwhole hfraction hexponent hrest
    have hvalue : numberValue negative whole digits e = .ok (.real
        (Binary64.nearest negative (ofDigits (whole ++ digits)) (e.getD 0 - digits.length))) := by
      unfold numberValue
      rw [if_neg]
      intro hnone
      rw [Bool.and_eq_true, List.isEmpty_iff, Option.isNone_iff_eq_none] at hnone
      obtain ⟨rfl, rfl⟩ := hnone
      cases hexponent
      cases hfraction with
      | absent => exact hne rfl
      | present hdigits => exact hdigits rfl
    rw [hvalue] at hread
    simp only [List.append_assoc] at hstart ⊢
    rw [hstart]
    exact hread

/-! ## Values -/

/-- Any number of blanks. -/
def Blanks (bs : List Char) : Prop := ∀ b ∈ bs, isBlank b = true

instance (bs : List Char) : Decidable (Blanks bs) :=
  decidable_of_iff (bs.all isBlank = true) List.all_eq_true

mutual

/-- The texts of a value. -/
inductive ValueText : Value → List Char → Prop
  | word {w : List Char × Value} (h : w ∈ literals) : ValueText w.2 w.1
  | number {v : Value} {cs : List Char} (h : NumberText v cs) : ValueText v cs
  | string {t : Text} {cs : List Char} (h : StringText t cs) : ValueText (.string t) cs
  | array {vs : List Value} {cs : List Char} (h : ItemsText vs cs) :
      ValueText (.array vs) ('[' :: (cs ++ [']']))
  | object {ms : List (Text × Value)} {cs : List Char} (h : MembersText ms cs) :
      ValueText (.ofMembers ms) ('{' :: (cs ++ ['}']))

/-- What stands between the brackets of an array: items with blanks around them and commas between
them, or blanks alone. -/
inductive ItemsText : List Value → List Char → Prop
  | none {b : List Char} (hb : Blanks b) : ItemsText [] b
  | one {v : Value} {b₁ cs b₂ : List Char} (hb₁ : Blanks b₁) (hv : ValueText v cs)
      (hb₂ : Blanks b₂) : ItemsText [v] (b₁ ++ (cs ++ b₂))
  | more {v w : Value} {vs : List Value} {b₁ cs b₂ ds : List Char} (hb₁ : Blanks b₁)
      (hv : ValueText v cs) (hb₂ : Blanks b₂) (hvs : ItemsText (w :: vs) ds) :
      ItemsText (v :: w :: vs) (b₁ ++ (cs ++ (b₂ ++ ',' :: ds)))

/-- One member of an object: a name, a colon and a value, with blanks around the name and around
the value. -/
inductive MemberText : Text × Value → List Char → Prop
  | named {n : Text} {v : Value} {b₁ ns b₂ b₃ cs b₄ : List Char} (hb₁ : Blanks b₁)
      (hn : StringText n ns) (hb₂ : Blanks b₂) (hb₃ : Blanks b₃) (hv : ValueText v cs)
      (hb₄ : Blanks b₄) :
      MemberText (n, v) (b₁ ++ (ns ++ (b₂ ++ ':' :: (b₃ ++ (cs ++ b₄)))))

/-- What stands between the braces of an object: members with commas between them, or blanks
alone. -/
inductive MembersText : List (Text × Value) → List Char → Prop
  | none {b : List Char} (hb : Blanks b) : MembersText [] b
  | one {m : Text × Value} {cs : List Char} (hm : MemberText m cs) : MembersText [m] cs
  | more {m m' : Text × Value} {ms : List (Text × Value)} {cs ds : List Char}
      (hm : MemberText m cs) (hms : MembersText (m' :: ms) ds) :
      MembersText (m :: m' :: ms) (cs ++ ',' :: ds)

end

/-- The texts of a document: those of its value with blanks around them. -/
inductive DocumentText : Value → List Char → Prop
  | value {v : Value} {b₁ cs b₂ : List Char} (hb₁ : Blanks b₁) (hv : ValueText v cs)
      (hb₂ : Blanks b₂) : DocumentText v (b₁ ++ (cs ++ b₂))

/-! ### First characters -/

/-- What a value begins with. -/
def Begins (c : Char) : Prop :=
  c.isDigit = true ∨ c ∈ ['"', '[', '{', '-', 'n', 't', 'f', 'N', 'I']

instance (c : Char) : Decidable (Begins c) := inferInstanceAs (Decidable (_ ∨ _))

theorem Begins.ne {c d : Char} (h : Begins c) (hd : ¬Begins d) : c ≠ d := by
  rintro rfl
  exact hd h

theorem Begins.not_blank {c : Char} (h : Begins c) : isBlank c = false := by
  simp [isBlank, h.ne (d := ' ') (by decide), h.ne (d := '\t') (by decide),
    h.ne (d := '\n') (by decide), h.ne (d := '\r') (by decide)]

theorem StringText.starts {t : Text} {cs : List Char} (h : StringText t cs) :
    ∃ ds, cs = '"' :: ds := by
  cases h with
  | quoted h => exact ⟨_, rfl⟩

theorem ValueText.starts {v : Value} {cs : List Char} (h : ValueText v cs) :
    ∃ c ds, cs = c :: ds ∧ Begins c := by
  cases h with
  | @word w h =>
    simp only [literals, List.mem_cons, List.not_mem_nil, or_false] at h
    rcases h with rfl | rfl | rfl | rfl | rfl | rfl
    all_goals exact ⟨_, _, rfl, by decide⟩
  | number h =>
    obtain ⟨c, ds, rfl, hc | ⟨rfl, -⟩⟩ := h.startsNumber
    · exact ⟨c, ds, rfl, Or.inl hc⟩
    · exact ⟨'-', ds, rfl, by decide⟩
  | string h =>
    obtain ⟨ds, rfl⟩ := h.starts
    exact ⟨'"', ds, rfl, by decide⟩
  | array h => exact ⟨'[', _, rfl, by decide⟩
  | object h => exact ⟨'{', _, rfl, by decide⟩

/-! ### Reading values -/

theorem skipBlanks_blanks {b : List Char} (h : Blanks b) (cs : List Char) :
    skipBlanks (b ++ cs) = skipBlanks cs := List.dropWhile_append_of_pos h

theorem ValueText.skipBlanks {v : Value} {cs : List Char} (h : ValueText v cs)
    (rest : List Char) : skipBlanks (cs ++ rest) = cs ++ rest := by
  obtain ⟨c, ds, rfl, hc⟩ := h.starts
  exact skipBlanks_cons hc.not_blank (ds ++ rest)

theorem StringText.skipBlanks {t : Text} {cs : List Char} (h : StringText t cs)
    (rest : List Char) : skipBlanks (cs ++ rest) = cs ++ rest := by
  obtain ⟨ds, rfl⟩ := h.starts
  exact skipBlanks_cons (by decide) (ds ++ rest)

theorem Ends.nil : Ends [] := nofun

/-- Blanks behind a value do not keep it from ending. -/
theorem Ends.blanks {b rest : List Char} (hb : Blanks b) (h : Ends rest) : Ends (b ++ rest) := by
  cases b with
  | nil => exact h
  | cons c b =>
    intro d hd
    cases hd
    exact Or.inl (hb _ List.mem_cons_self)

theorem ends_blanks {b : List Char} (hb : Blanks b) {c : Char} (hc : c = ',' ∨ c = ']' ∨ c = '}')
    (rest : List Char) : Ends (b ++ c :: rest) := by
  refine Ends.blanks hb fun d hd => ?_
  cases hd
  exact Or.inr hc

theorem readValue_word {w : List Char × Value} (h : w ∈ literals) (steps : Nat)
    (rest : List Char) : readValue (steps + 1) (w.1 ++ rest) = .ok (w.2, rest) := by
  simp only [literals, List.mem_cons, List.not_mem_nil, or_false] at h
  rcases h with rfl | rfl | rfl | rfl | rfl | rfl <;> rfl

theorem readValue_string {t : Text} {cs : List Char} (h : StringText t cs) (steps : Nat)
    (rest : List Char) : readValue (steps + 1) (cs ++ rest) = .ok (.string t, rest) := by
  cases h with
  | quoted h =>
    rw [List.cons_append, List.append_assoc, List.singleton_append, readValue, readString_units _ h]
    rfl

section

variable {steps : Nat} {v : Value} {vs : List Value} {b₁ cs b₂ ds rest : List Char}

theorem readItems_one (hb₁ : Blanks b₁) (hv : ValueText v cs) (hb₂ : Blanks b₂)
    (hread : readValue steps (cs ++ (b₂ ++ ']' :: rest)) = .ok (v, b₂ ++ ']' :: rest)) :
    readItems (steps + 1) (skipBlanks (b₁ ++ (cs ++ (b₂ ++ ']' :: rest)))) = .ok ([v], rest) := by
  rw [skipBlanks_blanks hb₁, hv.skipBlanks, readItems, hread]
  simp only [bind, Except.bind]
  rw [skipBlanks_blanks hb₂, skipBlanks_cons (by decide)]
  rfl

theorem readItems_more (hb₁ : Blanks b₁) (hv : ValueText v cs) (hb₂ : Blanks b₂)
    (hread : readValue steps (cs ++ (b₂ ++ ',' :: ds)) = .ok (v, b₂ ++ ',' :: ds))
    (hitems : readItems steps (skipBlanks ds) = .ok (vs, rest)) :
    readItems (steps + 1) (skipBlanks (b₁ ++ (cs ++ (b₂ ++ ',' :: ds)))) = .ok (v :: vs, rest) := by
  rw [skipBlanks_blanks hb₁, hv.skipBlanks, readItems, hread]
  simp only [bind, Except.bind]
  rw [skipBlanks_blanks hb₂, skipBlanks_cons (by decide)]
  simp only [hitems]
  rfl

theorem ItemsText.begins (h : ItemsText (v :: vs) cs) (rest : List Char) :
    ∃ c es, Json.skipBlanks (cs ++ rest) = c :: es ∧ c ≠ ']' := by
  cases h with
  | one hb₁ hv hb₂ =>
    obtain ⟨c, es, rfl, hc⟩ := hv.starts
    rw [List.append_assoc, skipBlanks_blanks hb₁, List.append_assoc, hv.skipBlanks]
    exact ⟨c, _, rfl, hc.ne (by decide)⟩
  | more hb₁ hv hb₂ hvs =>
    obtain ⟨c, es, rfl, hc⟩ := hv.starts
    rw [List.append_assoc, skipBlanks_blanks hb₁, List.append_assoc, hv.skipBlanks]
    exact ⟨c, _, rfl, hc.ne (by decide)⟩

theorem readValue_items (h : ItemsText (v :: vs) cs)
    (hread : readItems steps (skipBlanks (cs ++ ']' :: rest)) = .ok (v :: vs, rest)) :
    readValue (steps + 1) ('[' :: (cs ++ ']' :: rest)) = .ok (.array (v :: vs), rest) := by
  obtain ⟨c, es, hbegin, hc⟩ := h.begins (']' :: rest)
  rw [hbegin] at hread
  rw [readValue, hbegin]
  split
  · rename_i heq
    exact absurd (List.cons.inj heq).1 hc
  · rw [hread]
    rfl

end

section

variable {steps : Nat} {m : Text × Value} {ms : List (Text × Value)} {cs ds rest : List Char}

/-- What the reader does behind a member: it stops at a brace and goes on after a comma. -/
def behindMember (steps : Nat) (m : Text × Value) :
    List Char → Except Stop (List (Text × Value) × List Char)
  | '}' :: rest => .ok ([m], rest)
  | ',' :: rest => (readMembers steps (skipBlanks rest)).map fun p => (m :: p.1, p.2)
  | rest => stop .expectingComma rest

/-- After a member the reader goes on with what stands behind its value. -/
theorem readMembers_named {n : Text} {v : Value} {b₁ ns b₂ b₃ es b₄ : List Char}
    (hb₁ : Blanks b₁) (hn : StringText n ns) (hb₂ : Blanks b₂) (hb₃ : Blanks b₃)
    (hv : ValueText v es) (hb₄ : Blanks b₄)
    (hread : readValue steps (es ++ (b₄ ++ rest)) = .ok (v, b₄ ++ rest)) :
    readMembers (steps + 1)
        (skipBlanks (b₁ ++ (ns ++ (b₂ ++ ':' :: (b₃ ++ (es ++ (b₄ ++ rest))))))) =
      behindMember steps (n, v) (skipBlanks rest) := by
  rw [skipBlanks_blanks hb₁, hn.skipBlanks]
  cases hn with
  | quoted h =>
    rw [List.cons_append, List.append_assoc, List.singleton_append, readMembers,
      readString_units _ h]
    simp only [bind, Except.bind]
    rw [skipBlanks_blanks hb₂, skipBlanks_cons (by decide)]
    simp only
    rw [skipBlanks_blanks hb₃, hv.skipBlanks, hread]
    simp only
    rw [skipBlanks_blanks hb₄]
    rfl

theorem MembersText.begins (h : MembersText (m :: ms) cs) (rest : List Char) :
    ∃ es, Json.skipBlanks (cs ++ rest) = '"' :: es := by
  have hmember : ∀ {m : Text × Value} {cs : List Char}, MemberText m cs → ∀ rest,
      ∃ es, Json.skipBlanks (cs ++ rest) = '"' :: es := by
    rintro _ _ ⟨hb₁, hn, -, -, -, -⟩ rest
    obtain ⟨es, rfl⟩ := hn.starts
    rw [List.append_assoc, skipBlanks_blanks hb₁, List.append_assoc, hn.skipBlanks]
    exact ⟨_, rfl⟩
  cases h with
  | one hm => exact hmember hm rest
  | more hm hms =>
    rw [List.append_assoc]
    exact hmember hm _

theorem readValue_members (h : MembersText (m :: ms) cs)
    (hread : readMembers steps (skipBlanks (cs ++ '}' :: rest)) = .ok (m :: ms, rest)) :
    readValue (steps + 1) ('{' :: (cs ++ '}' :: rest)) =
      .ok (Value.ofMembers (m :: ms), rest) := by
  obtain ⟨es, hbegin⟩ := h.begins ('}' :: rest)
  rw [hbegin] at hread
  rw [readValue, hbegin]
  show Except.map (fun p => (Value.ofMembers p.1, p.2)) (readMembers steps _) = _
  rw [hread]
  rfl

end

mutual

/-- A text of a value is read as that value, whatever ends it there.  Each step into the text leaves
out a character of it, so as many steps as there are characters are enough. -/
theorem ValueText.read {v : Value} {cs : List Char} (h : ValueText v cs) {steps : Nat}
    {rest : List Char} (hsteps : cs.length ≤ steps) (hrest : Ends rest) :
    readValue steps (cs ++ rest) = .ok (v, rest) := by
  obtain ⟨steps, rfl⟩ : ∃ k, steps = k + 1 := by
    obtain ⟨c, ds, rfl, -⟩ := h.starts
    exact ⟨steps - 1, by rw [List.length_cons] at hsteps; omega⟩
  match h with
  | .word hw => exact readValue_word hw steps rest
  | .number hn =>
    rw [readValue_of_startsNumber hn.startsNumber]
    exact readNumber_text hn hrest
  | .string ht => exact readValue_string ht steps rest
  | .array (.none hb) =>
    rw [List.cons_append, List.append_assoc, readValue, skipBlanks_blanks hb]
    rfl
  | @ValueText.array (v :: vs) _ hvs =>
    rw [List.length_cons, List.length_append, List.length_singleton] at hsteps
    rw [List.cons_append, List.append_assoc]
    exact readValue_items hvs (hvs.read (List.cons_ne_nil _ _) (by omega) rest)
  | .object (.none hb) =>
    rw [List.cons_append, List.append_assoc, readValue, skipBlanks_blanks hb]
    rfl
  | @ValueText.object (m :: ms) _ hms =>
    rw [List.length_cons, List.length_append, List.length_singleton] at hsteps
    rw [List.cons_append, List.append_assoc]
    exact readValue_members hms (hms.read (List.cons_ne_nil _ _) (by omega) rest)

theorem ItemsText.read {vs : List Value} {cs : List Char} (h : ItemsText vs cs) (hne : vs ≠ [])
    {steps : Nat} (hsteps : cs.length < steps) (rest : List Char) :
    readItems steps (skipBlanks (cs ++ ']' :: rest)) = .ok (vs, rest) := by
  obtain ⟨steps, rfl⟩ : ∃ k, steps = k + 1 := ⟨steps - 1, by omega⟩
  match h with
  | .none _ => exact absurd rfl hne
  | .one hb₁ hv hb₂ =>
    simp only [List.length_append] at hsteps
    simp only [List.append_assoc]
    have hends := ends_blanks hb₂ (Or.inr (Or.inl rfl)) rest
    exact readItems_one hb₁ hv hb₂ (hv.read (by omega) hends)
  | @ItemsText.more _ _ _ _ _ _ ds hb₁ hv hb₂ hvs =>
    simp only [List.length_append, List.length_cons] at hsteps
    simp only [List.append_assoc, List.cons_append]
    have hends := ends_blanks hb₂ (Or.inl rfl) (ds ++ ']' :: rest)
    refine readItems_more hb₁ hv hb₂ (hv.read (by omega) hends) ?_
    exact hvs.read (List.cons_ne_nil _ _) (by omega) rest

theorem MemberText.read {m : Text × Value} {cs : List Char} (h : MemberText m cs) {steps : Nat}
    (hsteps : cs.length ≤ steps) (rest : List Char) :
    readMembers (steps + 1) (skipBlanks (cs ++ '}' :: rest)) = .ok ([m], rest) ∧
      readMembers (steps + 1) (skipBlanks (cs ++ ',' :: rest)) =
        (readMembers steps (skipBlanks rest)).map fun p => (m :: p.1, p.2) := by
  match h with
  | .named hb₁ hn hb₂ hb₃ hv hb₄ =>
    simp only [List.length_append, List.length_cons] at hsteps
    simp only [List.append_assoc, List.cons_append]
    constructor
    · have hends := ends_blanks hb₄ (Or.inr (Or.inr rfl)) rest
      rw [readMembers_named hb₁ hn hb₂ hb₃ hv hb₄ (hv.read (by omega) hends),
        skipBlanks_cons (by decide)]
      rfl
    · have hends := ends_blanks hb₄ (Or.inl rfl) rest
      rw [readMembers_named hb₁ hn hb₂ hb₃ hv hb₄ (hv.read (by omega) hends),
        skipBlanks_cons (by decide)]
      rfl

theorem MembersText.read {ms : List (Text × Value)} {cs : List Char} (h : MembersText ms cs)
    (hne : ms ≠ []) {steps : Nat} (hsteps : cs.length < steps) (rest : List Char) :
    readMembers steps (skipBlanks (cs ++ '}' :: rest)) = .ok (ms, rest) := by
  obtain ⟨steps, rfl⟩ : ∃ k, steps = k + 1 := ⟨steps - 1, by omega⟩
  match h with
  | .none _ => exact absurd rfl hne
  | .one hm => exact (hm.read (by omega) rest).1
  | .more hm hms =>
    simp only [List.length_append, List.length_cons] at hsteps
    rw [List.append_assoc, List.cons_append, (hm.read (by omega) _).2,
      hms.read (List.cons_ne_nil _ _) (by omega) rest]
    rfl

end

/-! ## Documents -/

/-- A text of a document is read as its value. -/
theorem readDocument_of_text {v : Value} {cs : List Char} (h : DocumentText v cs) :
    readDocument cs = .ok v := by
  cases h with
  | @value b₁ cs b₂ hb₁ hv hb₂ =>
    have hlength : cs.length ≤ 2 * (b₁ ++ (cs ++ b₂)).length + 2 := by
      simp only [List.length_append]
      omega
    have hends := Ends.blanks hb₂ Ends.nil
    rw [List.append_nil] at hends
    have hread : readValue (2 * (b₁ ++ (cs ++ b₂)).length + 2) (skipBlanks (b₁ ++ (cs ++ b₂))) =
        .ok (v, b₂) := by
      rw [skipBlanks_blanks hb₁, hv.skipBlanks]
      exact hv.read hlength hends
    have hmark : ∀ rest, b₁ ++ (cs ++ b₂) ≠ '\uFEFF' :: rest := by
      intro rest heq
      obtain ⟨c, ds, rfl, hc⟩ := hv.starts
      cases b₁ with
      | nil => exact hc.ne (by decide) (List.cons.inj heq).1
      | cons b b₁ =>
        have hb := hb₁ b List.mem_cons_self
        rw [(List.cons.inj heq).1] at hb
        exact absurd hb (by decide)
    have hend : skipBlanks b₂ = [] := by
      have hskip := skipBlanks_blanks hb₂ []
      rw [List.append_nil] at hskip
      exact hskip
    unfold readDocument readWhole
    split
    · rename_i heq
      exact absurd heq (hmark _)
    · rw [hread]
      simp only [bind, Except.bind, hend]
      rfl

end MailSchedule.Json

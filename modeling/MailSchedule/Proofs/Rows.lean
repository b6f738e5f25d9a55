import MailSchedule.Store.Tables
import Mathlib.Tactic.SplitIfs

/-!
# Rows in order

The table of accounts has its rows in increasing order of their numbers, and the table of switches
has one entry for each address.  Looking something up after a change is looking it up before, except
where the change was made.

Results:

* `Sorted`, `Sorted.mem_iff`: in rows that are in order each is found under its number.
* `Sorted.row?_putRow`, `row?_filter_ne`, `row?_setCounts`: rows after one is put, after some are
  removed, and after counts are set.
* `lookup_putSwitch`: switches after one is set.
-/

namespace MailSchedule.Store

/-- Rows in increasing order of their numbers. -/
def Sorted (rows : List Row) : Prop := rows.Pairwise fun r r' => r.account.id < r'.account.id

theorem row?_cons (r : Row) (rows : List Row) (id : Int) :
    row? (r :: rows) id = if r.account.id = id then some r else row? rows id := by
  unfold row?
  rw [List.find?_cons]
  split_ifs with h <;> simp [h]

/-- No row has a number smaller than all of theirs. -/
theorem row?_of_lt {rows : List Row} {id : Int} (h : ∀ r ∈ rows, id < r.account.id) :
    row? rows id = none := by
  unfold row?
  rw [List.find?_eq_none]
  intro r hr
  have := h r hr
  simp only [decide_eq_true_eq]
  omega

theorem Sorted.mem_iff {rows : List Row} (h : Sorted rows) (r : Row) :
    r ∈ rows ↔ row? rows r.account.id = some r := by
  induction rows with
  | nil => simp [row?]
  | cons r' rows ih =>
    obtain ⟨hlt, hrest⟩ := List.pairwise_cons.mp h
    rw [row?_cons, List.mem_cons, ih hrest]
    split_ifs with hid
    · rw [← hid, row?_of_lt hlt]
      simp [eq_comm]
    · have hne : r ≠ r' := by
        rintro rfl
        exact hid rfl
      simp [hne]

theorem mem_putRow {a : Account} {rows : List Row} {r : Row} (h : r ∈ putRow a rows) :
    r.account = a ∨ r ∈ rows := by
  fun_induction putRow a rows with
  | case1 =>
    obtain rfl := List.mem_singleton.mp h
    exact .inl rfl
  | case2 r' rest hid =>
    rcases List.mem_cons.mp h with rfl | h
    · exact .inl rfl
    · exact .inr (List.mem_cons_of_mem _ h)
  | case3 r' rest hid hlt =>
    rcases List.mem_cons.mp h with rfl | h
    · exact .inl rfl
    · exact .inr h
  | case4 r' rest hid hlt ih =>
    rcases List.mem_cons.mp h with rfl | h
    · exact .inr List.mem_cons_self
    · exact (ih h).imp_right (List.mem_cons_of_mem _)

theorem Sorted.putRow {rows : List Row} (h : Sorted rows) (a : Account) :
    Sorted (putRow a rows) := by
  fun_induction Store.putRow a rows with
  | case1 => exact List.pairwise_singleton _ _
  | case2 r rest hid =>
    obtain ⟨hlt, hrest⟩ := List.pairwise_cons.mp h
    refine List.pairwise_cons.mpr ⟨fun r' hr' => ?_, hrest⟩
    have := hlt r' hr'
    show a.id < r'.account.id
    omega
  | case3 r rest hid hlt =>
    refine List.pairwise_cons.mpr ⟨fun r' hr' => ?_, h⟩
    show a.id < r'.account.id
    rcases List.mem_cons.mp hr' with rfl | hr'
    · exact hlt
    · have := (List.pairwise_cons.mp h).1 r' hr'
      omega
  | case4 r rest hid hlt ih =>
    obtain ⟨hlt', hrest⟩ := List.pairwise_cons.mp h
    refine List.pairwise_cons.mpr ⟨fun r' hr' => ?_, ih hrest⟩
    rcases mem_putRow hr' with rfl | hr'
    · omega
    · exact hlt' r' hr'

/-- A row that is put keeps the count that its number had. -/
theorem Sorted.row?_putRow {rows : List Row} (h : Sorted rows) (a : Account) (id : Int) :
    row? (Store.putRow a rows) id =
      if a.id = id then some { account := a, count := ((row? rows id).map (·.count)).getD 0 }
      else row? rows id := by
  fun_induction Store.putRow a rows with
  | case1 => rw [row?_cons]; rfl
  | case2 r rest hid =>
    rw [row?_cons, row?_cons, hid]
    split_ifs <;> rfl
  | case3 r rest hid hlt =>
    rw [row?_cons]
    show (if a.id = id then _ else _) = _
    split_ifs with ha
    · have hnone : row? (r :: rest) id = none := by
        refine row?_of_lt fun r' hr' => ?_
        rcases List.mem_cons.mp hr' with rfl | hr'
        · omega
        · have := (List.pairwise_cons.mp h).1 r' hr'
          omega
      rw [hnone]
      rfl
    · rfl
  | case4 r rest hid hlt ih =>
    rw [row?_cons, row?_cons, ih (List.pairwise_cons.mp h).2]
    split_ifs <;> first | rfl | omega

theorem row?_filter_ne (rows : List Row) (i id : Int) :
    row? (rows.filter fun r => r.account.id ≠ i) id = if i = id then none else row? rows id := by
  induction rows with
  | nil => simp [row?]
  | cons r rows ih =>
    rw [List.filter_cons]
    by_cases hr : r.account.id = i
    · simp only [hr, ne_eq, not_true_eq_false, decide_false, Bool.false_eq_true, ↓reduceIte, ih,
        row?_cons]
      split_ifs <;> rfl
    · simp only [hr, ne_eq, not_false_eq_true, decide_true, ↓reduceIte, ih, row?_cons]
      split_ifs with h1 h2 <;> first | rfl | omega

theorem setCounts_eq_map (target : Option Int) (n : Int) (rows : List Row) :
    setCounts target n rows = rows.map fun r =>
      if target.all (· = r.account.id) then { r with count := n } else r := by
  unfold setCounts
  refine List.map_congr_left fun r _ => ?_
  cases target <;> simp [eq_comm]

theorem row?_setCounts (target : Option Int) (n : Int) (rows : List Row) (id : Int) :
    row? (setCounts target n rows) id = (row? rows id).map fun r =>
      if target.all (· = id) then { r with count := n } else r := by
  rw [setCounts_eq_map]
  induction rows with
  | nil => rfl
  | cons r rows ih =>
    have hid : (if target.all (· = r.account.id) then { r with count := n } else r).account.id =
        r.account.id := by split <;> rfl
    rw [List.map_cons, row?_cons, row?_cons, hid, ih]
    split_ifs with h <;> simp_all

theorem Sorted.setCounts {rows : List Row} (h : Sorted rows) (target : Option Int) (n : Int) :
    Sorted (setCounts target n rows) := by
  rw [setCounts_eq_map]
  refine List.pairwise_map.mpr (h.imp fun hlt => ?_)
  split <;> split <;> exact hlt

/-- Looking an address up among switches, the first of which is known. -/
theorem lookup_switch_cons (s : Text × Bool) (switches : List (Text × Bool)) (email : Text) :
    (s :: switches).lookup email = if s.1 = email then some s.2 else switches.lookup email := by
  rw [List.lookup_cons]
  by_cases h : s.1 = email
  · simp [h]
  · have hne : (email == s.1) = false := beq_eq_false_iff_ne.mpr (Ne.symm h)
    simp [h, hne]

theorem lookup_putSwitch (e : Text) (on : Bool) (switches : List (Text × Bool)) (email : Text) :
    (putSwitch e on switches).lookup email =
      if e = email then some on else switches.lookup email := by
  fun_induction putSwitch e on switches with
  | case1 => exact lookup_switch_cons (e, on) [] email
  | case2 s rest he =>
    rw [lookup_switch_cons, lookup_switch_cons, he]
    split_ifs <;> rfl
  | case3 s rest he ih =>
    rw [lookup_switch_cons, lookup_switch_cons, ih]
    split_ifs with hs h
    · exact absurd (hs.trans h.symm) he
    · rfl
    · rfl
    · rfl

end MailSchedule.Store

import MailSchedule.Waking
import MailSchedule.Proofs.Loading
import Mathlib.Data.List.Induction

/-!
# Which account is selected

The loop over the reports keeps one candidate of each of three classes.  Of the accounts never
checked and of those overdue it keeps the last, of the others the first of those due soonest.

Results:

* `Report.isDue_iff`: the accounts that are due, class by class.
* `Candidates.foldl_consider`: the candidates after the loop.
* `Registry.pickNext_map`: when the clock is moved with the times of checks, the same account is
  selected.
* `Registry.pickNext_eq_none_iff`: nothing is selected when no account is scheduled.
* `Registry.exists_isDue_of_pickNext`, `Registry.lt_wake_of_not_due`: an account that is due is
  selected as long as there is one, and the wake lies in the future when there is none.
* `Registry.wakeAt`, `Registry.Writable`: the wake that serves a registry, and whether it can be
  written.
* `run_rearm_of_load`, `run_rearm`: how the wake timer is set, or why it is not.
-/

namespace MailSchedule

/-! ## Classes of reports -/

namespace Report

/-- A scheduled account that was never checked. -/
def isUnchecked (r : Report) : Bool := 0 < r.interval && r.prevSync = neverChecked

/-- A scheduled account whose next check lies in the past. -/
def isOverdue (now : Int) (r : Report) : Bool :=
  0 < r.interval && r.prevSync ≠ neverChecked && r.nextSync < now

/-- A scheduled account whose next check does not lie in the past. -/
def isPending (now : Int) (r : Report) : Bool :=
  0 < r.interval && r.prevSync ≠ neverChecked && now ≤ r.nextSync

/-- A scheduled account that was never checked or whose next check does not lie in the future. -/
def isDue (now : Int) (r : Report) : Bool :=
  0 < r.interval && (r.prevSync = neverChecked || r.nextSync ≤ now)

theorem isUnchecked_iff {r : Report} :
    r.isUnchecked = true ↔ 0 < r.interval ∧ r.prevSync = neverChecked := by
  simp [isUnchecked]

theorem isOverdue_iff {now : Int} {r : Report} : r.isOverdue now = true ↔
    0 < r.interval ∧ r.prevSync ≠ neverChecked ∧ r.nextSync < now := by
  simp [isOverdue, and_assoc]

theorem isPending_iff {now : Int} {r : Report} : r.isPending now = true ↔
    0 < r.interval ∧ r.prevSync ≠ neverChecked ∧ now ≤ r.nextSync := by
  simp [isPending, and_assoc]

/-- The scheduled accounts are those of the three classes. -/
theorem interval_pos_iff (now : Int) {r : Report} : 0 < r.interval ↔
    r.isUnchecked = true ∨ r.isOverdue now = true ∨ r.isPending now = true := by
  rw [isUnchecked_iff, isOverdue_iff, isPending_iff]
  omega

/-- An account is due if it was never checked, if it is overdue, or if its check falls on this very
moment. -/
theorem isDue_iff {now : Int} {r : Report} : r.isDue now = true ↔
    r.isUnchecked = true ∨ r.isOverdue now = true ∨
      (r.isPending now = true ∧ r.nextSync = now) := by
  have hdue : r.isDue now = true ↔
      0 < r.interval ∧ (r.prevSync = neverChecked ∨ r.nextSync ≤ now) := by
    simp [isDue]
  rw [hdue, isUnchecked_iff, isOverdue_iff, isPending_iff]
  omega

theorem classes_of_not_scheduled (now : Int) {r : Report} (h : r.interval ≤ 0) :
    r.isUnchecked = false ∧ r.isOverdue now = false ∧ r.isPending now = false := by
  have hi : ¬0 < r.interval := by omega
  simp [isUnchecked, isOverdue, isPending, hi]

theorem classes_of_neverChecked (now : Int) {r : Report} (h : 0 < r.interval)
    (hv : r.prevSync = neverChecked) :
    r.isUnchecked = true ∧ r.isOverdue now = false ∧ r.isPending now = false := by
  simp [isUnchecked, isOverdue, isPending, h, hv]

theorem classes_of_lt {now : Int} {r : Report} (h : 0 < r.interval)
    (hv : r.prevSync ≠ neverChecked) (hn : r.nextSync < now) :
    r.isUnchecked = false ∧ r.isOverdue now = true ∧ r.isPending now = false := by
  have hle : ¬now ≤ r.nextSync := by omega
  simp [isUnchecked, isOverdue, isPending, h, hv, hn, hle]

theorem classes_of_le {now : Int} {r : Report} (h : 0 < r.interval)
    (hv : r.prevSync ≠ neverChecked) (hn : now ≤ r.nextSync) :
    r.isUnchecked = false ∧ r.isOverdue now = false ∧ r.isPending now = true := by
  have hlt : ¬r.nextSync < now := by omega
  simp [isUnchecked, isOverdue, isPending, h, hv, hn, hlt]

/-- A report of an account scheduled and checked as another one is.  If it is scheduled and was
checked, the time of its next check is moved by a constant. -/
structure Moved (d : Int) (r r' : Report) : Prop where
  interval : r'.interval = r.interval
  never : r'.prevSync = neverChecked ↔ r.prevSync = neverChecked
  next : 0 < r.interval → r.prevSync ≠ neverChecked → r'.nextSync = r.nextSync + d

theorem moved_clearCounts (r : Report) : r.Moved 0 r.clearCounts where
  interval := rfl
  never := Iff.rfl
  next _ _ := (Int.add_zero _).symm

end Report

/-- The first of the reports that are due soonest. -/
def IsSoonest (l : List Report) : Option Report → Prop
  | none => l = []
  | some s => ∃ before after, l = before ++ s :: after ∧
      (∀ r ∈ before, s.nextSync < r.nextSync) ∧ ∀ r ∈ after, s.nextSync ≤ r.nextSync

theorem IsSoonest.mem {l : List Report} {s : Report} (h : IsSoonest l (some s)) : s ∈ l := by
  obtain ⟨before, after, rfl, -⟩ := h
  simp

theorem IsSoonest.le {l : List Report} {s : Report} (h : IsSoonest l (some s)) {r : Report}
    (hr : r ∈ l) : s.nextSync ≤ r.nextSync := by
  obtain ⟨before, after, rfl, hbefore, hafter⟩ := h
  rcases List.mem_append.1 hr with hr | hr
  · exact Int.le_of_lt (hbefore r hr)
  · rcases List.mem_cons.1 hr with rfl | hr
    · exact Int.le_refl _
    · exact hafter r hr

/-- One more report takes the place of the soonest one only if it is due earlier. -/
theorem IsSoonest.snoc {l : List Report} {o : Option Report} (h : IsSoonest l o) (r : Report) :
    IsSoonest (l ++ [r]) (if ∀ s ∈ o, r.nextSync < s.nextSync then some r else o) := by
  cases o with
  | none =>
    rw [if_pos (by simp)]
    exact ⟨l, [], rfl, by rw [show l = [] from h]; simp, by simp⟩
  | some s =>
    by_cases hlt : r.nextSync < s.nextSync
    · rw [if_pos (by simpa using hlt)]
      exact ⟨l, [], rfl, fun x hx => Int.lt_of_lt_of_le hlt (h.le hx), by simp⟩
    · rw [if_neg (by simpa using hlt)]
      obtain ⟨before, after, rfl, hbefore, hafter⟩ := h
      refine ⟨before, after ++ [r], by simp, hbefore, fun x hx => ?_⟩
      rcases List.mem_append.1 hx with hx | hx
      · exact hafter x hx
      · rw [List.mem_singleton.1 hx]
        omega

/-! ## The loop over the reports -/

namespace Candidates

theorem isSooner_iff (c : Candidates) (r : Report) :
    c.isSooner r = true ↔ ∀ s ∈ c.soonest, r.nextSync < s.nextSync := by
  unfold isSooner
  cases c.soonest <;> simp

/-- After some reports the candidates are the last one never checked, the last one overdue, and the
first of those due soonest. -/
theorem foldl_consider (now : Int) (rs : List Report) :
    let c := rs.foldl (consider now) {}
    c.neverChecked = (rs.filter (·.isUnchecked)).getLast? ∧
      c.overdue = (rs.filter (·.isOverdue now)).getLast? ∧
      IsSoonest (rs.filter (·.isPending now)) c.soonest := by
  induction rs using List.reverseRecOn with
  | nil => exact ⟨rfl, rfl, rfl⟩
  | append_singleton rs r ih =>
    obtain ⟨hnever, hoverdue, hsoonest⟩ := ih
    simp only [List.foldl_append, List.foldl_cons, List.foldl_nil, List.filter_append]
    generalize rs.foldl (consider now) {} = c at *
    unfold consider
    by_cases hi : r.interval ≤ 0
    · obtain ⟨hu, ho, hp⟩ := Report.classes_of_not_scheduled now hi
      rw [if_pos hi, List.filter_cons_of_neg (by simp [hu]), List.filter_cons_of_neg (by simp [ho]),
        List.filter_cons_of_neg (by simp [hp])]
      simp only [List.filter_nil, List.append_nil]
      exact ⟨hnever, hoverdue, hsoonest⟩
    rw [if_neg hi]
    by_cases hv : r.prevSync = MailSchedule.neverChecked
    · obtain ⟨hu, ho, hp⟩ := Report.classes_of_neverChecked now (by omega) hv
      rw [if_pos hv, List.filter_cons_of_pos hu, List.filter_cons_of_neg (by simp [ho]),
        List.filter_cons_of_neg (by simp [hp])]
      simp only [List.filter_nil, List.append_nil]
      exact ⟨List.getLast?_concat.symm, hoverdue, hsoonest⟩
    rw [if_neg hv]
    by_cases hn : r.nextSync < now
    · obtain ⟨hu, ho, hp⟩ := Report.classes_of_lt (by omega) hv hn
      rw [if_pos hn, List.filter_cons_of_neg (by simp [hu]), List.filter_cons_of_pos ho,
        List.filter_cons_of_neg (by simp [hp])]
      simp only [List.filter_nil, List.append_nil]
      exact ⟨hnever, List.getLast?_concat.symm, hsoonest⟩
    · obtain ⟨hu, ho, hp⟩ := Report.classes_of_le (by omega) hv (Int.not_lt.1 hn)
      rw [if_neg hn, List.filter_cons_of_neg (by simp [hu]), List.filter_cons_of_neg (by simp [ho]),
        List.filter_cons_of_pos hp]
      simp only [List.filter_nil, List.append_nil]
      have hsnoc := hsoonest.snoc r
      by_cases hs : c.isSooner r = true
      · rw [if_pos hs]
        rw [if_pos ((isSooner_iff c r).1 hs)] at hsnoc
        exact ⟨hnever, hoverdue, hsnoc⟩
      · rw [if_neg hs]
        rw [if_neg (fun h => hs ((isSooner_iff c r).2 h))] at hsnoc
        exact ⟨hnever, hoverdue, hsnoc⟩

/-- The candidates with their reports changed. -/
def map (f : Report → Report) (c : Candidates) : Candidates where
  neverChecked := c.neverChecked.map f
  overdue := c.overdue.map f
  soonest := c.soonest.map f

section Moved

variable {f : Report → Report} {d : Int} {c : Candidates} {r : Report}
  (hc : ∀ s ∈ c.soonest, (f s).nextSync = s.nextSync + d) (hr : r.Moved d (f r))
include hc

theorem isSooner_map (hnext : (f r).nextSync = r.nextSync + d) :
    (c.map f).isSooner (f r) = c.isSooner r := by
  unfold isSooner map
  cases hs : c.soonest with
  | none => rfl
  | some s =>
    simp only [Option.map_some]
    rw [hnext, hc s hs]
    simp

include hr

/-- A report of which only the times are moved stays in its class when the clock is moved, too. -/
theorem map_consider (now : Int) :
    (c.consider now r).map f = (c.map f).consider (now + d) (f r) := by
  unfold consider
  rw [hr.interval]
  by_cases hi : r.interval ≤ 0
  · rw [if_pos hi, if_pos hi]
  rw [if_neg hi, if_neg hi]
  by_cases hv : r.prevSync = MailSchedule.neverChecked
  · rw [if_pos hv, if_pos (hr.never.2 hv)]
    rfl
  rw [if_neg hv, if_neg (mt hr.never.1 hv)]
  have hnext := hr.next (by omega) hv
  rw [hnext, isSooner_map hc hnext]
  by_cases hn : r.nextSync < now
  · rw [if_pos hn, if_pos (show r.nextSync + d < now + d by omega)]
    rfl
  rw [if_neg hn, if_neg (show ¬r.nextSync + d < now + d by omega)]
  split <;> rfl

/-- The soonest candidate was checked, and so the time of its next check is moved. -/
theorem moved_soonest_consider (now : Int) :
    ∀ s ∈ (c.consider now r).soonest, (f s).nextSync = s.nextSync + d := by
  unfold consider
  by_cases hi : r.interval ≤ 0
  · rw [if_pos hi]
    exact hc
  rw [if_neg hi]
  by_cases hv : r.prevSync = MailSchedule.neverChecked
  · rw [if_pos hv]
    exact hc
  rw [if_neg hv]
  split
  · exact hc
  · split
    · rintro _ ⟨rfl⟩
      exact hr.next (by omega) hv
    · exact hc

end Moved

theorem map_foldl_consider {f : Report → Report} {d : Int} {c : Candidates} {rs : List Report}
    (hc : ∀ s ∈ c.soonest, (f s).nextSync = s.nextSync + d) (hrs : ∀ r ∈ rs, r.Moved d (f r))
    (now : Int) :
    (rs.foldl (consider now) c).map f = (rs.map f).foldl (consider (now + d)) (c.map f) ∧
      ∀ s ∈ (rs.foldl (consider now) c).soonest, (f s).nextSync = s.nextSync + d := by
  induction rs generalizing c with
  | nil => exact ⟨rfl, hc⟩
  | cons r rs ih =>
    have hr := hrs r List.mem_cons_self
    obtain ⟨heq, hnext⟩ := ih (moved_soonest_consider hc hr now)
      fun x hx => hrs x (List.mem_cons_of_mem r hx)
    rw [map_consider hc hr] at heq
    exact ⟨heq, hnext⟩

end Candidates

/-! ## What is selected -/

namespace Selection

/-- Two selections are of the same account, and the wakes are both at once or the second one comes
so much later. -/
def Later (d : Int) (x y : Selection) : Prop :=
  y.account = x.account ∧ (x.wake = dueNow ∧ y.wake = dueNow ∨ y.wake = x.wake + d)

theorem Later.eq_of_zero {x y : Selection} (h : x.Later 0 y) : y = x := by
  obtain ⟨account, wake⟩ := x
  obtain ⟨account', wake'⟩ := y
  obtain ⟨haccount, hwake⟩ := h
  dsimp only at haccount hwake
  have heq : wake' = wake := by omega
  rw [haccount, heq]

end Selection

namespace Registry

/-- What is selected, class by class. -/
theorem pickNext_cases (r : Registry) (now : Int) :
    (∃ report ∈ r.reports, report.isUnchecked = true ∧
      r.pickNext now = ⟨some report.account, dueNow⟩) ∨
    ((∀ report ∈ r.reports, report.isUnchecked = false) ∧
      ∃ report ∈ r.reports, report.isOverdue now = true ∧
        r.pickNext now = ⟨some report.account, dueNow⟩) ∨
    ((∀ report ∈ r.reports, report.isUnchecked = false ∧ report.isOverdue now = false) ∧
      ∃ report ∈ r.reports, report.isPending now = true ∧
        (∀ other ∈ r.reports, other.isPending now = true → report.nextSync ≤ other.nextSync) ∧
        r.pickNext now = ⟨some report.account, report.nextSync⟩) ∨
    ((∀ report ∈ r.reports, report.isUnchecked = false ∧ report.isOverdue now = false ∧
        report.isPending now = false) ∧ r.pickNext now = ⟨none, dueNow⟩) := by
  obtain ⟨hnever, hoverdue, hsoonest⟩ := Candidates.foldl_consider now r.reports
  have hnone : ∀ p : Report → Bool, (r.reports.filter p).getLast? = none →
      ∀ report ∈ r.reports, p report = false := by
    intro p hp report hmem
    rw [List.getLast?_eq_none_iff, List.filter_eq_nil_iff] at hp
    simpa using hp report hmem
  have hsome : ∀ (p : Report → Bool) report, (r.reports.filter p).getLast? = some report →
      report ∈ r.reports ∧ p report = true := fun p report h =>
    List.mem_filter.1 (List.mem_of_getLast? h)
  unfold pickNext Candidates.selection
  generalize r.reports.foldl (Candidates.consider now) {} = c at *
  cases hn : c.neverChecked with
  | some report =>
    obtain ⟨hmem, hp⟩ := hsome _ report (hnever.symm.trans hn)
    exact Or.inl ⟨report, hmem, hp, rfl⟩
  | none =>
    have hn := hnone _ (hnever.symm.trans hn)
    cases ho : c.overdue with
    | some report =>
      obtain ⟨hmem, hp⟩ := hsome _ report (hoverdue.symm.trans ho)
      exact Or.inr (Or.inl ⟨hn, report, hmem, hp, rfl⟩)
    | none =>
      have ho := hnone _ (hoverdue.symm.trans ho)
      cases hs : c.soonest with
      | some report =>
        rw [hs] at hsoonest
        obtain ⟨hmem, hp⟩ := List.mem_filter.1 hsoonest.mem
        exact Or.inr (Or.inr (Or.inl ⟨fun x hx => ⟨hn x hx, ho x hx⟩, report, hmem, hp,
          fun x hx hxp => hsoonest.le (List.mem_filter.2 ⟨hx, hxp⟩), rfl⟩))
      | none =>
        rw [hs] at hsoonest
        have hp := List.filter_eq_nil_iff.1 hsoonest
        exact Or.inr (Or.inr (Or.inr ⟨fun x hx =>
          ⟨hn x hx, ho x hx, by simpa using hp x hx⟩, rfl⟩))

/-- Nothing is selected when no account is scheduled. -/
theorem pickNext_eq_none_iff (r : Registry) (now : Int) :
    (r.pickNext now).account = none ↔ ∀ report ∈ r.reports, report.interval ≤ 0 := by
  have hsome : ∀ report ∈ r.reports, 0 < report.interval → ∀ wake,
      r.pickNext now = ⟨some report.account, wake⟩ →
      ((r.pickNext now).account = none ↔ ∀ report ∈ r.reports, report.interval ≤ 0) := by
    intro report hmem hi wake heq
    rw [heq]
    exact ⟨nofun, fun h => absurd (h report hmem) (Int.not_le.2 hi)⟩
  rcases r.pickNext_cases now with ⟨report, hmem, hp, heq⟩ | ⟨-, report, hmem, hp, heq⟩ |
    ⟨-, report, hmem, hp, -, heq⟩ | ⟨hall, heq⟩
  · exact hsome report hmem ((Report.interval_pos_iff now).2 (Or.inl hp)) _ heq
  · exact hsome report hmem ((Report.interval_pos_iff now).2 (Or.inr (Or.inl hp))) _ heq
  · exact hsome report hmem ((Report.interval_pos_iff now).2 (Or.inr (Or.inr hp))) _ heq
  · rw [heq]
    refine ⟨fun _ report hmem => Int.not_lt.1 fun hi => ?_, fun _ => rfl⟩
    obtain ⟨hu, ho, hp⟩ := hall report hmem
    have hclass := (Report.interval_pos_iff now).1 hi
    simp [hu, ho, hp] at hclass

/-- Only accounts that are scheduled are selected, and the wake is for now or for the time of their
next check. -/
theorem exists_scheduled_of_pickNext {r : Registry} {now id : Int}
    (h : (r.pickNext now).account = some id) : ∃ report ∈ r.reports, report.account = id ∧
      0 < report.interval ∧
      ((r.pickNext now).wake = dueNow ∨ (r.pickNext now).wake = report.nextSync) := by
  rcases r.pickNext_cases now with ⟨report, hmem, hp, heq⟩ | ⟨-, report, hmem, hp, heq⟩ |
    ⟨-, report, hmem, hp, -, heq⟩ | ⟨-, heq⟩
  · rw [heq] at h ⊢
    exact ⟨report, hmem, Option.some.inj h, (Report.isUnchecked_iff.1 hp).1, Or.inl rfl⟩
  · rw [heq] at h ⊢
    exact ⟨report, hmem, Option.some.inj h, (Report.isOverdue_iff.1 hp).1, Or.inl rfl⟩
  · rw [heq] at h ⊢
    exact ⟨report, hmem, Option.some.inj h, (Report.isPending_iff.1 hp).1, Or.inr rfl⟩
  · rw [heq] at h
    cases h

/-- Only accounts with a report are selected. -/
theorem exists_mem_of_pickNext {r : Registry} {now id : Int}
    (h : (r.pickNext now).account = some id) : ∃ report ∈ r.reports, report.account = id := by
  obtain ⟨report, hmem, haccount, -⟩ := exists_scheduled_of_pickNext h
  exact ⟨report, hmem, haccount⟩

/-- An account that is due is selected, as long as there is one. -/
theorem exists_isDue_of_pickNext {r : Registry} {now : Int}
    (h : ∃ report ∈ r.reports, report.isDue now = true) :
    ∃ report ∈ r.reports, report.isDue now = true ∧
      (r.pickNext now).account = some report.account := by
  obtain ⟨due, hdue, hd⟩ := h
  rw [Report.isDue_iff] at hd
  rcases r.pickNext_cases now with ⟨report, hmem, hp, heq⟩ | ⟨-, report, hmem, hp, heq⟩ |
    ⟨hall, report, hmem, hp, hmin, heq⟩ | ⟨hall, -⟩
  · exact ⟨report, hmem, Report.isDue_iff.2 (Or.inl hp), by rw [heq]⟩
  · exact ⟨report, hmem, Report.isDue_iff.2 (Or.inr (Or.inl hp)), by rw [heq]⟩
  · -- Whatever is due without being overdue is due at this very moment, and is not beaten.
    refine ⟨report, hmem, Report.isDue_iff.2 (Or.inr (Or.inr ⟨hp, ?_⟩)), by rw [heq]⟩
    obtain ⟨hu, ho⟩ := hall due hdue
    obtain ⟨hpending, hnow⟩ : due.isPending now = true ∧ due.nextSync = now := by
      simpa [hu, ho] using hd
    have hle := hmin due hdue hpending
    obtain ⟨-, -, hlate⟩ := Report.isPending_iff.1 hp
    omega
  · obtain ⟨hu, ho, hp⟩ := hall due hdue
    simp [hu, ho, hp] at hd

theorem reports_map (r : Registry) (f : Report → Report) :
    (r.map f).reports = r.reports.map f := by
  unfold reports map
  rw [List.map_map, List.map_map]
  rfl

/-- When the clock is moved together with the times of checks, the same account is selected. -/
theorem pickNext_map {r : Registry} {f : Report → Report} {d : Int}
    (haccount : ∀ report, (f report).account = report.account)
    (h : ∀ report ∈ r.reports, report.Moved d (f report)) (now : Int) :
    (r.pickNext now).Later d ((r.map f).pickNext (now + d)) := by
  obtain ⟨heq, hnext⟩ := Candidates.map_foldl_consider (c := {}) nofun h now
  unfold pickNext
  rw [reports_map]
  show Selection.Later d _ (Candidates.selection (List.foldl _ (Candidates.map f {}) _))
  rw [← heq]
  generalize r.reports.foldl (Candidates.consider now) {} = c at *
  unfold Candidates.selection Candidates.map Selection.Later
  cases c.neverChecked with
  | some report => simp [haccount]
  | none =>
    cases c.overdue with
    | some report => simp [haccount]
    | none =>
      cases hs : c.soonest with
      | none => simp
      | some report => simp [haccount, hnext report hs]

theorem pickNext_map_clearCounts (r : Registry) (now : Int) :
    (r.map Report.clearCounts).pickNext now = r.pickNext now := by
  have hlater := pickNext_map (r := r) (f := Report.clearCounts) (fun _ => rfl)
    (fun report _ => report.moved_clearCounts) now
  rw [Int.add_zero] at hlater
  exact hlater.eq_of_zero

/-! ## The wake for a registry -/

/-- The numbers and times of a registry can be written into a payload. -/
def Readable (r : Registry) : Prop :=
  ∀ p ∈ r.prevSyncTimes, Json.Readable p.1 ∧ Json.Readable p.2

instance (r : Registry) : Decidable r.Readable :=
  inferInstanceAs (Decidable (∀ p ∈ r.prevSyncTimes, Json.Readable p.1 ∧ Json.Readable p.2))

/-- The snapshot that names an account is readable if the times are. -/
theorem readable_snapshot {r : Registry} (h : r.Readable) {report : Report}
    (hmem : report ∈ r.reports) : (r.snapshot (some report.account)).Readable := by
  refine ⟨?_, h⟩
  rintro _ ⟨rfl⟩
  exact (h (report.account, report.prevSync) (List.mem_map_of_mem hmem)).1

/-- The wake that serves a registry at a time: it is for the account selected and carries the times
of the last checks. -/
def wakeAt (r : Registry) (now : Int) : Option Wake :=
  (r.pickNext now).account.map fun id => ⟨(r.pickNext now).wake, (r.snapshot (some id)).encode⟩

/-- The wake timer is idle only if no account is scheduled. -/
theorem wakeAt_eq_none_iff (r : Registry) (now : Int) :
    r.wakeAt now = none ↔ ∀ report ∈ r.reports, report.interval ≤ 0 := by
  rw [wakeAt, Option.map_eq_none_iff, pickNext_eq_none_iff]

theorem wakeAt_eq_some {r : Registry} {now : Int} {w : Wake} (h : r.wakeAt now = some w) :
    ∃ id, (r.pickNext now).account = some id ∧ w.time = (r.pickNext now).wake ∧
      w.payload = (r.snapshot (some id)).encode := by
  obtain ⟨id, hid, rfl⟩ := Option.map_eq_some_iff.1 h
  exact ⟨id, hid, rfl, rfl⟩

theorem wakeAt_map_clearCounts (r : Registry) (now : Int) :
    (r.map Report.clearCounts).wakeAt now = r.wakeAt now := by
  unfold wakeAt snapshot
  rw [pickNext_map_clearCounts, prevSyncTimes_map (f := Report.clearCounts) fun _ => ⟨rfl, rfl⟩]

/-- The wake that serves a registry can be written: there is none, or its numbers and times can. -/
def Writable (r : Registry) : Prop := (∀ report ∈ r.reports, report.interval ≤ 0) ∨ r.Readable

instance (r : Registry) : Decidable r.Writable :=
  inferInstanceAs (Decidable (_ ∨ _))

theorem Readable.writable {r : Registry} (h : r.Readable) : r.Writable := Or.inr h

/-- If an account is selected, the wake can be written if and only if the snapshot can. -/
theorem writable_iff_of_pickNext {r : Registry} {now id : Int}
    (hid : (r.pickNext now).account = some id) :
    r.Writable ↔ (r.snapshot (some id)).Readable := by
  have hscheduled : ¬∀ report ∈ r.reports, report.interval ≤ 0 := by
    rw [← pickNext_eq_none_iff r now, hid]
    exact nofun
  constructor
  · intro h
    obtain ⟨report, hmem, rfl⟩ := exists_mem_of_pickNext hid
    exact readable_snapshot (h.resolve_left hscheduled) hmem
  · exact fun h => Or.inr h.pairs

/-- What the wake timer holds after it was pointed at the account that is due next: the wake that
serves the registry, or what it held before, if that wake cannot be written. -/
def timerAt (r : Registry) (now : Int) (held : Option Wake) : Option Wake :=
  if r.Writable then r.wakeAt now else held

theorem Writable.timerAt {r : Registry} (h : r.Writable) (now : Int) (held : Option Wake) :
    r.timerAt now held = r.wakeAt now := if_pos h

theorem timerAt_of_not_writable {r : Registry} (h : ¬r.Writable) (now : Int) (held : Option Wake) :
    r.timerAt now held = held := if_neg h

/-- The first of two wakes does not matter if the second one can be written whenever the first
one can. -/
theorem timerAt_timerAt {r r' : Registry} (h : r.Writable → r'.Writable) (now now' : Int)
    (held : Option Wake) : r'.timerAt now' (r.timerAt now held) = r'.timerAt now' held := by
  by_cases hr' : r'.Writable
  · rw [hr'.timerAt, hr'.timerAt]
  · rw [timerAt_of_not_writable (mt h hr')]

/-- A report that is changed without touching the account and its interval keeps the wake writable
if the time of its last check can be written. -/
theorem Writable.modify {r : Registry} (h : r.Writable) (id : Int) {f : Report → Report}
    (haccount : ∀ report, (f report).account = report.account)
    (hinterval : ∀ report, (f report).interval = report.interval)
    (hprev : r.Readable → ∀ report, Json.Readable (f report).prevSync) :
    (r.modify id f).Writable := by
  have hchanged : ∀ report ∈ (r.modify id f).reports,
      report ∈ r.reports ∨ ∃ old ∈ r.reports, report = f old := by
    intro report hmem
    unfold reports at hmem
    rw [entries_modify, List.map_map] at hmem
    obtain ⟨e, he, rfl⟩ := List.mem_map.1 hmem
    dsimp only [Function.comp_apply]
    split
    · exact Or.inr ⟨e.2, List.mem_map_of_mem he, rfl⟩
    · exact Or.inl (List.mem_map_of_mem he)
  rcases h with hidle | hread
  · refine Or.inl fun report hmem => ?_
    rcases hchanged report hmem with hsame | ⟨old, hold, rfl⟩
    · exact hidle report hsame
    · rw [hinterval]
      exact hidle old hold
  · refine Or.inr fun p hp => ?_
    obtain ⟨report, hmem, rfl⟩ := List.mem_map.1 hp
    rcases hchanged report hmem with hsame | ⟨old, hold, rfl⟩
    · exact hread _ (List.mem_map_of_mem hsame)
    · refine ⟨?_, hprev hread old⟩
      rw [haccount]
      exact (hread _ (List.mem_map_of_mem hold)).1

theorem writable_map_clearCounts (r : Registry) :
    (r.map Report.clearCounts).Writable ↔ r.Writable := by
  unfold Writable Readable
  rw [prevSyncTimes_map (f := Report.clearCounts) fun _ => ⟨rfl, rfl⟩,
    ← pickNext_eq_none_iff _ 0, ← pickNext_eq_none_iff _ 0, pickNext_map_clearCounts]

theorem timerAt_map_clearCounts (r : Registry) (now : Int) (held : Option Wake) :
    (r.map Report.clearCounts).timerAt now held = r.timerAt now held := by
  unfold timerAt
  rw [wakeAt_map_clearCounts]
  exact if_congr r.writable_map_clearCounts rfl rfl

end Registry

/-- Sets the wake timer to a wake, or makes it idle. -/
def point {ω : Type} (env : Surroundings ω) : Option Wake → Act ω Unit
  | none => disarm env
  | some w => arm env w.time w.payload

/-- Rearming serves the registry that loading leaves, if that can be done. -/
theorem run_rearm_of_load {ω : Type} {env : Surroundings ω} {s s' : System ω}
    (h : (load env .fillIfEmpty).run s = (.ok (), s')) :
    (rearm env).run s =
      if s'.core.registry.Writable then Act.run (do
        point env (s'.core.registry.wakeAt s'.clock)
        return s'.core.registry.pickNext s'.clock) s'
      else (.error Snapshot.tooLong, s') := by
  unfold rearm Registry.wakeAt
  rw [Act.run_bind, h]
  simp only [pickNext, Act.run_bind, run_registry, run_now, Act.run_pure]
  cases hid : (s'.core.registry.pickNext s'.clock).account with
  | none =>
    have hwritable : s'.core.registry.Writable :=
      Or.inl ((Registry.pickNext_eq_none_iff s'.core.registry s'.clock).1 hid)
    rw [if_pos hwritable]
    exact Act.run_bind ..
  | some id =>
    simp only [takeSnapshot, Act.run_bind, run_registry, Act.run_pure, Option.map_some, point,
      run_resultOf]
    by_cases hread : (s'.core.registry.snapshot (some id)).Readable
    · rw [Snapshot.payload_of_readable hread,
        if_pos ((Registry.writable_iff_of_pickNext hid).2 hread)]
    · rw [Snapshot.payload_of_not_readable hread,
        if_neg (mt (Registry.writable_iff_of_pickNext hid).1 hread)]

/-- Rearming serves the registry as it is, unless that is empty. -/
theorem run_rearm {ω : Type} (env : Surroundings ω) {s : System ω}
    (h : s.core.registry.ids ≠ []) :
    (rearm env).run s =
      if s.core.registry.Writable then Act.run (do
        point env (s.core.registry.wakeAt s.clock)
        return s.core.registry.pickNext s.clock) s
      else (.error Snapshot.tooLong, s) :=
  run_rearm_of_load (load_fillIfEmpty_of_ids env h)

end MailSchedule

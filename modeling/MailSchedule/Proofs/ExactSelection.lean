import MailSchedule.Proofs.Rehearsing

/-!
# The selection, exactly

What is selected follows from the reports, their order and the time.  Ties are broken in different
ways: of the accounts never checked and of those overdue the last one wins, of those due soonest
the first.

The wake for a selection never comes late, with one reservation.  Of an account that is overdue or
was never checked the wake is for time zero, which stands for now.  If a snapshot says that an
account was checked long before time zero, its next check is due before time zero as well, and
thus before the wake.

Results:

* `Registry.Picks`: what is to be selected, told from the order of the reports.
* `Registry.picks_iff`: it is what the loop over the reports selects, and nothing else.
* `pickNext_exact`: the selection, the time of its wake, and that nothing is changed.
* `restored_before_zero_wakes_late`: a wake after the next check of an account.
-/

namespace MailSchedule

/-! ## Lists that are filtered -/

/-- The last of the elements with a property. -/
theorem getLast?_filter_eq_some {α : Type} {p : α → Bool} {l : List α} {a : α} :
    (l.filter p).getLast? = some a ↔
      ∃ before after, l = before ++ a :: after ∧ p a = true ∧ ∀ b ∈ after, p b = false := by
  rw [List.getLast?_filter, List.find?_eq_some_iff_append]
  constructor
  · rintro ⟨ha, after, before, hl, hafter⟩
    refine ⟨before.reverse, after.reverse, ?_, ha, fun b hb => ?_⟩
    · rw [← List.reverse_reverse l, hl]
      simp
    · simpa using hafter b (List.mem_reverse.1 hb)
  · rintro ⟨before, after, rfl, ha, hafter⟩
    refine ⟨ha, after.reverse, before.reverse, by simp, fun b hb => ?_⟩
    simpa using hafter b (List.mem_reverse.1 hb)

/-- The first of the reports with a property that are due soonest among them. -/
theorem isSoonest_filter {p : Report → Bool} {l : List Report} {s : Report} :
    IsSoonest (l.filter p) (some s) ↔ ∃ before after, l = before ++ s :: after ∧ p s = true ∧
      (∀ r ∈ before, p r = true → s.nextSync < r.nextSync) ∧
      ∀ r ∈ after, p r = true → s.nextSync ≤ r.nextSync := by
  constructor
  · rintro ⟨kept, kept', hl, hbefore, hafter⟩
    obtain ⟨first, rest, rfl, rfl, hrest⟩ := List.filter_eq_append_iff.1 hl
    obtain ⟨skipped, after, rfl, hskipped, hs, rfl⟩ := List.filter_eq_cons_iff.1 hrest
    refine ⟨first ++ skipped, after, by simp, hs, fun r hr hp => ?_, fun r hr hp => ?_⟩
    · rcases List.mem_append.1 hr with hr | hr
      · exact hbefore r (List.mem_filter.2 ⟨hr, hp⟩)
      · exact absurd hp (hskipped r hr)
    · exact hafter r (List.mem_filter.2 ⟨hr, hp⟩)
  · rintro ⟨before, after, rfl, hs, hbefore, hafter⟩
    refine ⟨before.filter p, after.filter p, ?_, fun r hr => ?_, fun r hr => ?_⟩
    · rw [List.filter_append, List.filter_cons_of_pos hs]
    · obtain ⟨hr, hp⟩ := List.mem_filter.1 hr
      exact hbefore r hr hp
    · obtain ⟨hr, hp⟩ := List.mem_filter.1 hr
      exact hafter r hr hp

/-- Of reports that are due at the same time only one is the first. -/
theorem IsSoonest.eq_find? {l : List Report} {o : Option Report} (h : IsSoonest l o) :
    o = l.find? fun s => decide (∀ r ∈ l, s.nextSync ≤ r.nextSync) := by
  cases o with
  | none =>
    rw [show l = [] from h]
    rfl
  | some s =>
    symm
    rw [List.find?_eq_some_iff_append]
    refine ⟨decide_eq_true fun r hr => h.le hr, ?_⟩
    have hmem := h.mem
    obtain ⟨before, after, rfl, hbefore, -⟩ := h
    refine ⟨before, after, rfl, fun r hr => ?_⟩
    simp only [Bool.not_eq_true', decide_eq_false_iff_not]
    intro hle
    exact absurd (hle s hmem) (Int.not_le.2 (hbefore r hr))

/-! ## What is to be selected -/

namespace Registry

/-- What is to be selected from a registry at a time. -/
inductive Picks (r : Registry) (now : Int) : Selection → Prop
  /-- No account is scheduled. -/
  | idle (hidle : ∀ report ∈ r.reports, report.interval ≤ 0) : Picks r now ⟨none, dueNow⟩
  /-- The last of the scheduled accounts that were never checked. -/
  | unchecked {before after : List Report} {report : Report}
      (hsplit : r.reports = before ++ report :: after)
      (hscheduled : 0 < report.interval) (hnever : report.prevSync = neverChecked)
      (hlast : ∀ other ∈ after, 0 < other.interval → other.prevSync ≠ neverChecked) :
      Picks r now ⟨some report.account, dueNow⟩
  /-- The last of those that are overdue, when all were checked. -/
  | overdue {before after : List Report} {report : Report}
      (hsplit : r.reports = before ++ report :: after)
      (hscheduled : 0 < report.interval) (hlate : report.nextSync < now)
      (hchecked : ∀ other ∈ r.reports, 0 < other.interval → other.prevSync ≠ neverChecked)
      (hlast : ∀ other ∈ after, 0 < other.interval → now ≤ other.nextSync) :
      Picks r now ⟨some report.account, dueNow⟩
  /-- The first of those that are due soonest, when all were checked and none is overdue. -/
  | soonest {before after : List Report} {report : Report}
      (hsplit : r.reports = before ++ report :: after) (hscheduled : 0 < report.interval)
      (hpending : ∀ other ∈ r.reports, 0 < other.interval →
        other.prevSync ≠ neverChecked ∧ now ≤ other.nextSync)
      (hfirst : ∀ other ∈ before, 0 < other.interval → report.nextSync < other.nextSync)
      (hleast : ∀ other ∈ after, 0 < other.interval → report.nextSync ≤ other.nextSync) :
      Picks r now ⟨some report.account, report.nextSync⟩

/-- When all scheduled accounts were checked, none counts as never checked. -/
theorem filter_isUnchecked_eq_nil {l : List Report}
    (h : ∀ report ∈ l, 0 < report.interval → report.prevSync ≠ neverChecked) :
    l.filter (·.isUnchecked) = [] := by
  refine List.filter_eq_nil_iff.2 fun report hmem hu => ?_
  obtain ⟨hi, hv⟩ := Report.isUnchecked_iff.1 hu
  exact h report hmem hi hv

/-- When the checks of all scheduled accounts are yet to come, none is overdue. -/
theorem filter_isOverdue_eq_nil {l : List Report} {now : Int}
    (h : ∀ report ∈ l, 0 < report.interval → now ≤ report.nextSync) :
    l.filter (·.isOverdue now) = [] := by
  refine List.filter_eq_nil_iff.2 fun report hmem ho => ?_
  obtain ⟨hi, -, hlt⟩ := Report.isOverdue_iff.1 ho
  exact absurd (h report hmem hi) (Int.not_le.2 hlt)

/-- What is to be selected is selected. -/
theorem Picks.pickNext_eq {r : Registry} {now : Int} {selection : Selection}
    (h : r.Picks now selection) : r.pickNext now = selection := by
  obtain ⟨hnever, hoverdue, hsoonest⟩ := Candidates.foldl_consider now r.reports
  unfold pickNext Candidates.selection
  generalize r.reports.foldl (Candidates.consider now) {} = c at *
  cases h with
  | idle hidle =>
    have hnone : ∀ report ∈ r.reports, ¬0 < report.interval := fun report hmem =>
      Int.not_lt.2 (hidle report hmem)
    have hpending : r.reports.filter (·.isPending now) = [] :=
      List.filter_eq_nil_iff.2 fun report hmem hp =>
        hnone report hmem (Report.isPending_iff.1 hp).1
    rw [filter_isUnchecked_eq_nil fun report hmem hi => absurd hi (hnone report hmem)] at hnever
    rw [filter_isOverdue_eq_nil fun report hmem hi => absurd hi (hnone report hmem)] at hoverdue
    rw [hpending] at hsoonest
    rw [hnever, hoverdue, hsoonest.eq_find?]
    rfl
  | unchecked hsplit hscheduled hv hlast =>
    rename_i before after report
    have hlast : (r.reports.filter (·.isUnchecked)).getLast? = some report := by
      refine getLast?_filter_eq_some.2 ⟨before, after, hsplit,
        Report.isUnchecked_iff.2 ⟨hscheduled, hv⟩, fun other hmem => ?_⟩
      refine Bool.eq_false_iff.2 fun hu => ?_
      obtain ⟨hi, hv⟩ := Report.isUnchecked_iff.1 hu
      exact hlast other hmem hi hv
    rw [hnever, hlast]
  | overdue hsplit hscheduled hlate hchecked hlast =>
    rename_i before after report
    have hv : report.prevSync ≠ neverChecked := hchecked report (by rw [hsplit]; simp) hscheduled
    have hlast : (r.reports.filter (·.isOverdue now)).getLast? = some report := by
      refine getLast?_filter_eq_some.2 ⟨before, after, hsplit,
        Report.isOverdue_iff.2 ⟨hscheduled, hv, hlate⟩, fun other hmem => ?_⟩
      refine Bool.eq_false_iff.2 fun ho => ?_
      obtain ⟨hi, -, hlt⟩ := Report.isOverdue_iff.1 ho
      exact absurd (hlast other hmem hi) (Int.not_le.2 hlt)
    rw [filter_isUnchecked_eq_nil hchecked] at hnever
    rw [hnever, hoverdue, hlast]
    rfl
  | soonest hsplit hscheduled hpending hfirst hleast =>
    rename_i before after report
    have hchosen : report.isPending now = true := by
      obtain ⟨hv, hle⟩ := hpending report (by rw [hsplit]; simp) hscheduled
      exact Report.isPending_iff.2 ⟨hscheduled, hv, hle⟩
    have hfirst : IsSoonest (r.reports.filter (·.isPending now)) (some report) :=
      isSoonest_filter.2 ⟨before, after, hsplit, hchosen,
        fun other hmem hp => hfirst other hmem (Report.isPending_iff.1 hp).1,
        fun other hmem hp => hleast other hmem (Report.isPending_iff.1 hp).1⟩
    rw [filter_isUnchecked_eq_nil fun other hmem hi => (hpending other hmem hi).1] at hnever
    rw [filter_isOverdue_eq_nil fun other hmem hi => (hpending other hmem hi).2] at hoverdue
    rw [hnever, hoverdue, hsoonest.eq_find?, ← hfirst.eq_find?]
    rfl

/-- What is selected is what is to be selected. -/
theorem picks_pickNext (r : Registry) (now : Int) : r.Picks now (r.pickNext now) := by
  obtain ⟨hnever, hoverdue, hsoonest⟩ := Candidates.foldl_consider now r.reports
  unfold pickNext Candidates.selection
  generalize r.reports.foldl (Candidates.consider now) {} = c at *
  cases hn : c.neverChecked with
  | some report =>
    obtain ⟨before, after, hsplit, hu, hafter⟩ := getLast?_filter_eq_some.1 (hnever.symm.trans hn)
    obtain ⟨hi, hv⟩ := Report.isUnchecked_iff.1 hu
    refine .unchecked hsplit hi hv fun other hmem hi' hv' => ?_
    have hu' := Report.isUnchecked_iff.2 ⟨hi', hv'⟩
    rw [hafter other hmem] at hu'
    cases hu'
  | none =>
    rw [hn] at hnever
    have hchecked : ∀ other ∈ r.reports, 0 < other.interval → other.prevSync ≠ neverChecked := by
      intro other hmem hi hv
      have hnil := List.getLast?_eq_none_iff.1 hnever.symm
      exact List.filter_eq_nil_iff.1 hnil other hmem (Report.isUnchecked_iff.2 ⟨hi, hv⟩)
    cases ho : c.overdue with
    | some report =>
      obtain ⟨before, after, hsplit, hlate, hafter⟩ :=
        getLast?_filter_eq_some.1 (hoverdue.symm.trans ho)
      obtain ⟨hi, -, hlt⟩ := Report.isOverdue_iff.1 hlate
      refine .overdue hsplit hi hlt hchecked fun other hmem hi' => ?_
      by_contra hlt'
      have hv' := hchecked other (by rw [hsplit]; simp [hmem]) hi'
      have hlate' := Report.isOverdue_iff.2 ⟨hi', hv', Int.not_le.1 hlt'⟩
      rw [hafter other hmem] at hlate'
      cases hlate'
    | none =>
      rw [ho] at hoverdue
      have hpending : ∀ other ∈ r.reports, 0 < other.interval →
          other.prevSync ≠ neverChecked ∧ now ≤ other.nextSync := by
        intro other hmem hi
        refine ⟨hchecked other hmem hi, ?_⟩
        by_contra hlt
        have hnil := List.getLast?_eq_none_iff.1 hoverdue.symm
        exact List.filter_eq_nil_iff.1 hnil other hmem
          (Report.isOverdue_iff.2 ⟨hi, hchecked other hmem hi, Int.not_le.1 hlt⟩)
      have hclass : ∀ other ∈ r.reports, 0 < other.interval → other.isPending now = true :=
        fun other hmem hi => Report.isPending_iff.2 ⟨hi, hpending other hmem hi⟩
      cases hs : c.soonest with
      | some report =>
        rw [hs] at hsoonest
        obtain ⟨before, after, hsplit, hp, hbefore, hafter⟩ := isSoonest_filter.1 hsoonest
        refine .soonest hsplit (Report.isPending_iff.1 hp).1 hpending
          (fun other hmem hi => hbefore other hmem ?_) fun other hmem hi => hafter other hmem ?_
        · exact hclass other (by rw [hsplit]; simp [hmem]) hi
        · exact hclass other (by rw [hsplit]; simp [hmem]) hi
      | none =>
        rw [hs] at hsoonest
        refine .idle fun other hmem => Int.not_lt.1 fun hi => ?_
        exact List.filter_eq_nil_iff.1 hsoonest other hmem (hclass other hmem hi)

theorem picks_iff {r : Registry} {now : Int} {selection : Selection} :
    r.Picks now selection ↔ selection = r.pickNext now := by
  constructor
  · exact fun h => h.pickNext_eq.symm
  · rintro rfl
    exact r.picks_pickNext now

/-! ## The time of the wake -/

/-- The wake comes no later than the next check of a scheduled account, unless it comes at time
zero. -/
theorem wake_pickNext_le {r : Registry} {now : Int} {report : Report} (hmem : report ∈ r.reports)
    (hscheduled : 0 < report.interval) : (r.pickNext now).wake ≤ report.nextSync ∨
      (r.pickNext now).wake = dueNow ∧ report.nextSync < dueNow := by
  have hdue : (dueNow : Int) ≤ report.nextSync ∨ dueNow = dueNow ∧ report.nextSync < dueNow := by
    omega
  have hpicks := r.picks_pickNext now
  generalize r.pickNext now = selection at hpicks ⊢
  cases hpicks with
  | idle hidle => exact hdue
  | unchecked hsplit hi hv hlast => exact hdue
  | overdue hsplit hi hlate hall hlast => exact hdue
  | soonest hsplit hi hpending hfirst hleast =>
    rw [hsplit] at hmem
    rcases List.mem_append.1 hmem with hmem | hmem
    · exact Or.inl (Int.le_of_lt (hfirst report hmem hscheduled))
    · rcases List.mem_cons.1 hmem with rfl | hmem
      · exact Or.inl (Int.le_refl _)
      · exact Or.inl (hleast report hmem hscheduled)

/-- An account that is overdue or was never checked has the wake come now. -/
theorem wake_pickNext_of_due {r : Registry} {now : Int} {report : Report}
    (hmem : report ∈ r.reports) (hscheduled : 0 < report.interval)
    (hdue : report.prevSync = neverChecked ∨ report.nextSync < now) :
    (r.pickNext now).wake = dueNow := by
  have hpicks := r.picks_pickNext now
  generalize r.pickNext now = selection at hpicks ⊢
  cases hpicks with
  | idle hidle => rfl
  | unchecked hsplit hi hv hlast => rfl
  | overdue hsplit hi hlate hall hlast => rfl
  | soonest hsplit hi hpending hfirst hleast =>
    obtain ⟨hv, hle⟩ := hpending report hmem hscheduled
    rcases hdue with hdue | hdue
    · exact absurd hdue hv
    · exact absurd hle (Int.not_le.2 hdue)

end Registry

/-- Picking changes nothing and answers with what is to be selected, which is one selection only.
It is of no account just when no account is scheduled.  Its wake comes no later than the next check
of any scheduled account, unless it comes at time zero and that check is due before time zero; and
it comes at time zero whenever a scheduled account is overdue or was never checked. -/
theorem pickNext_exact {ω : Type} (s : System ω) :
    ∃ selection, pickNext.run s = (.ok selection, s) ∧
      (∀ other, s.core.registry.Picks s.clock other ↔ other = selection) ∧
      (selection.account = none ↔ ∀ report ∈ s.core.registry.reports, report.interval ≤ 0) ∧
      (selection.account = none → selection.wake = dueNow) ∧
      (∀ report ∈ s.core.registry.reports, 0 < report.interval →
        selection.wake ≤ report.nextSync ∨
          selection.wake = dueNow ∧ report.nextSync < dueNow) ∧
      (∀ report ∈ s.core.registry.reports, 0 < report.interval →
        report.prevSync = neverChecked ∨ report.nextSync < s.clock → selection.wake = dueNow) := by
  refine ⟨s.core.registry.pickNext s.clock, rfl, fun other => Registry.picks_iff,
    Registry.pickNext_eq_none_iff _ _, fun hnone => ?_,
    fun report hmem hi => Registry.wake_pickNext_le hmem hi,
    fun report hmem hi hdue => Registry.wake_pickNext_of_due hmem hi hdue⟩
  have hpicks := s.core.registry.picks_pickNext s.clock
  generalize s.core.registry.pickNext s.clock = selection at hpicks hnone ⊢
  cases hpicks with
  | idle hidle => rfl
  | unchecked hsplit hi hv hlast => cases hnone
  | overdue hsplit hi hlate hall hlast => cases hnone
  | soonest hsplit hi hpending hfirst hleast => cases hnone

/-! ## A check before time zero -/

namespace Rehearsal

/-- A snapshot by which an account was checked long before time zero. -/
def longAgo : Snapshot := { prevSyncTimes := [(1, -2000000000)] }

/-- A poller of one account. -/
def pollerOfOne : System World where
  clock := 1000000
  world := { twoAccountsWorld with
    source := .roster { twoAccounts with accounts := twoAccounts.accounts.take 1 } }

/-- After such a snapshot was restored, the wake comes after the next check of the account. -/
theorem restored_before_zero_wakes_late :
    ∃ s report selection, (restore inMemory longAgo).run pollerOfOne = (.ok (), s) ∧
      s.core.registry.reports = [report] ∧ 0 < report.interval ∧
      report.prevSync ≠ neverChecked ∧ pickNext.run s = (.ok selection, s) ∧
      selection = ⟨some 1, 0⟩ ∧ report.nextSync = -1999100000 ∧
      ¬selection.wake ≤ report.nextSync := by
  have hrestored : ((restore inMemory longAgo).run pollerOfOne).1 = .ok () := by decide +kernel
  have hreports : ((restore inMemory longAgo).run pollerOfOne).2.core.registry.reports =
      [{ account := 1, interval := 15, prevSync := -2000000000, nextSync := -1999100000,
         enabled := true, notify := true }] := by
    decide +kernel
  have hselection : ((restore inMemory longAgo).run pollerOfOne).2.core.registry.pickNext
      ((restore inMemory longAgo).run pollerOfOne).2.clock = ⟨some 1, 0⟩ := by
    decide +kernel
  refine ⟨_, _, ⟨some 1, 0⟩, Prod.ext hrestored rfl, hreports, by decide, by decide, ?_, rfl, rfl,
    by decide⟩
  rw [← hselection]
  rfl

end Rehearsal

end MailSchedule

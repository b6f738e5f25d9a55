import MailSchedule.Proofs.Dependable
import MailSchedule.Proofs.Unambiguous

/-!
# Wakes that carry what is current

A wake carries the times of the last checks, so that a poller which has lost its memory can go on.
Messages that change these times end with the timer set anew.  There are two exceptions: a report of
progress records a check and leaves the timer alone, and so does a request to check an account whose
number is too long to be written, which may bring saved times.  While the timer holds the watchdog of
a check this does no harm, since a watchdog carries no times; a wake for the account that is due next
is out of date from then on.

Results:

* `System.Current`: what the wake timer holds carries the times of the last checks, unless it is the
  watchdog of a check.
* `Occurrence.LeavesStale`: a message that puts the wake out of date.
* `current_iff_none_stale`: the wake is current throughout a course of events unless there is such a
  message in it.
-/

namespace MailSchedule

variable {ω : Type}

/-! ## Wakes and registries -/

/-- The wake is the watchdog of a check. -/
def Wake.IsWatchdog (w : Wake) : Prop :=
  ∃ id, w.payload = Snapshot.encode { account := some id, watchdog := true }

/-- Reading the wake gives the times of the last checks as a registry has them, in its order. -/
def Wake.Carries (w : Wake) (r : Registry) : Prop :=
  ∃ saved, Snapshot.decode (some w.payload) = .ok saved ∧ saved.prevSyncTimes = r.prevSyncTimes

/-- What is held is the watchdog of a check, or carries the times that a registry has. -/
def CurrentFor (r : Registry) (held : Option Wake) : Prop :=
  ∀ w, held = some w → w.IsWatchdog ∨ w.Carries r

/-- The wake timer holds nothing, the watchdog of a check, or a wake that carries the times of the
last checks. -/
def System.Current (s : System ω) : Prop := CurrentFor s.core.registry s.timer

theorem Registry.prevSyncTimes_clearCounts (r : Registry) (target : Option Int) :
    (r.clearCounts target).prevSyncTimes = r.prevSyncTimes := by
  refine prevSyncTimes_map (fun report => ?_) r
  split <;> exact ⟨rfl, rfl⟩

/-- A wake carries the times of one registry only. -/
theorem Wake.Carries.prevSyncTimes {w : Wake} {r r' : Registry} (h : w.Carries r)
    (h' : w.Carries r') : r.prevSyncTimes = r'.prevSyncTimes := by
  obtain ⟨saved, hr, htimes⟩ := h
  obtain ⟨saved', hr', htimes'⟩ := h'
  rw [hr] at hr'
  cases hr'
  rw [← htimes, ← htimes']

theorem CurrentFor.congr {r r' : Registry} {held : Option Wake} (h : CurrentFor r held)
    (htimes : r.prevSyncTimes = r'.prevSyncTimes) : CurrentFor r' held := by
  intro w hw
  rcases h w hw with hwatchdog | ⟨saved, hr, hsaved⟩
  · exact Or.inl hwatchdog
  · exact Or.inr ⟨saved, hr, hsaved.trans htimes⟩

theorem Registry.Readable.carries_wakeAt {r : Registry} (h : r.Readable) {now : Int} {w : Wake}
    (hw : r.wakeAt now = some w) : w.Carries r := by
  obtain ⟨id, hid, -, hpayload⟩ := Registry.wakeAt_eq_some hw
  obtain ⟨report, hmem, rfl⟩ := Registry.exists_mem_of_pickNext hid
  refine ⟨{ r.snapshot (some report.account) with
    account := (some report.account).filter (· ≠ Snapshot.noAccount) }, ?_, rfl⟩
  rw [hpayload]
  exact Snapshot.decode_encode (Registry.readable_snapshot h hmem)

theorem Settled.currentFor {policy : Policy} {r : Registry} {held : Option Wake}
    (h : Settled policy r held) (hread : r.Readable) : CurrentFor r held := by
  rintro w rfl
  rcases h hread.writable with hnone | ⟨id, t, hwatchdog⟩ | ⟨t, hwake⟩
  · cases hnone
  · cases hwatchdog
    exact Or.inl ⟨id, rfl⟩
  · exact Or.inr (hread.carries_wakeAt hwake.symm)

/-! ## Courses of events -/

namespace Occurrence

/-- A message is handled next that leaves the timer alone and changes the times of the last checks
while the timer holds a wake that is no watchdog. -/
def LeavesStale (env : Surroundings ω) (s : System ω) : Occurrence ω → Prop
  | next => ∃ m rest w, s.core.queue = m :: rest ∧ m.leavesTimer = true ∧ s.timer = some w ∧
    ¬w.IsWatchdog ∧ (next.after env s).core.registry.prevSyncTimes ≠ s.core.registry.prevSyncTimes
  | _ => False

end Occurrence

namespace Surroundings.Dependable

variable {env : Surroundings ω} {I : ω → Prop} (h : env.Dependable I)
include h

/-- After a message was handled the wake is current, unless it was put out of date. -/
theorem next_current_iff {s : System ω} (hs : I s.world) (hcurrent : s.Current)
    (hread : (Occurrence.next.after env s).core.registry.Readable) :
    I (Occurrence.next.after env s).world ∧ ((Occurrence.next.after env s).Current ↔
      ¬Occurrence.next.LeavesStale env s) := by
  cases hqueue : s.core.queue with
  | nil =>
    rw [after_next_nil env hqueue]
    refine ⟨hs, iff_of_true hcurrent ?_⟩
    rintro ⟨m, rest, w, hcons, -⟩
    rw [hqueue] at hcons
    cases hcons
  | cons m rest =>
    have hnext := h.after_next hs hqueue
    refine ⟨hnext.world, ?_⟩
    rcases hnext.holds.2 with ⟨hm, htimer⟩ | ⟨hm, hsettled⟩
    · -- The timer is left alone, so all depends on whether the times are.
      constructor
      · rintro hafter ⟨-, -, w, -, -, hw, hwatchdog, hchanged⟩
        have hbefore := (hcurrent w hw).resolve_left hwatchdog
        have hcarries := (hafter w (htimer.trans hw)).resolve_left hwatchdog
        exact hchanged (hcarries.prevSyncTimes hbefore)
      · intro hstale w hw
        by_cases hwatchdog : w.IsWatchdog
        · exact Or.inl hwatchdog
        · have hsame : s.core.registry.prevSyncTimes =
              (Occurrence.next.after env s).core.registry.prevSyncTimes := by
            by_contra hchanged
            exact hstale ⟨m, rest, w, hqueue, hm, htimer.symm.trans hw, hwatchdog, Ne.symm hchanged⟩
          exact hcurrent.congr hsame w (htimer.symm.trans hw)
    · refine iff_of_true (hsettled.currentFor hread) ?_
      rintro ⟨m', rest', w, hcons, hm', -⟩
      rw [hqueue] at hcons
      obtain ⟨rfl, rfl⟩ := List.cons.inj hcons
      rw [hm] at hm'
      cases hm'

theorem after_current_iff {o : Occurrence ω} (ho : o.Within I) {s : System ω} (hs : I s.world)
    (hcurrent : s.Current) (hread : (o.after env s).core.registry.Readable) :
    I (o.after env s).world ∧ ((o.after env s).Current ↔ ¬o.LeavesStale env s) := by
  by_cases hnext : o = .next
  · subst hnext
    exact h.next_current_iff hs hcurrent hread
  · have hafter := h.after_aside ho hnext (X := fun r _ w => CurrentFor r w)
      (fun r target _ w hw => hw.congr (r.prevSyncTimes_clearCounts target).symm) hs hcurrent
    refine ⟨hafter.1, iff_of_true hafter.2 ?_⟩
    cases o with
    | next => exact absurd rfl hnext
    | _ => exact not_false

end Surroundings.Dependable

/-- Throughout a course of events that begins with the wake timer idle, what the timer holds is
current, if and only if no message puts it out of date. -/
theorem current_iff_none_stale {env : Surroundings ω} {I : ω → Prop} (h : env.Dependable I)
    {s : System ω} (hs : I s.world) (htimer : s.timer = none)
    {os : List (Occurrence ω)} (hos : ∀ o ∈ os, o.Within I)
    (hread : ∀ n, (Occurrence.course env s (os.take n)).core.registry.Readable) :
    (∀ n, (Occurrence.course env s (os.take n)).Current) ↔
      ∀ (n : Nat) (o : Occurrence ω), os[n]? = some o →
        ¬o.LeavesStale env (Occurrence.course env s (os.take n)) := by
  refine Occurrence.forall_course_iff (fun s => s.core.registry.Readable) (fun s => I s.world)
    System.Current (fun o s => o.LeavesStale env s)
    (fun o ho s hs hcurrent hread => h.after_current_iff (hos o ho) hs hcurrent hread) hs ?_ hread
  intro w hw
  rw [htimer] at hw
  cases hw

/-! ## Progress of a check -/

namespace Rehearsal

/-- While the watchdog of a check is armed progress may be reported, and when the check ends the
timer is set anew. -/
def checkWithProgress : List (Occurrence World) :=
  [.submit (.checkRequested (some 1) none), .next, .submit (.checkProgress 1 100 100 none (some 2)),
    .next, .submit (.checkComplete 1 (some 2) none), .next]

theorem current_during_check :
    inMemory.Dependable OfTwoAccounts ∧
      ∀ n, (Occurrence.course inMemory freshPoller (checkWithProgress.take n)).Current := by
  have hread : ∀ n < 7, (Occurrence.course inMemory freshPoller
      (checkWithProgress.take n)).core.registry.Readable := by
    decide +kernel
  refine ⟨dependable_inMemory, (current_iff_none_stale dependable_inMemory
    ofTwoAccounts_twoAccountsWorld rfl ?_ fun n => ?_).2 ?_⟩
  · intro o ho
    simp only [checkWithProgress, List.mem_cons, List.not_mem_nil, or_false] at ho
    rcases ho with rfl | rfl | rfl | rfl | rfl | rfl <;> exact trivial
  · have hlength : checkWithProgress.length = 6 := rfl
    rw [List.take_eq_take_min, hlength]
    exact hread _ (by omega)
  · have hqueues : ∀ n < 6, n ≠ 3 → ((Occurrence.course inMemory freshPoller
        (checkWithProgress.take n)).core.queue.any (·.leavesTimer)) = false := by
      decide +kernel
    have hwatchdog : (Occurrence.course inMemory freshPoller (checkWithProgress.take 3)).timer =
        some (inMemory.policy.watchdogWake 1 1000000) := by
      decide +kernel
    intro n o ho hstale
    have hn : n < 6 := (List.getElem?_eq_some_iff.1 ho).1
    cases o with
    | next =>
      obtain ⟨m, rest, w, hqueue, hm, hw, hnot, -⟩ := hstale
      by_cases hn3 : n = 3
      · subst hn3
        rw [hwatchdog] at hw
        cases hw
        exact hnot ⟨1, rfl⟩
      · have hnone := hqueues n hn hn3
        rw [hqueue, List.any_cons, hm] at hnone
        cases hnone
    | _ => exact hstale

/-- Progress that is reported after the timer was set for another account. -/
def lateProgress : List (Occurrence World) :=
  [.submit (.checkRequested none none), .next, .submit (.checkProgress 1 100 100 none (some 0)), .next]

/-- A report of progress leaves the wake of another account out of date. -/
theorem not_current_after_progress :
    inMemory.Dependable OfTwoAccounts ∧
      ¬∀ n, (Occurrence.course inMemory freshPoller (lateProgress.take n)).Current := by
  refine ⟨dependable_inMemory, fun hall => ?_⟩
  have htimer : (Occurrence.course inMemory freshPoller (lateProgress.take 4)).timer =
      some ⟨0, Snapshot.encode { account := some 2, prevSyncTimes := [(1, 0), (2, 0)] }⟩ := by
    decide +kernel
  have htimes : (Occurrence.course inMemory freshPoller
      (lateProgress.take 4)).core.registry.prevSyncTimes = [(1, 1000000), (2, 0)] := by
    decide +kernel
  rcases hall 4 _ htimer with ⟨id, hwatchdog⟩ | ⟨saved, hr, hsaved⟩
  · exact absurd (Snapshot.encode_inj hwatchdog).2.2 Bool.false_ne_true
  · rw [Snapshot.of_decode_encode hr, htimes] at hsaved
    exact absurd hsaved (by decide)

end Rehearsal

end MailSchedule

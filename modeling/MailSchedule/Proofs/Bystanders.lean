import MailSchedule.Proofs.Course
import MailSchedule.Proofs.Occurrences
import MailSchedule.Proofs.Rehearsing

/-!
# Accounts do not disturb each other

A message that names one account tells the poller nothing about the others.  Whatever is loaded,
recorded, announced or selected on the way, and whichever call fails, all that the poller remembers
of an account stays as it is while it is not named, no snapshot is restored and the registry is not
rebuilt.

Results:

* `Core.memory`: what the poller remembers of an account.
* `Message.Bypasses`: the messages that leave an account alone.
* `Surroundings.StaysOut.handle_bypassing`: handling such a message changes nothing of it.
* `undisturbed_by_others`: neither does any course of events in which no others are handled.
-/

namespace MailSchedule

variable {ω : Type}

/-! ## What is remembered of an account -/

/-- What a poller remembers of an account: its report, whether its check has reported its end, and
the count that was announced while its check is under way. -/
structure Memory where
  report : Option Report
  ended : Bool
  told : Option Int
  deriving DecidableEq, Repr

namespace Core

/-- What is remembered of an account. -/
def memory (c : Core) (b : Int) : Memory where
  report := c.registry.find? b
  ended := decide (b ∈ c.completed)
  told := c.announced.lookup b

variable {b id : Int} (h : id ≠ b)
include h

theorem memory_openCheck (c : Core) : (c.openCheck id).memory b = c.memory b := by
  have hended : b ∈ (c.openCheck id).completed ↔ b ∈ c.completed := by
    rw [mem_completed_openCheck, and_iff_left h.symm]
  unfold memory
  rw [lookup_announced_openCheck, if_neg h.symm, decide_eq_decide.2 hended]
  rfl

theorem memory_endCheck (c : Core) : (c.endCheck id).memory b = c.memory b := by
  have hended : b ∈ (c.endCheck id).completed ↔ b ∈ c.completed := by
    rw [mem_completed_endCheck, or_iff_right h.symm]
  unfold memory
  rw [lookup_announced_endCheck, if_neg h.symm, decide_eq_decide.2 hended]
  rfl

theorem memory_tell (c : Core) (count : Int) : (c.tell id count).memory b = c.memory b := by
  unfold memory
  rw [lookup_announced_tell, if_neg h.symm]
  rfl

theorem memory_modify (c : Core) (f : Report → Report) :
    memory { c with registry := c.registry.modify id f } b = c.memory b := by
  unfold memory
  dsimp only
  rw [Registry.find?_modify, if_neg h.symm]

omit h

/-- Loading what is missing changes nothing of an account that is tracked. -/
theorem memory_published {c : Core} (htracked : c.registry.contains b = true) {mode : LoadMode}
    (hmode : mode ≠ .forceReset) (built : Registry) :
    (c.published mode built).memory b = c.memory b := by
  obtain ⟨report, hreport⟩ := Option.isSome_iff_exists.1 htracked
  have hkept := find?_published hreport hmode built
  obtain ⟨r, keepsakes, hpublished⟩ := c.published_eq mode built
  rw [hpublished] at hkept ⊢
  unfold memory
  rw [hreport]
  exact congrArg (Memory.mk · _ _) hkept

end Core

/-! ## Messages about others -/

/-- A message leaves an account alone: it names another one or none, carries no snapshot, and does
not have the registry rebuilt. -/
def Message.Bypasses (b : Int) : Message → Prop
  | .checkRequested account snapshot => account ≠ some b ∧ snapshot = none
  | .watchdogFired id => id ≠ b
  | .rescheduleRequested => False
  | .cancelRequested => True
  | .notifyRequested id => id ≠ b
  | .sendPendingRequested id => id ≠ b
  | .deleteProtocolRequested _ => False
  | .checkProgress id _ _ _ _ => id ≠ b
  | .checkComplete id _ _ => id ≠ b

namespace Message.Bypasses

variable {b : Int} {m : Message} (h : m.Bypasses b)
include h

theorem account_ne {id : Int} (hid : m.account? = some id) : id ≠ b := by
  rintro rfl
  cases m with
  | checkRequested account snapshot => exact h.1 hid
  | rescheduleRequested => cases hid
  | cancelRequested => cases hid
  | deleteProtocolRequested protocol => cases hid
  | _ => exact h (Option.some.inj hid)

theorem rebuild_eq_none (env : Surroundings ω) : rebuild env m = none := by
  cases m with
  | rescheduleRequested => exact h.elim
  | deleteProtocolRequested protocol => exact h.elim
  | _ => rfl

end Message.Bypasses

/-! ## Handling messages -/

/-- An account is tracked, and something is remembered of it. -/
def Recalls (b : Int) (memory : Memory) (c : Core) : Prop :=
  c.registry.contains b = true ∧ c.memory b = memory

theorem Recalls.of_eq {b : Int} {memory : Memory} {c c' : Core} (h : Recalls b memory c)
    (hc : c'.memory b = c.memory b) : Recalls b memory c' := by
  refine ⟨?_, hc.trans h.2⟩
  show (c'.memory b).report.isSome = true
  rw [hc]
  exact h.1

namespace Surroundings.StaysOut

variable {env : Surroundings ω} (h : env.StaysOut) (b : Int) (memory : Memory)
include h

theorem respects_recalls : env.Respects fun s => Recalls b memory s.core :=
  h.respects_core fun _ _ hc => hc.of_eq rfl

theorem load_recalls {mode : LoadMode} (hmode : mode ≠ .forceReset) :
    (load env mode).Keeps fun s => Recalls b memory s.core :=
  (h.respects_recalls b memory).spares.abides.load mode fun _ built hs _ =>
    hs.of_eq (Core.memory_published hs.1 hmode built)

/-- Of the operations of which the handling of a message consists those that concern one account are
about the account that it names. -/
theorem sustains_recalls {m : Message} (hm : m.Bypasses b) :
    env.Sustains m (fun s => Recalls b memory s.core) fun s => Recalls b memory s.core where
  toAbides := (h.respects_recalls b memory).spares.abides
  opened id saved heq s hs :=
    hs.of_eq (Core.memory_openCheck (hm.account_ne (by rw [heq]; rfl)) s.core)
  ended id count error heq s hs :=
    hs.of_eq (Core.memory_endCheck (hm.account_ne (by rw [heq]; rfl)) s.core)
  told id mailbox progress error count heq s hs :=
    hs.of_eq (Core.memory_tell (hm.account_ne (by rw [heq]; rfl)) s.core _)
  fill := h.load_recalls b memory nofun
  restore account saved heq := by
    rw [heq] at hm
    cases hm.2
  refresh act hact := by
    rw [hm.rebuild_eq_none env] at hact
    cases hact
  update id unseen hid _ := (h.respects_recalls b memory).spares.abides.update
    (fun _ built hs _ => hs.of_eq (Core.memory_published hs.1 (by exact nofun) built))
    fun s hs => hs.of_eq (Core.memory_modify (hm.account_ne hid) s.core _)
  armWatchdog id _ _ := (h.respects_recalls b memory).armWatchdog (fun _ _ hs => hs) id
  disarm _ := (h.respects_recalls b memory).spares.abides.disarm fun _ _ hs => hs
  announce id hid := (h.respects_recalls b memory).announce id fun s hs =>
    hs.of_eq (Core.memory_modify (hm.account_ne hid) s.core _)
  silent _ hs := hs
  rearmAfter :=
    (h.respects_recalls b memory).rearm (fun _ _ hs => hs) (h.load_recalls b memory nofun)

/-- Handling a message that leaves an account alone changes nothing of what is remembered of it,
however the handling ends. -/
theorem handle_bypassing {m : Message} (hm : m.Bypasses b) :
    (handle env m).Keeps fun s => Recalls b memory s.core := (h.sustains_recalls b memory hm).handle

end Surroundings.StaysOut

/-! ## The result -/

/-- Nothing that a poller remembers of an account that it tracks changes in a course of events in
which only messages are handled that leave it alone, and no counts are forgotten.  Collaborators may
fail at any call. -/
theorem undisturbed_by_others {env : Surroundings ω} (h : env.StaysOut) {s : System ω} {b : Int}
    (htracked : s.core.registry.contains b = true) {os : List (Occurrence ω)}
    (hresets : ∀ target, .resetCounts target ∉ os)
    (hhandled : ∀ m ∈ Occurrence.handled env s os, m.Bypasses b) :
    (Occurrence.course env s os).core.registry.contains b = true ∧
      (Occurrence.course env s os).core.memory b = s.core.memory b := by
  -- The induction is on the course of events; what is remembered at its start is kept throughout.
  suffices hrecalls : ∀ memory, Recalls b memory s.core →
      Recalls b memory (Occurrence.course env s os).core from hrecalls _ ⟨htracked, rfl⟩
  intro memory hs
  clear htracked
  induction os generalizing s with
  | nil => exact hs
  | cons o os ih =>
    refine ih (fun target hmem => hresets target (List.mem_cons_of_mem o hmem))
      (fun m hm => hhandled m (List.mem_append_right _ hm)) ?_
    refine (h.respects_recalls b memory).spares.after (fun s q hs => hs.of_eq rfl)
      (fun _ _ _ hs => hs) (fun target heq => ?_) (fun m hm => ?_) hs
    · rw [heq] at hresets
      exact absurd List.mem_cons_self (hresets target)
    · exact h.handle_bypassing b memory
        (hhandled m (List.mem_append_left _ (Option.mem_toList.2 hm)))

/-! ## Two accounts in memory -/

namespace Rehearsal

/-- A poller that was told of four messages for the second account, whose check is under way. -/
def secondTold : System World :=
  Occurrence.course inMemory freshPoller
    [.submit (.checkProgress 2 usualInbox 100 none (some 4)), .next]

/-- The store does not answer, and notifications cannot be shown. -/
def nobodyAnswers : World :=
  { twoAccountsWorld with failures := [
      (.listAccounts, ⟨.store, "locked"⟩),
      (.getAccount, ⟨.store, "locked"⟩),
      (.showNotification, ⟨.other "RuntimeError", "no display"⟩)] }

/-- The first account is checked, which succeeds and then goes wrong. -/
def firstChecked : List (Occurrence World) :=
  [.submit (.checkRequested (some 1) none), .next, .elapse 1060000 nobodyAnswers,
    .submit (.checkComplete 1 (some 3) none), .next, .submit (.watchdogFired 7), .next]

/-- The second account keeps its four messages, and that they were announced is remembered. -/
theorem undisturbed_by_firstChecked :
    secondTold.core.registry.contains 2 = true ∧
      (Occurrence.course inMemory secondTold firstChecked).core.memory 2 =
        secondTold.core.memory 2 ∧
      ((Occurrence.course inMemory secondTold firstChecked).core.memory 2).told = some 4 := by
  have htracked : secondTold.core.registry.contains 2 = true := by decide +kernel
  have htold : (secondTold.core.memory 2).told = some 4 := by decide +kernel
  have hhandled : Occurrence.handled inMemory secondTold firstChecked =
      [.checkRequested (some 1) none, .checkComplete 1 (some 3) none, .watchdogFired 7] := by
    decide +kernel
  have hresets : ∀ target, .resetCounts target ∉ firstChecked := by simp [firstChecked]
  have hmemory := (undisturbed_by_others (staysOut_surroundings {} 1) htracked hresets
    (fun m hm => ?_)).2
  · exact ⟨htracked, hmemory, (congrArg Memory.told hmemory).trans htold⟩
  · change m ∈ Occurrence.handled inMemory secondTold firstChecked at hm
    rw [hhandled] at hm
    simp only [List.mem_cons, List.not_mem_nil, or_false] at hm
    rcases hm with rfl | rfl | rfl
    · exact ⟨by decide, rfl⟩
    · show (1 : Int) ≠ 2
      decide
    · show (7 : Int) ≠ 2
      decide

end Rehearsal

end MailSchedule

import MailSchedule.Proofs.Course
import MailSchedule.Proofs.Occurrences
import MailSchedule.Proofs.SteadyStore

/-!
# Dependable collaborators

Among dependable collaborators no call fails, except perhaps a check of mail, and none interferes
with the poller.  Their answers may change from one moment to the next, messages may enter the
queue, and time may pass while they work.  Then every message is handled to its end, unless a wake
cannot be written.

Results:

* `Surroundings.Dependable`: collaborators that are dependable in the worlds of a set.
* `Registry.Extended`: a registry that accounts were added to which were never checked.
* `Surroundings.Dependable.load`, `.update`, `.rearm`: what becomes of the registry and of the wake
  timer.
* `Surroundings.Dependable.handle`: which checks have ended after a message was handled, and what
  the wake timer holds.
* `Surroundings.Dependable.after_next`, `.after_aside`: the same of what happens to a poller.
-/

namespace MailSchedule

variable {ω : Type}

/-! ## Answers without failure -/

/-- Rows whose live accounts lack neither interval nor flags. -/
def Complete (rows : List Account.Draft) : Prop :=
  ∀ d ∈ rows, d.isWellFormed = true → d.interval.isSome ∧ d.flags.isSome

/-- An answer without failure, in worlds of a set and within that set, with a property of what is
answered. -/
def Reply.Yields {α : Type} (reply : Reply ω α) (I : ω → Prop) (Q : α → Prop) : Prop :=
  ∀ w, I w → ∃ a w', reply w = (.ok a, w') ∧ I w' ∧ Q a

/-- In the worlds of a set no call fails except perhaps a check of mail, and no answer; nothing that
collaborators do leads out of the set, and they neither interfere with the poller nor turn back the
clock. -/
structure Surroundings.Dependable (env : Surroundings ω) (I : ω → Prop) : Prop where
  staysOut : env.StaysOut
  time : ∀ t, env.KeepsTime (t ≤ ·)
  during : ∀ c s, I s.world → I ((env.during c).run s).2.world
  succeeds : ∀ c s, c.kind ≠ .checkMail → I s.world → ((env.during c).run s).1 = .ok ()
  list : Reply.Yields env.source.list I Complete
  get : ∀ id, Reply.Yields (env.source.get id) I fun row => Complete row.toList
  isSyncEnabled : ∀ email, Reply.Yields (env.source.isSyncEnabled email) I fun _ => True
  count : ∀ id, Reply.Yields (env.source.count id) I fun _ => True
  resetCount : ∀ target, Reply.Yields (env.source.resetCount target) I fun _ => True
  idsWithProtocol : ∀ protocol, Reply.Yields (env.source.idsWithProtocol protocol) I fun _ => True
  delete : ∀ id, Reply.Yields (env.checker.delete id) I fun _ => True

/-- In the worlds of a set the store has a live account under a number. -/
def Surroundings.Offers (env : Surroundings ω) (I : ω → Prop) (id : Int) : Prop :=
  Reply.Yields (env.source.get id) I fun row => ∃ d ∈ row, d.isWellFormed = true ∧ d.id = id

/-- The world is one of a set, the clock shows a time or a later one, and something holds of the
registry, of the checks that have ended and of the wake timer. -/
structure Steady (I : ω → Prop) (X : Registry → List Int → Option Wake → Prop) (t : Int)
    (s : System ω) : Prop where
  world : I s.world
  clock : t ≤ s.clock
  holds : X s.core.registry s.core.completed s.timer

namespace Steady

variable {I : ω → Prop} {X Y : Registry → List Int → Option Wake → Prop} {t : Int} {s : System ω}

theorem mono (h : Steady I X t s) (hXY : ∀ r c w, X r c w → Y r c w) : Steady I Y t s :=
  ⟨h.world, h.clock, hXY _ _ _ h.holds⟩

theorem later {t' : Int} (h : Steady I X t s) (ht : t' ≤ t) : Steady I X t' s :=
  ⟨h.world, Int.le_trans ht h.clock, h.holds⟩

/-- What an action does may be told for each registry by itself. -/
theorem of_registry {α : Type} {act : Act ω α} {Q : α → System ω → Prop}
    (h : ∀ r₀, act.Yields (Steady I (fun r c w => r = r₀ ∧ X r c w) t) Q) :
    act.Yields (Steady I X t) Q :=
  fun s hs => h s.core.registry s ⟨hs.world, hs.clock, rfl, hs.holds⟩

theorem answer {α : Type} {reply : Reply ω α} {Q : α → Prop} (h : Reply.Yields reply I Q) :
    (answer reply).Yields (Steady I X t) fun a s => Steady I X t s ∧ Q a := by
  intro s hs
  obtain ⟨a, w, hr, hw, ha⟩ := h s.world hs.world
  exact ⟨a, _, run_answer_ok s hr, ⟨hw, hs.clock, hs.holds⟩, ha⟩

theorem keeps_answer {α : Type} {reply : Reply ω α} {Q : α → Prop} (h : Reply.Yields reply I Q) :
    (MailSchedule.answer reply).Keeps (Steady I X t) := by
  intro s hs
  obtain ⟨a, s', hr, hs', -⟩ := answer h s hs
  rw [hr]
  exact hs'

end Steady

/-! ## Registries that are added to -/

namespace Registry

/-- All reports are kept, and accounts that are added count as never checked. -/
structure Extended (r r' : Registry) : Prop where
  kept : ∀ x report, r.find? x = some report → r'.find? x = some report
  added : ∀ x report, r'.find? x = some report →
    r.find? x = some report ∨ report.prevSync = neverChecked

namespace Extended

variable {r r' r'' : Registry}

theorem refl (r : Registry) : r.Extended r := ⟨fun _ _ h => h, fun _ _ h => Or.inl h⟩

theorem trans (h : r.Extended r') (h' : r'.Extended r'') : r.Extended r'' where
  kept x report hx := h'.kept x report (h.kept x report hx)
  added x report hx := (h'.added x report hx).elim (h.added x report) Or.inr

theorem of_isEmpty (h : r.isEmpty = true) (hr' : r'.Unchecked) : r.Extended r' where
  kept x report hx := by
    rw [find?_of_isEmpty h] at hx
    cases hx
  added x report hx := Or.inr (hr'.never _ (mem_of_find? hx))

theorem addMissing (r : Registry) {fresh : Registry} (h : fresh.Unchecked) :
    r.Extended (r.addMissing fresh) where
  kept x report hx := find?_addMissing hx fresh
  added x report hx := by
    cases hold : r.find? x with
    | some old => exact Or.inl ((find?_addMissing hold fresh).symm.trans hx)
    | none =>
      refine Or.inr ?_
      rcases mem_entries_addMissing (mem_of_find? hx) with hmem | hmem
      · exact absurd (mem_ids_of_mem hmem) ((find?_eq_none_iff r x).1 hold)
      · exact h.never _ hmem

theorem ids (h : r.Extended r') {x : Int} (hx : x ∈ r.ids) : x ∈ r'.ids := by
  obtain ⟨report, hreport⟩ := Option.isSome_iff_exists.1 ((mem_ids_iff r x).1 hx)
  exact mem_ids_of_mem (mem_of_find? (h.kept x report hreport))

theorem published {c : Core} {mode : LoadMode} (hmode : mode ≠ .forceReset) {built : Registry}
    (hbuilt : built.Unchecked) : c.registry.Extended (c.published mode built).registry := by
  cases mode with
  | forceReset => exact absurd rfl hmode
  | one id => exact addMissing c.registry hbuilt
  | fillIfEmpty =>
    unfold Core.published
    dsimp only
    split
    · rename_i hempty
      exact of_isEmpty hempty hbuilt
    · exact .refl c.registry

end Extended

end Registry

theorem Core.completed_published (c : Core) (mode : LoadMode) (built : Registry) :
    (c.published mode built).completed = c.completed := by
  obtain ⟨r, k, hpublished⟩ := c.published_eq mode built
  rw [hpublished]

/-! ## Calls -/

namespace Surroundings.Dependable

variable {env : Surroundings ω} {I : ω → Prop} (h : env.Dependable I)
  {X : Registry → List Int → Option Wake → Prop} {t : Int}
include h

theorem respects (X : Registry → List Int → Option Wake → Prop) (t : Int) :
    env.Respects (Steady I X t) where
  record _ := fun _ hs => ⟨hs.world, hs.clock, hs.holds⟩
  during c s hs := by
    refine ⟨h.during c s hs.world, h.time t c s hs.clock, ?_⟩
    rw [(h.staysOut c s).registry, (h.staysOut c s).completed, (h.staysOut c s).timer]
    exact hs.holds
  list := Steady.keeps_answer h.list
  get id := Steady.keeps_answer (h.get id)
  isSyncEnabled email := Steady.keeps_answer (h.isSyncEnabled email)
  count id := Steady.keeps_answer (h.count id)
  resetCount target := Steady.keeps_answer (h.resetCount target)
  idsWithProtocol protocol := Steady.keeps_answer (h.idsWithProtocol protocol)
  delete id := Steady.keeps_answer (h.delete id)

theorem call {c : Call} (hc : c.kind ≠ .checkMail) :
    (env.call c).Yields (Steady I X t) fun _ => Steady I X t :=
  .of_keeps ((h.respects X t).call c) fun _ hs => ⟨(), h.succeeds c _ hc hs.world⟩

theorem note (n : Notice) : (note n).Yields (Steady I X t) fun _ => Steady I X t :=
  .of_keeps ((h.respects X t).record (.noted n)) fun _ _ => ⟨(), rfl⟩

theorem backgroundDataEnabled :
    (backgroundDataEnabled env).Yields (Steady I X t) fun _ => Steady I X t := by
  unfold MailSchedule.backgroundDataEnabled
  cases env.backgroundData with
  | none => exact .pure fun _ hs => hs
  | some enabled =>
    exact (h.call (c := .backgroundData) nofun).bind fun _ _ hs => ⟨_, _, rfl, hs⟩

theorem findInbox (id : Int) : (findInbox env id).Yields (Steady I X t) fun _ => Steady I X t :=
  (h.call (c := .findInbox id) nofun).bind fun _ _ hs => ⟨_, _, rfl, hs⟩

theorem startCheck (id : Int) :
    (startCheck env id).Yields (Steady I X t) fun _ => Steady I X t := by
  refine (h.findInbox id).bind fun inbox => ?_
  cases inbox with
  | none => exact .pure fun _ hs => hs
  | some mailbox =>
    exact .tryCatch (((h.respects X t).call (.checkMail id mailbox)).bind fun _ => .pure _) fun e =>
      (h.note _).bind fun _ => .pure fun _ hs => hs

theorem tryStart (id : Int) : (tryStart env id).Yields (Steady I X t) fun _ => Steady I X t := by
  refine h.backgroundDataEnabled.bind fun enabled => .ite (fun _ s hs => ?_) fun _ =>
    .pure fun _ hs => hs
  rw [run_runIfDue]
  split
  · exact h.startCheck id s hs
  · exact ⟨false, s, rfl, hs⟩

theorem deleteAccounts (ids : List Int) :
    (deleteAccounts env ids).Yields (Steady I X t) fun _ => Steady I X t := by
  induction ids with
  | nil => exact .pure fun _ hs => hs
  | cons id rest ih =>
    refine (h.call (c := .deleteAccount id) nofun).bind fun _ => ?_
    exact (Steady.answer (h.delete id)).bind fun _ => ih.mono (fun _ hs => hs.1) fun _ _ hs => hs

/-! ## Loading -/

theorem rowsFor (mode : LoadMode) :
    (rowsFor env mode).Yields (Steady I X t) fun rows s => Steady I X t s ∧ Complete rows ∧
      ∀ id, mode = .one id → env.Offers I id → id ∈ liveIds rows := by
  have hall : Act.Yields (do
      env.call .listAccounts
      answer env.source.list) (Steady I X t) fun rows s => Steady I X t s ∧ Complete rows :=
    (h.call (c := .listAccounts) nofun).bind fun _ => Steady.answer h.list
  cases mode with
  | fillIfEmpty => exact hall.mono (fun _ hs => hs) fun _ _ hs => ⟨hs.1, hs.2, nofun⟩
  | forceReset => exact hall.mono (fun _ hs => hs) fun _ _ hs => ⟨hs.1, hs.2, nofun⟩
  | one id =>
    have hget : Reply.Yields (env.source.get id) I fun row =>
        Complete row.toList ∧ (env.Offers I id → id ∈ liveIds row.toList) := by
      intro w hw
      obtain ⟨row, w', hr, hw', hrow⟩ := h.get id w hw
      refine ⟨row, w', hr, hw', hrow, fun hoffers => ?_⟩
      obtain ⟨row', w'', hr', -, d, hd, hlive, rfl⟩ := hoffers w hw
      rw [hr] at hr'
      cases hr'
      exact List.mem_map_of_mem (List.mem_filter.2 ⟨Option.mem_toList.2 hd, hlive⟩)
    refine (h.call (c := .getAccount id) nofun).bind fun _ =>
      (Steady.answer hget).bind fun row => ?_
    refine .pure fun s hs => ⟨hs.1, hs.2.1, ?_⟩
    rintro _ ⟨rfl⟩
    exact hs.2.2

theorem buildReport {d : Account.Draft} (hinterval : d.interval.isSome) (hflags : d.flags.isSome) :
    (buildReport env d).Yields (Steady I X t) fun _ => Steady I X t := by
  obtain ⟨interval, hinterval⟩ := env.policy.polling.intervalOfDraft_isOk hinterval
  obtain ⟨notify, hnotify⟩ := Account.Draft.notify_isOk hflags
  unfold MailSchedule.buildReport
  rw [hinterval, hnotify]
  refine Act.Yields.bind (R := fun _ => Steady I X t) (.pure fun _ hs => hs) fun interval => ?_
  refine (h.call (c := .isSyncEnabled _) nofun).bind fun _ => ?_
  refine (Steady.answer (h.isSyncEnabled _)).bind fun enabled => ?_
  refine Act.Yields.bind (R := fun _ => Steady I X t) (.pure fun _ hs => hs.1) fun notify => ?_
  exact .pure fun _ hs => hs

theorem buildReports {rows : List Account.Draft} (hrows : Complete rows) (built : Registry) :
    (buildReports env built rows).Yields (Steady I X t) fun r s => Steady I X t s ∧
      ∀ x, x ∈ r.ids ↔ x ∈ built.ids ∨ x ∈ liveIds rows := by
  induction rows generalizing built with
  | nil => exact .pure fun _ hs => ⟨hs, fun x => by simp [liveIds]⟩
  | cons d rest ih =>
    have ih := ih fun x hx => hrows x (List.mem_cons_of_mem d hx)
    refine .ite (fun hd => ?_) fun hd => ?_
    · obtain ⟨hinterval, hflags⟩ := hrows d List.mem_cons_self hd
      refine (h.buildReport hinterval hflags).bind fun report => ?_
      refine (ih (built.put d.id report)).mono (fun _ hs => hs) fun r s hs => ⟨hs.1, fun x => ?_⟩
      rw [hs.2, Registry.mem_ids_put]
      simp only [liveIds, List.filter_cons, hd, if_true, List.map_cons, List.mem_cons]
      exact or_assoc
    · refine (ih built).mono (fun _ hs => hs) fun r s hs => ⟨hs.1, fun x => ?_⟩
      rw [hs.2]
      simp only [liveIds, List.filter_cons, hd, if_false, Bool.false_eq_true]

/-- Loading what is missing leaves alone what is there. -/
theorem load (mode : LoadMode) (r₀ : Registry) {X : List Int → Option Wake → Prop} :
    (load env mode).Yields (Steady I (fun r c w => r = r₀ ∧ X c w) t) fun _ =>
      Steady I (fun r c w => ((mode ≠ .forceReset → r₀.Extended r) ∧
        ∀ id, mode = .one id → env.Offers I id → id ∈ r.ids) ∧ X c w) t := by
  intro s hs
  cases hneeded : mode.isNeeded s.core.registry with
  | false =>
    refine ⟨(), s, load_not_needed env hneeded, hs.world, hs.clock, ⟨fun _ => ?_, ?_⟩, hs.holds.2⟩
    · rw [hs.holds.1]
      exact .refl r₀
    · rintro id rfl -
      by_contra hid
      rw [LoadMode.isNeeded_one_iff.2 hid] at hneeded
      cases hneeded
  | true =>
    unfold MailSchedule.load
    rw [Act.run_bind, run_registry]
    dsimp only
    rw [if_pos hneeded, Act.run_bind]
    obtain ⟨rows, s1, hr1, h1, hrows, hone⟩ := h.rowsFor mode s hs
    rw [hr1]
    obtain ⟨s2, h2, hnote⟩ := note_if (h.respects _ t).spares.note env.policy.polling.oneMinute
      .oneMinuteRefresh h1
    dsimp only
    rw [hnote, Act.run_bind]
    obtain ⟨built, s3, hr3, h3, hids⟩ := h.buildReports hrows .empty s2 h2
    have hbuilt := buildReports_ok Registry.unchecked_empty (congrArg Prod.fst hr3)
    rw [hr3]
    refine ⟨(), _, run_publish mode built s3, h3.world, h3.clock, ⟨fun hmode => ?_, ?_⟩, ?_⟩
    · rw [← h3.holds.1]
      exact .published hmode hbuilt
    · rintro id rfl hoffers
      exact (Registry.mem_ids_addMissing _ built id).2
        (Or.inr ((hids id).2 (Or.inr (hone id rfl hoffers))))
    · dsimp only
      rw [Core.completed_published]
      exact h3.holds.2

end Surroundings.Dependable

/-! ## Operations -/

/-- What the wake timer holds goes with the registry, unless the wake that serves the registry cannot
be written: the timer is idle, holds the watchdog of a check, or that wake. -/
def Settled (policy : Policy) (r : Registry) (w : Option Wake) : Prop :=
  r.Writable → w = none ∨ (∃ id t, w = some (policy.watchdogWake id t)) ∨ ∃ t, w = r.wakeAt t

namespace Surroundings.Dependable

variable {env : Surroundings ω} {I : ω → Prop} (h : env.Dependable I)
  {X : List Int → Option Wake → Prop} {t : Int}
include h

theorem load_aside (mode : LoadMode) :
    (MailSchedule.load env mode).Yields (Steady I (fun _ c w => X c w) t) fun _ =>
      Steady I (fun _ c w => X c w) t :=
  Steady.of_registry fun r₀ => (h.load mode r₀).mono (fun _ hs => hs) fun _ _ hs =>
    hs.mono fun _ _ _ hx => hx.2

theorem refresh :
    (refresh env).Yields (Steady I (fun _ c w => X c w) t) fun _ =>
      Steady I (fun _ c w => X c w) t := by
  intro s hs
  obtain ⟨_, s', hr, hs'⟩ := h.load_aside .forceReset
    { s with core := { s.core with keepsakes := none :: s.core.keepsakes } }
    ⟨hs.world, hs.clock, hs.holds⟩
  rw [run_refresh, hr]
  exact ⟨(), _, rfl, hs'.world, hs'.clock, hs'.holds⟩

theorem restore (snapshot : Snapshot) :
    (restore env snapshot).Yields (Steady I (fun _ c w => X c w) t) fun _ =>
      Steady I (fun _ c w => X c w) t :=
  (h.load_aside .fillIfEmpty).bind fun _ _ hs => ⟨(), _, rfl, hs.world, hs.clock, hs.holds⟩

/-- An account is recorded as checked, after it was added if it was missing. -/
theorem update (id : Int) (unseen : Option Int) (r₀ : Registry) :
    (update env id unseen).Yields (Steady I (fun r c w => r = r₀ ∧ X c w) t) fun _ s =>
      ∃ t', t ≤ t' ∧ Steady I (fun r c w => (∃ r₁, r₀.Extended r₁ ∧
        (env.Offers I id → id ∈ r₁.ids) ∧
        r = r₁.modify id fun report => report.checked t' unseen) ∧ X c w) t' s := by
  intro s hs
  obtain ⟨_, s', hr, hs'⟩ := h.load (.one id) r₀ s hs
  rw [run_update, hr]
  refine ⟨_, _, rfl, s'.clock, hs'.clock, hs'.world, Int.le_refl _, ?_, hs'.holds.2⟩
  exact ⟨s'.core.registry, hs'.holds.1.1 nofun, hs'.holds.1.2 id rfl, rfl⟩

theorem update_aside (id : Int) (unseen : Option Int) :
    (MailSchedule.update env id unseen).Yields (Steady I (fun _ c w => X c w) t) fun _ =>
      Steady I (fun _ c w => X c w) t := by
  refine Steady.of_registry fun r₀ => (h.update id unseen r₀).mono (fun _ hs => hs) ?_
  rintro _ s ⟨t', ht, hs⟩
  exact (hs.mono fun _ _ _ hx => hx.2).later ht

theorem announce (id : Int) :
    (announce env id).Yields (Steady I (fun _ c w => X c w) t) fun _ =>
      Steady I (fun _ c w => X c w) t := by
  refine Act.Yields.bind (R := fun _ => Steady I (fun _ c w => X c w) t)
    (fun s hs => ⟨s.core.registry, s, rfl, hs⟩) fun r => ?_
  cases r.newMail? id with
  | none => exact .pure fun _ hs => hs
  | some mail =>
    refine Act.Yields.bind (R := fun _ => Steady I (fun _ c w => X c w) t)
      (fun s hs => ⟨(), _, rfl, hs.world, hs.clock, hs.holds⟩) fun _ => ?_
    exact (h.call (c := .showNotification _ _ _) nofun).bind fun _ => .pure fun _ hs => hs

theorem point {R : Registry → List Int → Prop} (v : Option Wake) :
    (point env v).Yields (Steady I (fun r c _ => R r c) t) fun _ =>
      Steady I (fun r c w => R r c ∧ w = v) t := by
  cases v with
  | none =>
    exact (h.call (c := .cancelTimer) nofun).bind fun _ _ hs =>
      ⟨(), _, rfl, hs.world, hs.clock, hs.holds, rfl⟩
  | some w =>
    exact (h.call (c := .arm w.time w.payload) nofun).bind fun _ _ hs =>
      ⟨(), _, rfl, hs.world, hs.clock, hs.holds, rfl⟩

/-- The wake timer comes to serve the registry, which is filled first if it is empty.  It is left
alone if the wake cannot be written. -/
theorem rearm (r₀ : Registry) {C : List Int → Prop} (w₀ : Option Wake) :
    Act.Leads (do let _ ← MailSchedule.rearm env)
      (Steady I (fun r c w => r = r₀ ∧ C c ∧ w = w₀) t) fun s => ∃ t', t ≤ t' ∧
        Steady I (fun r c w => r₀.Extended r ∧ C c ∧ w = r.timerAt t' w₀) t' s := by
  refine Act.Leads.bind ?_ (fun _ hs => hs) fun _ _ hs => hs
  intro s hs
  obtain ⟨_, s1, hr1, h1⟩ := h.load .fillIfEmpty r₀ (X := fun c w => C c ∧ w = w₀) s hs
  have hextended : r₀.Extended s1.core.registry := h1.holds.1.1 nofun
  rw [run_rearm_of_load hr1]
  by_cases hwritable : s1.core.registry.Writable
  · obtain ⟨_, s2, hr2, h2⟩ := h.point (R := fun r c => r = s1.core.registry ∧ C c)
      (s1.core.registry.wakeAt s1.clock) s1 ⟨h1.world, Int.le_refl _, rfl, h1.holds.2.1⟩
    rw [if_pos hwritable, Act.run_bind, hr2]
    refine ⟨s1.clock, h1.clock, h2.mono ?_⟩
    rintro _ c _ ⟨⟨rfl, hc⟩, rfl⟩
    exact ⟨hextended, hc, (hwritable.timerAt s1.clock w₀).symm⟩
  · rw [if_neg hwritable]
    refine ⟨s1.clock, h1.clock, h1.world, Int.le_refl _, hextended, h1.holds.2.1, ?_⟩
    exact h1.holds.2.2.trans (if_neg hwritable).symm

theorem rearm_settles {C : List Int → Prop} :
    Act.Leads (do let _ ← MailSchedule.rearm env) (Steady I (fun _ c _ => C c) t)
      (Steady I (fun r c w => C c ∧ Settled env.policy r w) t) := by
  intro s hs
  obtain ⟨t', ht, hs'⟩ :=
    h.rearm s.core.registry s.timer s ⟨hs.world, hs.clock, rfl, hs.holds, rfl⟩
  refine (hs'.mono fun r c w hx => ⟨hx.2.1, fun hwritable => ?_⟩).later ht
  exact Or.inr (Or.inr ⟨t', hx.2.2.trans (hwritable.timerAt t' _)⟩)

/-- The watchdog of an account can be armed if the number of the account can be written. -/
theorem openCheck {id : Int} (hid : Json.Readable id) {c₀ : List Int} :
    (MailSchedule.openCheck env id).Yields (Steady I (fun _ c _ => c = c₀) t) fun _ =>
      Steady I (fun _ c w => c = c₀.filter (· ≠ id) ∧
        ∃ t', w = some (env.policy.watchdogWake id t')) t := by
  intro s hs
  obtain ⟨_, s', hr, hs'⟩ := h.point (R := fun _ c => c = c₀.filter (· ≠ id))
    (some (env.policy.watchdogWake id s.clock)) { s with core := s.core.openCheck id }
    ⟨hs.world, hs.clock, by rw [← hs.holds]; rfl⟩
  refine ⟨(), s', ?_, hs'.mono fun _ _ _ hx => ⟨hx.1, s.clock, hx.2⟩⟩
  rw [run_openCheck, if_pos hid]
  exact hr

end Surroundings.Dependable

/-! ## Handling messages -/

theorem handleCheck_eq (env : Surroundings ω) (account : Option Int) (snapshot : Option Snapshot) :
    handleCheck env account snapshot = (do
      catchUp env snapshot
      checkDue env account) := by
  cases snapshot <;> rfl

/-- The accounts whose check has ended after a message was handled. -/
def Message.completedAfter (completed : List Int) : Message → List Int
  | .checkRequested (some id) _ => completed.filter (· ≠ id)
  | .checkComplete id _ _ => completed.insert id
  | _ => completed

/-- Whether a message leaves the wake timer alone: it reports progress of a check, or requests a
check of an account whose number is too long for the watchdog to be armed. -/
def Message.leavesTimer : Message → Bool
  | .checkProgress _ _ _ _ _ => true
  | .checkRequested (some id) _ => !decide (Json.Readable id)
  | _ => false

namespace Surroundings.Dependable

variable {env : Surroundings ω} {I : ω → Prop} (h : env.Dependable I) {c₀ : List Int} {t : Int}
include h

theorem checkAccount {id : Int} (hid : Json.Readable id) :
    (MailSchedule.checkAccount env id).Leads (Steady I (fun _ c _ => c = c₀) t)
      (Steady I (fun r c w => c = c₀.filter (· ≠ id) ∧ Settled env.policy r w) t) := by
  refine (h.openCheck hid).bind_leads fun _ => (h.tryStart id).bind_leads fun started =>
    .ite ?_ fun s hs => hs.mono fun _ _ _ hx => ⟨hx.1, fun _ => Or.inr (Or.inl ⟨id, hx.2⟩)⟩
  refine (h.update_aside id none).bind_leads fun _ s hs => h.rearm_settles s ?_
  exact hs.mono fun _ _ _ hx => hx.1

omit h in
/-- If the number of the account is too long, the check is forgotten and nothing else happens. -/
theorem checkAccount_tooLong {id : Int} (hid : ¬Json.Readable id) {w₀ : Option Wake} :
    (MailSchedule.checkAccount env id).Leads (Steady I (fun _ c w => c = c₀ ∧ w = w₀) t)
      (Steady I (fun _ c w => c = c₀.filter (· ≠ id) ∧ w = w₀) t) := by
  intro s hs
  unfold MailSchedule.checkAccount
  rw [Act.run_bind, run_openCheck, if_neg hid]
  exact ⟨hs.world, hs.clock, by rw [← hs.holds.1], hs.holds.2⟩

theorem catchUp (snapshot : Option Snapshot) {X : List Int → Option Wake → Prop} :
    (catchUp env snapshot).Yields (Steady I (fun _ c w => X c w) t) fun _ =>
      Steady I (fun _ c w => X c w) t := by
  cases snapshot with
  | none => exact h.load_aside .fillIfEmpty
  | some saved => exact h.restore saved

theorem handleCheck (account : Option Int) (snapshot : Option Snapshot) {w₀ : Option Wake} :
    (MailSchedule.handleCheck env account snapshot).Leads
      (Steady I (fun _ c w => c = c₀ ∧ w = w₀) t)
      (Steady I (fun r c w => c = (Message.checkRequested account snapshot).completedAfter c₀ ∧
        ((Message.checkRequested account snapshot).leavesTimer = true ∧ w = w₀ ∨
          (Message.checkRequested account snapshot).leavesTimer = false ∧
            Settled env.policy r w)) t) := by
  rw [handleCheck_eq]
  refine (h.catchUp snapshot).bind_leads fun _ => ?_
  cases account with
  | none =>
    intro s hs
    refine (h.rearm_settles s (hs.mono fun _ _ _ hx => hx.1)).mono fun _ _ _ hx => ?_
    exact ⟨hx.1, Or.inr ⟨rfl, hx.2⟩⟩
  | some id =>
    intro s hs
    by_cases hid : Json.Readable id
    · refine (h.checkAccount hid s (hs.mono fun _ _ _ hx => hx.1)).mono fun _ _ _ hx => ?_
      exact ⟨hx.1, Or.inr ⟨by simp [Message.leavesTimer, hid], hx.2⟩⟩
    · refine (checkAccount_tooLong hid s hs).mono fun _ _ _ hx => ?_
      exact ⟨hx.1, Or.inl ⟨by simp [Message.leavesTimer, hid], hx.2⟩⟩

theorem handleWatchdog (id : Int) :
    (handleWatchdog env id).Leads (Steady I (fun _ c _ => c = c₀) t)
      (Steady I (fun r c w => c = c₀ ∧ Settled env.policy r w) t) := by
  refine Act.Yields.bind_leads (R := fun _ => Steady I (fun _ c _ => c = c₀) t)
    (fun s hs => ⟨s.core, s, rfl, hs⟩) fun _ => .ite ?_ h.rearm_settles
  refine (h.note _).bind_leads fun _ => (h.load_aside .fillIfEmpty).bind_leads fun _ => ?_
  exact (h.update_aside id none).bind_leads fun _ => h.rearm_settles

theorem handleNotify (id : Int) :
    (handleNotify env id).Leads (Steady I (fun _ c _ => c = c₀) t)
      (Steady I (fun r c w => c = c₀ ∧ Settled env.policy r w) t) := by
  refine (h.call (c := .newMessageCount id) nofun).bind_leads fun _ => ?_
  refine (Steady.answer (h.count id)).bind_leads fun count => ?_
  cases count with
  | none => exact fun s hs => h.rearm_settles s hs.1
  | some count =>
    have hupdate := h.update_aside id (some count) (X := fun c _ => c = c₀) (t := t)
    intro s hs
    refine hupdate.bind_leads (fun _ => .ite ?_ h.rearm_settles) s hs.1
    exact (h.announce id).bind_leads fun _ => h.rearm_settles

/-- Rebuilding the registry is followed by rearming. -/
theorem refresh_settles : Act.Leads (do
    MailSchedule.refresh env
    let _ ← MailSchedule.rearm env) (Steady I (fun _ c _ => c = c₀) t)
      (Steady I (fun r c w => c = c₀ ∧ Settled env.policy r w) t) :=
  h.refresh.bind_leads fun _ => h.rearm_settles

theorem handleDeleteProtocol (protocol : Text) :
    (handleDeleteProtocol env protocol).Leads (Steady I (fun _ c _ => c = c₀) t)
      (Steady I (fun r c w => c = c₀ ∧ Settled env.policy r w) t) := by
  refine (h.call (c := .idsWithProtocol protocol) nofun).bind_leads fun _ => ?_
  refine (Steady.answer (h.idsWithProtocol protocol)).bind_leads fun ids => ?_
  exact ((h.deleteAccounts ids).mono (fun _ hs => hs.1) fun _ _ hs => hs).bind_leads fun _ =>
    h.refresh_settles

theorem handleProgress (id mailbox progress : Int) (error : Option Fault) (count : Option Int)
    {w₀ : Option Wake} :
    (handleProgress env id mailbox progress error count).Yields
      (Steady I (fun _ c w => c = c₀ ∧ w = w₀) t) fun _ =>
        Steady I (fun _ c w => c = c₀ ∧ w = w₀) t := by
  refine .ite (fun _ => .pure fun _ hs => hs) fun _ => (h.findInbox id).bind fun inbox => ?_
  refine .ite (fun _ => .pure fun _ hs => hs) fun _ => .ite (fun _ => ?_) fun _ => ?_
  · refine (h.update_aside id count (X := fun c w => c = c₀ ∧ w = w₀)).bind fun _ =>
      .ite (fun _ => ?_) fun _ => .pure fun _ hs => hs
    exact (h.announce id).bind fun _ s hs => ⟨(), _, rfl, hs.world, hs.clock, hs.holds⟩
  · exact (h.update_aside id none (X := fun c w => c = c₀ ∧ w = w₀)).bind fun _ =>
      .pure fun _ hs => hs

theorem handleComplete (id : Int) (count : Option Int) (error : Option Fault) :
    (handleComplete env id count error).Leads (Steady I (fun _ c _ => c = c₀) t)
      (Steady I (fun r c w => c = c₀.insert id ∧ Settled env.policy r w) t) := by
  refine Act.Yields.bind_leads (R := fun _ => Steady I (fun _ c _ => c = c₀) t)
    (fun s hs => ⟨s.core, s, rfl, hs⟩) fun core => ?_
  refine Act.Yields.bind_leads (R := fun _ => Steady I (fun _ c _ => c = c₀.insert id) t)
    (fun s hs => ⟨(), _, rfl, hs.world, hs.clock, congrArg (List.insert id) hs.holds⟩) fun _ => ?_
  refine (h.load_aside .fillIfEmpty (X := fun c _ => c = c₀.insert id)).bind_leads fun _ => ?_
  cases error with
  | some e =>
    exact (h.note _).bind_leads fun _ => (h.update_aside id none).bind_leads fun _ =>
      h.rearm_settles
  | none =>
    cases count with
    | none => exact (h.update_aside id none).bind_leads fun _ => h.rearm_settles
    | some n =>
      refine (h.update_aside id (some n)).bind_leads fun _ => .ite ?_ h.rearm_settles
      exact (h.announce id).bind_leads fun _ => h.rearm_settles

/-- Handling a message ends with the wake timer settled, except that some messages leave it
alone. -/
theorem handle (m : Message) {w₀ : Option Wake} :
    (handle env m).Leads (Steady I (fun _ c w => c = c₀ ∧ w = w₀) t)
      (Steady I (fun r c w => c = m.completedAfter c₀ ∧
        (m.leavesTimer = true ∧ w = w₀ ∨ m.leavesTimer = false ∧ Settled env.policy r w)) t) := by
  have hsettled : ∀ {act : Act ω Unit} {c₁ : List Int}, m.completedAfter c₀ = c₁ →
      m.leavesTimer = false → act.Leads (Steady I (fun _ c _ => c = c₀) t)
        (Steady I (fun r c w => c = c₁ ∧ Settled env.policy r w) t) →
      act.Leads (Steady I (fun _ c w => c = c₀ ∧ w = w₀) t)
        (Steady I (fun r c w => c = m.completedAfter c₀ ∧ (m.leavesTimer = true ∧ w = w₀ ∨
          m.leavesTimer = false ∧ Settled env.policy r w)) t) := by
    rintro act _ rfl hm hact s hs
    exact (hact s (hs.mono fun _ _ _ hx => hx.1)).mono fun _ _ _ hx => ⟨hx.1, Or.inr ⟨hm, hx.2⟩⟩
  cases m with
  | checkRequested account snapshot => exact h.handleCheck account snapshot
  | watchdogFired id => exact hsettled rfl rfl (h.handleWatchdog id)
  | rescheduleRequested =>
    exact hsettled rfl rfl ((h.call (c := .cancelNotification none) nofun).bind_leads fun _ =>
      h.refresh_settles)
  | cancelRequested =>
    refine hsettled rfl rfl ((h.point (R := fun _ c => c = c₀) none).mono (fun _ hs => hs)
      fun _ s hs => ?_).leads
    exact hs.mono fun _ _ _ hx => ⟨hx.1, fun _ => Or.inl hx.2⟩
  | notifyRequested id => exact hsettled rfl rfl (h.handleNotify id)
  | sendPendingRequested id =>
    exact hsettled rfl rfl ((h.call (c := .sendPending id) nofun).bind_leads fun _ =>
      h.rearm_settles)
  | deleteProtocolRequested protocol => exact hsettled rfl rfl (h.handleDeleteProtocol protocol)
  | checkProgress id mailbox progress error count =>
    intro s hs
    exact ((h.handleProgress id mailbox progress error count).leads s hs).mono fun _ _ _ hx =>
      ⟨hx.1, Or.inl ⟨rfl, hx.2⟩⟩
  | checkComplete id count error => exact hsettled rfl rfl (h.handleComplete id count error)

/-- What is known of a system is known of it when the handler of a message starts. -/
theorem begun {X : Registry → List Int → Option Wake → Prop} {s : System ω} (hs : Steady I X t s)
    (m : Message) : Steady I X t (s.begun env m) := by
  have hreconciled := (h.respects X t).spares.reconcile s hs
  exact ⟨hreconciled.world, hreconciled.clock, hreconciled.holds⟩

/-- Handling a message leads where its handler leads, as far as the journal does not matter. -/
theorem process {m : Message} {X : Registry → List Int → Option Wake → Prop} {Q : System ω → Prop}
    (hm : (MailSchedule.handle env m).Leads (Steady I X t) Q)
    (hQ : ∀ s j, Q s → Q { s with journal := j }) :
    (process env m).Leads (Steady I X t) Q := by
  intro s hs
  obtain ⟨j, hj⟩ := process_snd env m s
  rw [hj]
  exact hQ _ j (hm _ (h.begun hs m))

/-! ## Courses of events -/

/-- What the poller remembers of checks, and what the wake timer holds, when the next message was
handled. -/
theorem after_next {s : System ω} (hs : I s.world) {m : Message} {rest : List Message}
    (hqueue : s.core.queue = m :: rest) :
    Steady I (fun r c w => c = m.completedAfter s.core.completed ∧
      (m.leavesTimer = true ∧ w = s.timer ∨ m.leavesTimer = false ∧ Settled env.policy r w)) s.clock
      (Occurrence.next.after env s) := by
  rw [after_next_cons env hqueue]
  exact h.process (h.handle m) (fun s j hs => ⟨hs.world, hs.clock, hs.holds⟩) _
    ⟨hs, Int.le_refl _, rfl, rfl⟩

/-- Unless a message is handled, what happens to a poller changes nothing of this, and of the
registry at most the counts. -/
theorem after_aside {o : Occurrence ω} (ho : o.Within I) (hnext : o ≠ .next)
    {X : Registry → List Int → Option Wake → Prop}
    (hcleared : ∀ r target c w, X r c w → X (r.clearCounts target) c w) {s : System ω}
    (hs : I s.world) (hX : X s.core.registry s.core.completed s.timer) :
    I (o.after env s).world ∧
      X (o.after env s).core.registry (o.after env s).core.completed (o.after env s).timer := by
  have hspares := (h.respects X s.clock).spares
  have hkeeps : ∀ act : Act ω Unit, act.Keeps (Steady I X s.clock) →
      I (act.run s).2.world ∧
        X (act.run s).2.core.registry (act.run s).2.core.completed (act.run s).2.timer := by
    intro act hact
    have hafter := hact s ⟨hs, Int.le_refl _, hX⟩
    exact ⟨hafter.world, hafter.holds⟩
  cases o with
  | submit m => exact hkeeps _ (hspares.submit fun _ hs => ⟨hs.world, hs.clock, hs.holds⟩)
  | wake payload => exact hkeeps _ (hspares.wake fun _ _ _ hs => ⟨hs.world, hs.clock, hs.holds⟩)
  | resetCounts target =>
    exact hkeeps _ (hspares.resetCounts target fun _ hs =>
      ⟨hs.world, hs.clock, hcleared _ target _ _ hs.holds⟩)
  | next => exact absurd rfl hnext
  | elapse clock world => exact ⟨ho, hX⟩

end Surroundings.Dependable

/-! ## Two accounts in memory -/

theorem Reply.Gives.yields {α : Type} {reply : Reply ω α} {I : ω → Prop} {a : α} {Q : α → Prop}
    (h : Reply.Gives reply I a) (ha : Q a) : Reply.Yields reply I Q := by
  intro w hw
  obtain ⟨w', hr, hw'⟩ := h w hw
  exact ⟨a, w', hr, hw', ha⟩

namespace Rehearsal

theorem dependable_inMemory : inMemory.Dependable OfTwoAccounts where
  staysOut := fixed_inMemory.staysOut
  time t := keepsTime_surroundings {} 1 (t ≤ ·)
  during := fixed_inMemory.during
  succeeds c s _ hs := by
    show (((surroundings {} 1 0).during c).run s).1 = .ok ()
    rw [run_during, hs.failures]
    rfl
  list := fixed_inMemory.list.yields fixed_inMemory.complete
  get id := (fixed_inMemory.get id).yields fun d hd =>
    fixed_inMemory.complete d (List.mem_of_find?_eq_some (Option.mem_toList.1 hd))
  isSyncEnabled email := (fixed_inMemory.isSyncEnabled email).yields trivial
  count id w hw := by
    obtain ⟨count, w', hr, hw', -⟩ := fixed_inMemory.count id w hw
    exact ⟨count, w', hr, hw', trivial⟩
  resetCount target w hw := by
    refine ⟨(), _, Prod.ext ?_ rfl, fixed_inMemory.resetCount target w hw, trivial⟩
    obtain ⟨r, hr, -⟩ := hw.roster
    show (ofSource (fun r => ((), r.resetCount target)) _ w).1 = .ok ()
    unfold ofSource
    rw [hr]
  idsWithProtocol protocol := (fixed_inMemory.idsWithProtocol protocol).yields trivial
  delete id w hw := by
    refine ⟨(), _, Prod.ext ?_ rfl, fixed_inMemory.delete id w hw, trivial⟩
    show (if w.deleteRemoves = true then _ else (Except.ok (), w)).1 = .ok ()
    rw [hw.deleteRemoves]
    rfl

end Rehearsal

end MailSchedule

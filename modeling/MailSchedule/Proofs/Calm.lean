import MailSchedule.Proofs.Loading
import MailSchedule.Proofs.Selecting

/-!
# Calm collaborators

Calm collaborators do their work and nothing else: only a check of mail may fail to start, and
nothing that happens during a call concerns the poller, its timer or the clock.  Among them every
action has a known outcome, in which only the journal and the world are left open.

Results:

* `Surroundings.Calm`: collaborators that are calm in the worlds of a set.
* `Passed`: a system that differs in its journal and its world alone.
* `Surroundings.Calm.call` and the like: outcomes of the actions that only ask.
* `Surroundings.Calm.rearm`: the outcome of rearming.
-/

namespace MailSchedule

variable {ω : Type}

/-! ## Journals and worlds -/

/-- The checks of mail that were requested, the latest first. -/
def checks (journal : List Event) : List Call :=
  (calls journal).filter (·.kind = .checkMail)

theorem checks_called {c : Call} (h : c.kind ≠ .checkMail) (j : List Event) :
    checks (.called c :: j) = checks j :=
  List.filter_cons_of_neg (by simpa using h)

/-- A system that differs from another one in its journal and its world alone.  The world is one of
a set, and the journal tells of the given checks since. -/
def Passed (I : ω → Prop) (l : List Call) (s s' : System ω) : Prop :=
  ∃ j w, s' = { s with journal := j, world := w } ∧ I w ∧ checks j = l ++ checks s.journal

namespace Passed

variable {I : ω → Prop} {l l' : List Call} {s s' s'' : System ω}

theorem refl (h : I s.world) : Passed I [] s s := ⟨s.journal, s.world, rfl, h, rfl⟩

theorem world (h : Passed I l s s') : I s'.world := by
  obtain ⟨j, w, rfl, hw, -⟩ := h
  exact hw

theorem checks (h : Passed I l s s') : checks s'.journal = l ++ checks s.journal := by
  obtain ⟨j, w, rfl, -, hj⟩ := h
  exact hj

theorem core (h : Passed I l s s') : s'.core = s.core := by
  obtain ⟨j, w, rfl, -, -⟩ := h
  rfl

theorem timer (h : Passed I l s s') : s'.timer = s.timer := by
  obtain ⟨j, w, rfl, -, -⟩ := h
  rfl

theorem clock (h : Passed I l s s') : s'.clock = s.clock := by
  obtain ⟨j, w, rfl, -, -⟩ := h
  rfl

theorem trans (h : Passed I l s s') (h' : Passed I l' s' s'') : Passed I (l' ++ l) s s'' := by
  obtain ⟨j, w, rfl, -, hj⟩ := h
  obtain ⟨j', w', rfl, hw', hj'⟩ := h'
  exact ⟨j', w', rfl, hw', by rw [hj', hj, List.append_assoc]⟩

theorem nil_trans (h : Passed I [] s s') (h' : Passed I l s' s'') : Passed I l s s'' := by
  have h'' := h.trans h'
  rwa [List.append_nil] at h''

theorem set_timer (h : Passed I l s s') (t : Option Wake) :
    Passed I l { s with timer := t } { s' with timer := t } := by
  obtain ⟨j, w, rfl, hw, hj⟩ := h
  exact ⟨j, w, rfl, hw, hj⟩

theorem set_core (h : Passed I l s s') (c : Core) :
    Passed I l { s with core := c } { s' with core := c } := by
  obtain ⟨j, w, rfl, hw, hj⟩ := h
  exact ⟨j, w, rfl, hw, hj⟩

/-- Entries that are no checks may be added. -/
theorem keeps_record (l : List Call) (s : System ω) {e : Event}
    (he : ∀ c, e = .called c → c.kind ≠ .checkMail) :
    Act.Keeps (record e) (Passed I l s) := by
  rintro _ ⟨j, w, rfl, hw, hj⟩
  refine ⟨e :: j, w, rfl, hw, ?_⟩
  rw [← hj]
  cases e with
  | called c => exact checks_called (he c rfl) j
  | noted n => rfl
  | began m => rfl
  | ended m => rfl

theorem keeps_note (l : List Call) (s : System ω) (n : Notice) :
    Act.Keeps (note n) (Passed I l s) := keeps_record l s nofun

theorem gives_answer {α : Type} {reply : Reply ω α} {a : α} (h : Reply.Gives reply I a)
    (l : List Call) (s : System ω) : (answer reply).Gives (Passed I l s) a := by
  refine Act.Gives.answer h (fun _ => Passed.world) ?_
  rintro _ w ⟨j, w', rfl, -, hj⟩ hw
  exact ⟨j, w, rfl, hw, hj⟩

end Passed

/-! ## Calls -/

/-- What happens during calls changes nothing but the world, which stays in a set, and no call fails
except perhaps a check of mail. -/
def Surroundings.Calm (env : Surroundings ω) (I : ω → Prop) : Prop :=
  ∀ c s, I s.world → ∃ r w, (env.during c).run s = (r, { s with world := w }) ∧ I w ∧
    (c.kind = .checkMail ∨ r = .ok ())

/-- Whether background data is enabled in a world. -/
def Surroundings.backgroundIn (env : Surroundings ω) (w : ω) : Bool :=
  match env.backgroundData with
  | none => env.policy.backgroundData
  | some enabled => enabled w

namespace Surroundings.Calm

variable {env : Surroundings ω} {I : ω → Prop} (h : env.Calm I)
include h

theorem call {c : Call} (hc : c.kind ≠ .checkMail) (l : List Call) (s : System ω) :
    (env.call c).Gives (Passed I l s) () := by
  rintro _ ⟨j, w, rfl, hw, hj⟩
  obtain ⟨r, w', hr, hw', hok⟩ := h c { s with journal := .called c :: j, world := w } hw
  refine ⟨(), { s with journal := .called c :: j, world := w' }, ?_, rfl, ?_⟩
  · rw [run_call, hr, hok.resolve_left hc]
  · exact ⟨_, w', rfl, hw', by rw [checks_called hc, hj]⟩

/-- A check of mail is recorded, whether or not it can be started. -/
theorem checkMail (id mailbox : Int) {s : System ω} (hs : I s.world) :
    ∃ w, I w ∧ (env.call (.checkMail id mailbox)).run s =
      (((env.during (.checkMail id mailbox)).run
          { s with journal := .called (.checkMail id mailbox) :: s.journal }).1,
        { s with journal := .called (.checkMail id mailbox) :: s.journal, world := w }) := by
  obtain ⟨r, w, hr, hw, -⟩ :=
    h (.checkMail id mailbox) { s with journal := .called (.checkMail id mailbox) :: s.journal } hs
  exact ⟨w, hw, by rw [run_call, hr]⟩

theorem reconcile (l : List Call) (s : System ω) :
    (reconcile env).Gives (Passed I l s) () := by
  unfold MailSchedule.reconcile
  split
  · intro s' hs'
    obtain ⟨s'', hr, hs''⟩ := (h.call (c := .reconcile) nofun l s).run hs'
    exact ⟨(), s'', by rw [Act.run_tryCatch, hr], rfl, hs''⟩
  · exact .pure ()

/-- A store that answers in the worlds of the set tells for which addresses checks are switched
on. -/
theorem tellsEnabled {enabled : Text → Bool}
    (henabled : ∀ email, Reply.Gives (env.source.isSyncEnabled email) I (enabled email))
    (l : List Call) (s : System ω) : env.TellsEnabled (Passed I l s) enabled where
  note := Passed.keeps_note l s
  call email := h.call (c := .isSyncEnabled email) nofun l s
  answer email := Passed.gives_answer (henabled email) l s

theorem rowsFor_all {rows : List Account.Draft} (hlist : Reply.Gives env.source.list I rows)
    {mode : LoadMode} (hmode : mode = .fillIfEmpty ∨ mode = .forceReset) (l : List Call)
    (s : System ω) : (rowsFor env mode).Gives (Passed I l s) rows := by
  have hall : Act.Gives (do
      env.call .listAccounts
      answer env.source.list) (Passed I l s) rows :=
    (h.call (c := .listAccounts) nofun l s).bind (Passed.gives_answer hlist l s)
  rcases hmode with rfl | rfl <;> exact hall

theorem rowsFor_one {id : Int} {row : Option Account.Draft}
    (hget : Reply.Gives (env.source.get id) I row) (l : List Call) (s : System ω) :
    (rowsFor env (.one id)).Gives (Passed I l s) row.toList :=
  (h.call (c := .getAccount id) nofun l s).bind ((Passed.gives_answer hget l s).bind (.pure _))

/-- Someone who knows is asked whether background data is enabled. -/
theorem backgroundDataEnabled {s : System ω} (hs : I s.world) :
    ∃ s', Passed I [] s s' ∧
      (backgroundDataEnabled env).run s = (.ok (env.backgroundIn s'.world), s') := by
  unfold MailSchedule.backgroundDataEnabled Surroundings.backgroundIn
  cases env.backgroundData with
  | none => exact ⟨s, .refl hs, rfl⟩
  | some enabled =>
    obtain ⟨s', hs', hr⟩ := (h.call (c := .backgroundData) nofun [] s).run_bind (.refl hs) _
    exact ⟨s', hs', hr⟩

/-- The inbox of an account is answered in the world in which asking for it ends. -/
theorem findInbox (id : Int) {s : System ω} (hs : I s.world) :
    let s' := ((env.call (.findInbox id)).run s).2
    Passed I [] s s' ∧ (findInbox env id).run s = (.ok (env.checker.inbox id s'.world), s') := by
  obtain ⟨s', hr, hs'⟩ := (h.call (c := .findInbox id) nofun [] s).run (.refl hs)
  unfold MailSchedule.findInbox
  rw [Act.run_bind, hr]
  exact ⟨hs', rfl⟩

/-! ## The wake timer -/

theorem arm (time : Int) (payload : Payload) {s : System ω} (hs : I s.world) :
    ∃ s', (arm env time payload).run s = (.ok (), s') ∧
      Passed I [] { s with timer := some ⟨time, payload⟩ } s' := by
  obtain ⟨s', hs', hr⟩ := (h.call (c := .arm time payload) nofun [] s).run_bind (.refl hs) _
  exact ⟨_, hr, hs'.set_timer _⟩

theorem disarm {s : System ω} (hs : I s.world) :
    ∃ s', (disarm env).run s = (.ok (), s') ∧ Passed I [] { s with timer := none } s' := by
  obtain ⟨s', hs', hr⟩ := (h.call (c := .cancelTimer) nofun [] s).run_bind (.refl hs) _
  exact ⟨_, hr, hs'.set_timer _⟩

theorem point (w : Option Wake) {s : System ω} (hs : I s.world) :
    ∃ s', (point env w).run s = (.ok (), s') ∧ Passed I [] { s with timer := w } s' := by
  cases w with
  | none => exact h.disarm hs
  | some w => exact h.arm w.time w.payload hs

/-- The timer comes to point at the account that is due next, if the wake for it can be written. -/
theorem rearm {s : System ω} (hs : I s.world) (hids : s.core.registry.ids ≠ []) :
    ∃ r s', (rearm env).run s = (r, s') ∧
      Passed I [] { s with timer := s.core.registry.timerAt s.clock s.timer } s' := by
  rw [run_rearm env hids]
  unfold Registry.timerAt
  split
  · obtain ⟨s', hr, hs'⟩ := h.point (s.core.registry.wakeAt s.clock) hs
    exact ⟨.ok (s.core.registry.pickNext s.clock), s', by rw [Act.run_bind, hr]; rfl, hs'⟩
  · exact ⟨_, s, rfl, .refl hs⟩

end Surroundings.Calm

end MailSchedule

import MailSchedule.Proofs.Actions

/-!
# What collaborators may do

While a collaborator is being called anything may happen, and it may answer with a fault at any
time.  What the poller does in between can only be trusted as far as collaborators respect it.

Results:

* `Surroundings.Spares`, `Surroundings.Respects`: a property of systems that no collaborator breaks,
  except perhaps when the wake timer is pointed at a time or new mail is announced, or not even
  then.
* `Surroundings.Abides`: a property that nothing breaks which handlers ask for in passing.
* `Surroundings.Informs`: a property that nothing breaks which loading asks for.
* `Surroundings.Abides.tryStart` and the like: what is kept by actions that only ask.
* `Surroundings.Abides.rearm`, `Act.Keeps.announce` and the like: what is kept by actions that
  change one thing besides.
* `Surroundings.StaysOut`: collaborators that leave the poller and its wake timer alone.
-/

namespace MailSchedule

variable {ω : Type}

/-- What is forgotten before a check concerns neither the registry nor the queue. -/
theorem Act.Keeps.openCheck {env : Surroundings ω} {P : System ω → Prop} {id : Int}
    (haside : ∀ s c, P s → c.registry = s.core.registry → c.queue = s.core.queue →
      P { s with core := c }) (hwatchdog : (armWatchdog env id).Keeps P) :
    (openCheck env id).Keeps P :=
  Act.Keeps.bind (fun s hs => haside s _ hs rfl rfl) fun _ => hwatchdog.bind fun _ => .pure _

/-- Someone who knows is asked whether background data is enabled. -/
theorem Act.Keeps.backgroundDataEnabled {env : Surroundings ω} {P : System ω → Prop}
    (hcall : (env.call .backgroundData).Keeps P) : (backgroundDataEnabled env).Keeps P := by
  unfold MailSchedule.backgroundDataEnabled
  split
  · exact .pure _
  · exact hcall.bind fun _ => Act.Keeps.get.bind fun _ => .pure _

theorem Act.Keeps.findInbox {env : Surroundings ω} {P : System ω → Prop} {id : Int}
    (hcall : (env.call (.findInbox id)).Keeps P) : (findInbox env id).Keeps P :=
  hcall.bind fun _ => Act.Keeps.get.bind fun _ => .pure _

theorem Act.Keeps.announce {env : Surroundings ω} {P : System ω → Prop} (id : Int)
    (hshow : ∀ id unseen new, (env.call (.showNotification id unseen new)).Keeps P)
    (hannounced : ∀ s, P s → P { s with core := { s.core with
      registry := s.core.registry.modify id fun r => { r with lastUnseen := r.unseen } } }) :
    (announce env id).Keeps P := by
  refine Act.Keeps.registry.bind fun r => ?_
  cases r.newMail? id with
  | none => exact .pure _
  | some mail =>
    exact Act.Keeps.bind (fun s hs => hannounced s hs) fun _ =>
      (hshow _ _ _).bind fun _ => .pure _

section

variable {env : Surroundings ω} {P : System ω → Prop}
  (harm : ∀ time payload, (env.call (.arm time payload)).Keeps P)
  (htimer : ∀ s w, P s → P { s with timer := w })
include harm htimer

theorem Act.Keeps.arm (time : Int) (payload : Payload) : (arm env time payload).Keeps P :=
  (harm time payload).bind fun _ => fun s hs => htimer s _ hs

theorem Act.Keeps.armWatchdog (id : Int) : (armWatchdog env id).Keeps P :=
  Act.Keeps.now.bind fun _ => (Act.Keeps.resultOf _).bind fun _ =>
    (Act.Keeps.arm harm htimer _ _).bind fun _ => .pure _

end

/-! ## Properties that collaborators respect -/

/-- An answer changes the world, and perhaps adds a line to the log. -/
theorem Act.Keeps.answer {α : Type} {P : System ω → Prop} (reply : Reply ω α)
    (hnote : ∀ n, Act.Keeps (note n) P)
    (hworld : ∀ s, P s → P { s with world := (reply s.world).2 }) : (answer reply).Keeps P := by
  intro s hs
  have h := hworld s hs
  rcases hr : reply s.world with ⟨r, w⟩
  rw [hr] at h
  cases r with
  | ok a =>
    rw [run_answer_ok s hr]
    exact h
  | error e =>
    rw [run_answer_error s hr]
    dsimp only
    split
    · exact hnote _ _ h
    · exact h

/-- Neither what happens during calls nor what is answered breaks a property of systems. -/
structure Surroundings.Respects (env : Surroundings ω) (P : System ω → Prop) : Prop where
  record : ∀ e, Act.Keeps (record e) P
  during : ∀ c, (env.during c).Keeps P
  list : (answer env.source.list).Keeps P
  get : ∀ id, (answer (env.source.get id)).Keeps P
  isSyncEnabled : ∀ email, (answer (env.source.isSyncEnabled email)).Keeps P
  count : ∀ id, (answer (env.source.count id)).Keeps P
  resetCount : ∀ target, (answer (env.source.resetCount target)).Keeps P
  idsWithProtocol : ∀ protocol, (answer (env.source.idsWithProtocol protocol)).Keeps P
  delete : ∀ id, (answer (env.checker.delete id)).Keeps P

/-- A call that neither points the wake timer at a time nor announces new mail. -/
def Call.Plain (c : Call) : Prop := c.kind ≠ .arm ∧ c.kind ≠ .showNotification

/-- Neither what happens during calls nor what is answered breaks a property of systems, as long as
the wake timer is not pointed at a time and no new mail is announced. -/
structure Surroundings.Spares (env : Surroundings ω) (P : System ω → Prop) : Prop where
  record : ∀ e, (∀ c, e = .called c → c.Plain) → Act.Keeps (record e) P
  during : ∀ c, c.Plain → (env.during c).Keeps P
  list : (answer env.source.list).Keeps P
  get : ∀ id, (answer (env.source.get id)).Keeps P
  isSyncEnabled : ∀ email, (answer (env.source.isSyncEnabled email)).Keeps P
  count : ∀ id, (answer (env.source.count id)).Keeps P
  resetCount : ∀ target, (answer (env.source.resetCount target)).Keeps P
  idsWithProtocol : ∀ protocol, (answer (env.source.idsWithProtocol protocol)).Keeps P
  delete : ∀ id, (answer (env.checker.delete id)).Keeps P

/-- A call that loading makes. -/
def Call.Informing (c : Call) : Prop :=
  c.kind = .listAccounts ∨ c.kind = .getAccount ∨ c.kind = .isSyncEnabled

/-- Neither what loading calls, nor what it has answered, nor lines in the log break a property of
systems. -/
structure Surroundings.Informs (env : Surroundings ω) (P : System ω → Prop) : Prop where
  note : ∀ n, Act.Keeps (note n) P
  call : ∀ c, c.Informing → (env.call c).Keeps P
  list : (answer env.source.list).Keeps P
  get : ∀ id, (answer (env.source.get id)).Keeps P
  isSyncEnabled : ∀ email, (answer (env.source.isSyncEnabled email)).Keeps P

namespace Surroundings.Informs

variable {env : Surroundings ω} {P : System ω → Prop} (h : env.Informs P)
include h

theorem rowsFor (mode : LoadMode) : (rowsFor env mode).Keeps P := by
  cases mode with
  | one id =>
    exact (h.call (.getAccount id) (Or.inr (Or.inl rfl))).bind fun _ =>
      (h.get id).bind fun _ => .pure _
  | fillIfEmpty => exact (h.call .listAccounts (Or.inl rfl)).bind fun _ => h.list
  | forceReset => exact (h.call .listAccounts (Or.inl rfl)).bind fun _ => h.list

theorem buildReport (d : Account.Draft) : (buildReport env d).Keeps P :=
  (Act.Keeps.resultOf _).bind fun _ =>
    (h.call (.isSyncEnabled _) (Or.inr (Or.inr rfl))).bind fun _ =>
      (h.isSyncEnabled _).bind fun _ => (Act.Keeps.resultOf _).bind fun _ => .pure _

theorem buildReports (built : Registry) (ds : List Account.Draft) :
    (buildReports env built ds).Keeps P := by
  induction ds generalizing built with
  | nil => exact .pure _
  | cons d rest ih => exact .ite ((h.buildReport d).bind fun _ => ih _) (ih _)

end Surroundings.Informs

/-- A call that handlers make in passing: it neither points the wake timer at a time nor announces
new mail, and does not have the accounts reconciled. -/
def Call.Passing (c : Call) : Prop :=
  c.kind ≠ .arm ∧ c.kind ≠ .showNotification ∧ c.kind ≠ .reconcile

/-- Neither what is called in passing, nor what is answered, nor lines in the log break a property
of systems. -/
structure Surroundings.Abides (env : Surroundings ω) (P : System ω → Prop) : Prop where
  note : ∀ n, Act.Keeps (note n) P
  call : ∀ c, c.Passing → (env.call c).Keeps P
  list : (answer env.source.list).Keeps P
  get : ∀ id, (answer (env.source.get id)).Keeps P
  isSyncEnabled : ∀ email, (answer (env.source.isSyncEnabled email)).Keeps P
  count : ∀ id, (answer (env.source.count id)).Keeps P
  idsWithProtocol : ∀ protocol, (answer (env.source.idsWithProtocol protocol)).Keeps P
  delete : ∀ id, (answer (env.checker.delete id)).Keeps P

theorem Call.Informing.passing {c : Call} (h : c.Informing) : c.Passing := by
  unfold Passing
  rcases h with h | h | h <;> rw [h] <;> exact ⟨nofun, nofun, nofun⟩

namespace Surroundings.Abides

variable {env : Surroundings ω} {P : System ω → Prop} (h : env.Abides P)
include h

theorem informs : env.Informs P :=
  { h with call := fun c hc => h.call c hc.passing }

theorem backgroundDataEnabled : (backgroundDataEnabled env).Keeps P :=
  .backgroundDataEnabled (h.call .backgroundData ⟨nofun, nofun, nofun⟩)

theorem findInbox (id : Int) : (findInbox env id).Keeps P :=
  .findInbox (h.call (.findInbox id) ⟨nofun, nofun, nofun⟩)

theorem startCheck (id : Int) : (startCheck env id).Keeps P := by
  refine (h.findInbox id).bind fun inbox => ?_
  cases inbox with
  | none => exact .pure _
  | some mailbox =>
    have hstart := (h.call (.checkMail id mailbox) ⟨nofun, nofun, nofun⟩).bind fun _ =>
      Act.Keeps.pure true
    exact hstart.tryCatch fun _ => (h.note _).bind fun _ => .pure _

theorem tryStart (id : Int) : (tryStart env id).Keeps P := by
  refine h.backgroundDataEnabled.bind fun enabled => .ite ?_ (.pure _)
  refine Act.Keeps.registry.bind fun r => ?_
  cases r.find? id with
  | none => exact .pure _
  | some report => exact .ite (h.startCheck id) (.pure _)

theorem deleteAccounts (ids : List Int) : (deleteAccounts env ids).Keeps P := by
  induction ids with
  | nil => exact .pure _
  | cons id rest ih =>
    exact (h.call (.deleteAccount id) ⟨nofun, nofun, nofun⟩).bind fun _ =>
      (h.delete id).bind fun _ => ih

/-! ## The wake timer -/

theorem disarm (htimer : ∀ s w, P s → P { s with timer := w }) : (disarm env).Keeps P :=
  (h.call .cancelTimer ⟨nofun, nofun, nofun⟩).bind fun _ => fun s hs => htimer s _ hs

/-- Rearming leads where loading leads. -/
theorem rearm {Q : System ω → Prop} (harm : ∀ time payload, (env.call (.arm time payload)).Keeps P)
    (htimer : ∀ s w, P s → P { s with timer := w })
    (hload : (load env .fillIfEmpty).Leads Q P) : (rearm env).Leads Q P := by
  refine hload.bind (fun _ hs => hs) fun _ => Act.Keeps.bind ?_ fun selection => ?_
  · exact Act.Keeps.registry.bind fun _ => Act.Keeps.now.bind fun _ => .pure _
  · cases selection.account with
    | none => exact (h.disarm htimer).bind fun _ => .pure _
    | some id =>
      exact (Act.Keeps.registry.bind fun _ => .pure _).bind fun _ =>
        (Act.Keeps.resultOf _).bind fun _ => (Act.Keeps.arm harm htimer _ _).bind fun _ => .pure _

end Surroundings.Abides

namespace Surroundings.Respects

variable {env : Surroundings ω} {P : System ω → Prop}

/-- Of a property that tells nothing about the world only what is recorded and what happens during
calls matters. -/
theorem of_record (hrecord : ∀ e, Act.Keeps (MailSchedule.record e) P)
    (hduring : ∀ c, (env.during c).Keeps P) (hworld : ∀ s w, P s → P { s with world := w }) :
    env.Respects P := by
  have hanswer : ∀ {α : Type} (reply : Reply ω α), (answer reply).Keeps P := fun reply =>
    .answer reply (fun n => hrecord (.noted n)) fun s hs => hworld s _ hs
  exact {
    record := hrecord
    during := hduring
    list := hanswer _
    get := fun _ => hanswer _
    isSyncEnabled := fun _ => hanswer _
    count := fun _ => hanswer _
    resetCount := fun _ => hanswer _
    idsWithProtocol := fun _ => hanswer _
    delete := fun _ => hanswer _ }

/-- Of one that tells nothing about the journal either, only what happens during calls. -/
theorem of_during (hP : ∀ s j w, P s → P { s with journal := j, world := w })
    (hduring : ∀ c, (env.during c).Keeps P) : env.Respects P :=
  .of_record (fun e s hs => hP s (e :: s.journal) s.world hs) hduring
    fun s w hs => hP s s.journal w hs

theorem and {Q : System ω → Prop} (h : env.Respects P) (h' : env.Respects Q) :
    env.Respects fun s => P s ∧ Q s where
  record e := (h.record e).and (h'.record e)
  during c := (h.during c).and (h'.during c)
  list := h.list.and h'.list
  get id := (h.get id).and (h'.get id)
  isSyncEnabled email := (h.isSyncEnabled email).and (h'.isSyncEnabled email)
  count id := (h.count id).and (h'.count id)
  resetCount target := (h.resetCount target).and (h'.resetCount target)
  idsWithProtocol protocol := (h.idsWithProtocol protocol).and (h'.idsWithProtocol protocol)
  delete id := (h.delete id).and (h'.delete id)

theorem spares (h : env.Respects P) : env.Spares P :=
  { h with
    record := fun e _ => h.record e
    during := fun c _ => h.during c }

theorem call (h : env.Respects P) (c : Call) : (env.call c).Keeps P :=
  (h.record _).bind fun _ => h.during c

end Surroundings.Respects

namespace Surroundings.Spares

variable {env : Surroundings ω} {P : System ω → Prop}

/-- Of a property that tells nothing about the world only what is recorded and what happens during
calls matters. -/
theorem of_record (hrecord : ∀ e, (∀ c, e = .called c → c.Plain) →
      Act.Keeps (MailSchedule.record e) P)
    (hduring : ∀ c, c.Plain → (env.during c).Keeps P)
    (hworld : ∀ s w, P s → P { s with world := w }) : env.Spares P := by
  have hanswer : ∀ {α : Type} (reply : Reply ω α), (answer reply).Keeps P := fun reply =>
    .answer reply (fun n => hrecord (.noted n) nofun) fun s hs => hworld s _ hs
  exact {
    record := hrecord
    during := hduring
    list := hanswer _
    get := fun _ => hanswer _
    isSyncEnabled := fun _ => hanswer _
    count := fun _ => hanswer _
    resetCount := fun _ => hanswer _
    idsWithProtocol := fun _ => hanswer _
    delete := fun _ => hanswer _ }

variable (h : env.Spares P)
include h

theorem note (n : Notice) : Act.Keeps (note n) P := h.record (.noted n) nofun

theorem call (c : Call) (hc : c.Plain) : (env.call c).Keeps P :=
  (h.record _ (by rintro _ ⟨rfl⟩; exact hc)).bind fun _ => h.during c hc

theorem abides : env.Abides P :=
  { h with
    note := h.note
    call := fun c hc => h.call c ⟨hc.1, hc.2.1⟩ }

theorem findInbox (id : Int) : (findInbox env id).Keeps P := h.abides.findInbox id

theorem tryStart (id : Int) : (tryStart env id).Keeps P := h.abides.tryStart id

theorem deleteAccounts (ids : List Int) : (deleteAccounts env ids).Keeps P :=
  h.abides.deleteAccounts ids

theorem reconcile : (reconcile env).Keeps P :=
  .ite ((h.call .reconcile ⟨nofun, nofun⟩).tryCatch fun _ => h.note _) (.pure _)

/-- What surrounds the handling of a message only asks and records. -/
theorem process {m : Message} (hm : (handle env m).Keeps P) : (process env m).Keeps P :=
  h.reconcile.bind fun _ => (h.record (.began m) nofun).bind fun _ =>
    (hm.tryCatch fun _ => h.note _).bind fun _ => h.record (.ended m) nofun

/-! ## Actions with one elementary change -/

/-- Forgetting counts leads where their being cleared leads. -/
theorem resetCounts {Q : System ω → Prop} (target : Option Int)
    (hcleared : ∀ s, Q s → P { s with core := { s.core with
      registry := s.core.registry.clearCounts target } }) : (resetCounts env target).Leads Q P :=
  Act.Leads.bind (fun s hs => hcleared s hs) (fun _ hs => hs) fun _ =>
    (h.call (.cancelNotification target) ⟨nofun, nofun⟩).bind fun _ =>
      (h.call (.resetNewMessageCount target) ⟨nofun, nofun⟩).bind fun _ => h.resetCount target

/-- A message enters the queue, unless it is dropped. -/
theorem submit {m : Message}
    (hqueued : ∀ s, P s → P { s with core := { s.core with queue := s.core.queue ++ [m] } }) :
    Act.Keeps (submit m) P :=
  Act.Keeps.core.bind fun _ => .ite (h.note _) fun s hs => hqueued s hs

/-- The message of a payload enters the queue, or that of the bare snapshot. -/
theorem wake {payload : Option Payload} (hqueued : ∀ snapshot : Snapshot,
      Snapshot.decode payload = .ok snapshot ∨ snapshot = {} → ∀ s, P s →
        P { s with core := { s.core with queue := s.core.queue ++ [snapshot.message] } }) :
    Act.Keeps (wake payload) P := by
  unfold MailSchedule.wake
  cases hdecode : Snapshot.decode payload with
  | ok snapshot => exact h.submit (hqueued snapshot (Or.inl hdecode))
  | error e =>
    exact .ite ((h.note _).bind fun _ => h.submit (hqueued {} (Or.inr rfl))) (.throw _)

end Surroundings.Spares

namespace Surroundings.Respects

variable {env : Surroundings ω} {P : System ω → Prop} (h : env.Respects P)
include h

theorem announce (id : Int) (hannounced : ∀ s, P s → P { s with core := { s.core with
      registry := s.core.registry.modify id fun r => { r with lastUnseen := r.unseen } } }) :
    (announce env id).Keeps P :=
  .announce id (fun _ _ _ => h.call _) hannounced

variable (htimer : ∀ s w, P s → P { s with timer := w })
include htimer

theorem armWatchdog (id : Int) : (armWatchdog env id).Keeps P :=
  .armWatchdog (fun _ _ => h.call _) htimer id

theorem rearm {Q : System ω → Prop} (hload : (load env .fillIfEmpty).Leads Q P) :
    (rearm env).Leads Q P :=
  h.spares.abides.rearm (fun _ _ => h.call _) htimer hload

end Surroundings.Respects

/-! ## Collaborators that stay out -/

/-- A system in which the poller remembers what it did before, but for messages put into its queue,
and the wake timer is as it was. -/
structure Untouched (s s' : System ω) : Prop where
  core : ∃ ms, s'.core = { s.core with queue := s.core.queue ++ ms }
  timer : s'.timer = s.timer

namespace Untouched

variable {s s' : System ω}

theorem refl (s : System ω) : Untouched s s where
  core := ⟨[], by simp⟩
  timer := rfl

theorem trans {s'' : System ω} (h : Untouched s s') (h' : Untouched s' s'') :
    Untouched s s'' where
  core := by
    obtain ⟨ms, hms⟩ := h.core
    obtain ⟨ms', hms'⟩ := h'.core
    exact ⟨ms ++ ms', by rw [hms', hms, List.append_assoc]⟩
  timer := h'.timer.trans h.timer

theorem registry (h : Untouched s s') : s'.core.registry = s.core.registry := by
  obtain ⟨ms, hms⟩ := h.core
  rw [hms]

theorem completed (h : Untouched s s') : s'.core.completed = s.core.completed := by
  obtain ⟨ms, hms⟩ := h.core
  rw [hms]

end Untouched

/-- Collaborators leave the poller and its wake timer alone: at most they put messages into its
queue. -/
def Surroundings.StaysOut (env : Surroundings ω) : Prop :=
  ∀ c s, Untouched s ((env.during c).run s).2

/-- A property of times that no call breaks. -/
def Surroundings.KeepsTime (env : Surroundings ω) (T : Int → Prop) : Prop :=
  ∀ c, (env.during c).Keeps fun s => T s.clock

namespace Surroundings.StaysOut

variable {env : Surroundings ω}

theorem call (h : env.StaysOut) (c : Call) (s : System ω) :
    Untouched s ((env.call c).run s).2 := by
  have h1 := h c { s with journal := .called c :: s.journal }
  exact ⟨h1.core, h1.timer⟩

/-- What holds of the registry, of the completed checks and of the wake timer is respected by
collaborators that stay out, together with what no call breaks about the time. -/
theorem respects (h : env.StaysOut) {T : Int → Prop} (hT : env.KeepsTime T)
    (R : Registry → List Int → Option Wake → Prop) :
    env.Respects fun s => R s.core.registry s.core.completed s.timer ∧ T s.clock := by
  refine .of_during (fun s j w hs => hs) fun c s hs => ?_
  have h1 := h c s
  rw [h1.registry, h1.completed, h1.timer]
  exact ⟨hs.1, hT c s hs.2⟩

/-- What the poller remembers is respected by them as far as it does not concern its queue. -/
theorem respects_core (h : env.StaysOut) {R : Core → Prop}
    (hR : ∀ c q, R c → R { c with queue := q }) : env.Respects fun s => R s.core := by
  refine .of_during (fun s j w hs => hs) fun c s hs => ?_
  obtain ⟨ms, hms⟩ := (h c s).core
  rw [hms]
  exact hR _ _ hs

/-- Nothing happens to what is tracked before the handler of a message starts. -/
theorem registry_begun (h : env.StaysOut) (m : Message) (s : System ω) :
    (s.begun env m).core.registry = s.core.registry :=
  (h.respects_core (R := fun c => c.registry = s.core.registry) fun _ _ hc => hc).spares.reconcile
    s rfl

end Surroundings.StaysOut

end MailSchedule

import MailSchedule.Proofs.Course
import MailSchedule.Proofs.Rehearsing

/-!
# Operations that fail change nothing

The operations on the registry ask the account store, which may refuse to answer at any point, be it
halfway through the rows.  An operation that fails for this leaves the registry as it was, as long
as nobody else changes the registry meanwhile.  So does a message whose handler fails in such an
operation: the registry is then as the operation found it.

Results:

* `Act.FailsIn`: an action that fails in one of its parts, and where that part started.
* `Act.Traced`: an action that fails only in parts of a kind.
* `RegistryOperation.registry_of_error`: an operation on the registry that fails leaves it alone.
* `traced_handle`: handlers fail in operations on the registry, in requests to others, or in writing
  what the wake timer is to carry.
* `failing_operations_change_nothing`: both kinds of failure, for operations and for messages.
-/

namespace MailSchedule

variable {ω α β : Type}

/-! ## Where an action fails -/

/-- An action, started in a system, fails in a part of a kind, and that part started in another
system: the parts before it have succeeded. -/
inductive Act.FailsIn (kind : (α : Type) → Act ω α → Prop) (started : System ω) (e : Fault) :
    {α : Type} → Act ω α → System ω → Prop
  | part {α : Type} {act : Act ω α} : kind α act → (act.run started).1 = .error e →
    FailsIn kind started e act started
  | first {α β : Type} {act : Act ω α} {next : α → Act ω β} {s : System ω} :
    FailsIn kind started e act s → FailsIn kind started e (act >>= next) s
  | next {α β : Type} {act : Act ω α} {next : α → Act ω β} {s s' : System ω} {a : α} :
    act.run s = (.ok a, s') → FailsIn kind started e (next a) s' →
    FailsIn kind started e (act >>= next) s

/-- The whole fails as its part does, and leaves what the part leaves. -/
theorem Act.FailsIn.exists_part {kind : (α : Type) → Act ω α → Prop} {started s : System ω}
    {e : Fault} {act : Act ω α} (h : act.FailsIn kind started e s) :
    ∃ (β : Type) (part : Act ω β) (s' : System ω), kind β part ∧
      part.run started = (.error e, s') ∧ act.run s = (.error e, s') := by
  induction h with
  | part hkind hr => exact ⟨_, _, _, hkind, Prod.ext hr rfl, Prod.ext hr rfl⟩
  | first _ ih =>
    obtain ⟨β, part, s', hkind, hpart, hr⟩ := ih
    exact ⟨β, part, s', hkind, hpart, by rw [Act.run_bind, hr]⟩
  | next hfirst _ ih =>
    obtain ⟨β, part, s', hkind, hpart, hr⟩ := ih
    exact ⟨β, part, s', hkind, hpart, by rw [Act.run_bind, hfirst]; exact hr⟩

/-- If there are two kinds of parts, it is one of either kind that fails. -/
theorem Act.FailsIn.either {kind kind' : (α : Type) → Act ω α → Prop} {started s : System ω}
    {e : Fault} {act : Act ω α}
    (h : act.FailsIn (fun α part => kind α part ∨ kind' α part) started e s) :
    act.FailsIn kind started e s ∨ act.FailsIn kind' started e s := by
  induction h with
  | part hkind hr => exact hkind.imp (.part · hr) (.part · hr)
  | first _ ih => exact ih.imp .first .first
  | next hfirst _ ih => exact ih.imp (.next hfirst) (.next hfirst)

/-- An action that fails only in parts of a kind. -/
def Act.Traced (kind : (α : Type) → Act ω α → Prop) (act : Act ω α) : Prop :=
  ∀ s e, (act.run s).1 = .error e → ∃ started, act.FailsIn kind started e s

namespace Act.Traced

variable {kind : (α : Type) → Act ω α → Prop}

theorem part {act : Act ω α} (h : kind α act) : act.Traced kind :=
  fun s _ hr => ⟨s, .part h hr⟩

/-- There is nothing to tell of an action that does not fail. -/
theorem of_ok {act : Act ω α} (h : ∀ s, ∃ a, (act.run s).1 = .ok a) : act.Traced kind := by
  intro s e hr
  obtain ⟨a, ha⟩ := h s
  rw [ha] at hr
  cases hr

theorem pure (a : α) : Act.Traced kind (Pure.pure a : Act ω α) := of_ok fun _ => ⟨a, rfl⟩

theorem bind {act : Act ω α} {next : α → Act ω β} (h : act.Traced kind)
    (hnext : ∀ a, (next a).Traced kind) : (act >>= next).Traced kind := by
  intro s e hr
  rw [Act.run_bind] at hr
  rcases hfirst : act.run s with ⟨_ | a, s'⟩
  · rw [hfirst] at hr
    cases hr
    obtain ⟨started, hfails⟩ := h s _ (congrArg Prod.fst hfirst)
    exact ⟨started, .first hfails⟩
  · rw [hfirst] at hr
    obtain ⟨started, hfails⟩ := hnext a s' e hr
    exact ⟨started, .next hfirst hfails⟩

theorem ite {c : Prop} [Decidable c] {act act' : Act ω α} (h : act.Traced kind)
    (h' : act'.Traced kind) : Act.Traced kind (if c then act else act') := by
  split
  · exact h
  · exact h'

end Act.Traced

/-! ## Operations on the registry -/

/-- The operations that have the account store asked for what is to be tracked. -/
inductive RegistryOperation (env : Surroundings ω) : (α : Type) → Act ω α → Prop
  | load (mode : LoadMode) : RegistryOperation env Unit (load env mode)
  | refresh : RegistryOperation env Unit (refresh env)
  | restore (saved : Snapshot) : RegistryOperation env Unit (restore env saved)
  | update (id : Int) (unseen : Option Int) :
    RegistryOperation env (Option Report) (update env id unseen)

/-- No call changes the accounts tracked or their reports. -/
def Surroundings.LeavesRegistry (env : Surroundings ω) : Prop :=
  ∀ c r, (env.during c).Keeps fun s => s.core.registry = r

theorem Surroundings.StaysOut.leavesRegistry {env : Surroundings ω} (h : env.StaysOut) :
    env.LeavesRegistry := fun c _ s hs => (h c s).registry.trans hs

theorem Surroundings.LeavesRegistry.respects {env : Surroundings ω} (h : env.LeavesRegistry)
    (r : Registry) : env.Respects fun s => s.core.registry = r :=
  .of_during (fun _ _ _ hs => hs) fun c => h c r

/-- An operation on the registry that fails leaves it alone. -/
theorem RegistryOperation.registry_of_error {env : Surroundings ω} (h : env.LeavesRegistry)
    {act : Act ω α} (hact : RegistryOperation env α act) {s s' : System ω} {e : Fault}
    (hr : act.run s = (.error e, s')) : s'.core.registry = s.core.registry := by
  have habides := (h.respects s.core.registry).spares.abides
  have hload : ∀ mode, (MailSchedule.load env mode).run s = (.error e, s') →
      s'.core.registry = s.core.registry := by
    intro mode hr
    rcases load_cases habides.informs mode rfl with ⟨-, hr'⟩ |
      ⟨-, ⟨e', s'', hr', hs⟩ | ⟨_, _, _, -, hr', -⟩⟩
    · rw [hr'] at hr
      cases hr
    · rw [hr'] at hr
      cases hr
      exact hs
    · rw [hr'] at hr
      cases hr
  cases hact with
  | load mode => exact hload mode hr
  | refresh =>
    obtain ⟨s'', hs, ⟨e', hr'⟩ | ⟨built, -, hr'⟩⟩ := refresh_cases habides (s := s) rfl
    · rw [hr'] at hr
      cases hr
      exact hs
    · rw [hr'] at hr
      cases hr
  | restore saved =>
    -- Once the registry is filled, filling times in does not fail.
    unfold MailSchedule.restore at hr
    rw [Act.run_bind] at hr
    rcases hfill : (MailSchedule.load env .fillIfEmpty).run s with ⟨_ | _, s''⟩
    · rw [hfill] at hr
      cases hr
      exact hload _ hfill
    · rw [hfill] at hr
      cases hr
  | update id unseen =>
    rw [run_update] at hr
    rcases hone : (MailSchedule.load env (.one id)).run s with ⟨_ | _, s''⟩
    · rw [hone] at hr
      cases hr
      exact hload _ hone
    · rw [hone] at hr
      cases hr

/-! ## What handlers consist of -/

/-- What handlers do by themselves that may fail: calls that do not serve loading, answers to them,
and writing what the wake timer is to carry. -/
inductive OtherRequest (env : Surroundings ω) : (α : Type) → Act ω α → Prop
  | call (c : Call) : ¬c.Informing → OtherRequest env Unit (env.call c)
  | count (id : Int) : OtherRequest env (Option Int) (answer (env.source.count id))
  | idsWithProtocol (protocol : Text) :
    OtherRequest env (List Int) (answer (env.source.idsWithProtocol protocol))
  | delete (id : Int) : OtherRequest env Unit (answer (env.checker.delete id))
  | payload (saved : Snapshot) : OtherRequest env Payload (resultOf saved.payload)

/-- The parts in which handlers may fail. -/
def HandlerPart (env : Surroundings ω) (α : Type) (act : Act ω α) : Prop :=
  RegistryOperation env α act ∨ OtherRequest env α act

section Parts

variable (env : Surroundings ω)

theorem traced_operation {act : Act ω α} (h : RegistryOperation env α act) :
    act.Traced (HandlerPart env) := .part (Or.inl h)

theorem traced_request {act : Act ω α} (h : OtherRequest env α act) :
    act.Traced (HandlerPart env) := .part (Or.inr h)

theorem traced_call (c : Call) (h : ¬c.Informing) : (env.call c).Traced (HandlerPart env) :=
  traced_request env (.call c h)

theorem traced_update (id : Int) (unseen : Option Int) :
    (update env id unseen).Traced (HandlerPart env) := traced_operation env (.update id unseen)

theorem traced_disarm : (disarm env).Traced (HandlerPart env) :=
  (traced_call env .cancelTimer nofun).bind fun _ => .of_ok fun _ => ⟨_, rfl⟩

theorem traced_arm (time : Int) (payload : Payload) :
    (arm env time payload).Traced (HandlerPart env) :=
  (traced_call env (.arm time payload) nofun).bind fun _ => .of_ok fun _ => ⟨_, rfl⟩

theorem traced_rearm : (rearm env).Traced (HandlerPart env) := by
  refine (traced_operation env (.load .fillIfEmpty)).bind fun _ =>
    Act.Traced.bind (.of_ok fun _ => ⟨_, rfl⟩) fun selection => ?_
  cases selection.account with
  | none => exact (traced_disarm env).bind fun _ => .pure _
  | some id =>
    exact Act.Traced.bind (.of_ok fun _ => ⟨_, rfl⟩) fun saved =>
      (traced_request env (.payload saved)).bind fun _ =>
        (traced_arm env _ _).bind fun _ => .pure _

theorem traced_announce (id : Int) : (announce env id).Traced (HandlerPart env) := by
  refine Act.Traced.bind (.of_ok fun _ => ⟨_, rfl⟩) fun r => ?_
  cases r.newMail? id with
  | none => exact .pure _
  | some mail =>
    exact Act.Traced.bind (.of_ok fun _ => ⟨_, rfl⟩) fun _ =>
      (traced_call env (.showNotification _ _ _) nofun).bind fun _ => .pure _

theorem traced_backgroundDataEnabled :
    (backgroundDataEnabled env).Traced (HandlerPart env) := by
  unfold backgroundDataEnabled
  cases env.backgroundData with
  | none => exact .pure _
  | some enabled =>
    exact (traced_call env .backgroundData nofun).bind fun _ => .of_ok fun _ => ⟨_, rfl⟩

theorem traced_findInbox (id : Int) : (findInbox env id).Traced (HandlerPart env) :=
  (traced_call env (.findInbox id) nofun).bind fun _ => .of_ok fun _ => ⟨_, rfl⟩

/-- A check of mail that fails to start is no failure of the handler. -/
theorem traced_startCheck (id : Int) : (startCheck env id).Traced (HandlerPart env) := by
  refine (traced_findInbox env id).bind fun inbox => ?_
  cases inbox with
  | none => exact .pure _
  | some mailbox =>
    refine .of_ok fun s => ?_
    rw [Act.run_tryCatch]
    split
    · exact ⟨_, rfl⟩
    · exact ⟨false, rfl⟩

theorem traced_tryStart (id : Int) : (tryStart env id).Traced (HandlerPart env) := by
  refine (traced_backgroundDataEnabled env).bind fun enabled => .ite ?_ (.pure _)
  refine Act.Traced.bind (.of_ok fun _ => ⟨_, rfl⟩) fun r => ?_
  cases r.find? id with
  | none => exact .pure _
  | some report => exact .ite (traced_startCheck env id) (.pure _)

theorem traced_deleteAccounts (ids : List Int) :
    (deleteAccounts env ids).Traced (HandlerPart env) := by
  induction ids with
  | nil => exact .pure _
  | cons id rest ih =>
    exact (traced_call env (.deleteAccount id) nofun).bind fun _ =>
      (traced_request env (.delete id)).bind fun _ => ih

theorem traced_openCheck (id : Int) : (openCheck env id).Traced (HandlerPart env) :=
  Act.Traced.bind (.of_ok fun _ => ⟨_, rfl⟩) fun _ =>
    (Act.Traced.bind (.of_ok fun _ => ⟨_, rfl⟩) fun _ =>
      (traced_request env (.payload { account := some id, watchdog := true })).bind fun _ =>
        (traced_arm env _ _).bind fun _ => .pure _).bind fun _ => .pure _

theorem traced_checkAccount (id : Int) : (checkAccount env id).Traced (HandlerPart env) :=
  (traced_openCheck env id).bind fun _ => (traced_tryStart env id).bind fun _ =>
    .ite ((traced_update env id none).bind fun _ => (traced_rearm env).bind fun _ => .pure _)
      (.pure _)

/-- Handlers fail in operations on the registry, in requests to others, or in writing a payload. -/
theorem traced_handle (m : Message) : (handle env m).Traced (HandlerPart env) := by
  have hrearm : Act.Traced (HandlerPart env) (do let _ ← rearm env) :=
    (traced_rearm env).bind fun _ => .pure _
  cases m with
  | checkRequested account snapshot =>
    have hload : ∀ next : Act ω Unit, next.Traced (HandlerPart env) →
        Act.Traced (HandlerPart env) (do load env .fillIfEmpty; next) := fun next hnext =>
      (traced_operation env (.load .fillIfEmpty)).bind fun _ => hnext
    have hrestore : ∀ saved (next : Act ω Unit), next.Traced (HandlerPart env) →
        Act.Traced (HandlerPart env) (do restore env saved; next) := fun saved next hnext =>
      (traced_operation env (.restore saved)).bind fun _ => hnext
    cases account with
    | some id =>
      cases snapshot with
      | some saved => exact hrestore saved _ (traced_checkAccount env id)
      | none => exact hload _ (traced_checkAccount env id)
    | none =>
      cases snapshot with
      | some saved => exact hrestore saved _ hrearm
      | none => exact hload _ hrearm
  | watchdogFired id =>
    refine Act.Traced.bind (.of_ok fun _ => ⟨_, rfl⟩) fun _ => .ite ?_ hrearm
    exact Act.Traced.bind (.of_ok fun _ => ⟨_, rfl⟩) fun _ =>
      (traced_operation env (.load .fillIfEmpty)).bind fun _ =>
        (traced_update env id none).bind fun _ => hrearm
  | rescheduleRequested =>
    exact (traced_call env (.cancelNotification none) nofun).bind fun _ =>
      (traced_operation env .refresh).bind fun _ => hrearm
  | cancelRequested => exact traced_disarm env
  | notifyRequested id =>
    refine (traced_call env (.newMessageCount id) nofun).bind fun _ =>
      (traced_request env (.count id)).bind fun count => ?_
    cases count with
    | none => exact hrearm
    | some count =>
      exact (traced_update env id (some count)).bind fun _ =>
        .ite ((traced_announce env id).bind fun _ => hrearm) hrearm
  | sendPendingRequested id =>
    exact (traced_call env (.sendPending id) nofun).bind fun _ => hrearm
  | deleteProtocolRequested protocol =>
    exact (traced_call env (.idsWithProtocol protocol) nofun).bind fun _ =>
      (traced_request env (.idsWithProtocol protocol)).bind fun ids =>
        (traced_deleteAccounts env ids).bind fun _ =>
          (traced_operation env .refresh).bind fun _ => hrearm
  | checkProgress id mailbox progress error count =>
    refine .ite (.pure _) ((traced_findInbox env id).bind fun _ => .ite (.pure _) (.ite ?_ ?_))
    · exact (traced_update env id count).bind fun _ => .ite
        ((traced_announce env id).bind fun _ => .of_ok fun _ => ⟨_, rfl⟩) (.pure _)
    · exact (traced_update env id none).bind fun _ => .pure _
  | checkComplete id count error =>
    refine Act.Traced.bind (.of_ok fun _ => ⟨_, rfl⟩) fun _ =>
      Act.Traced.bind (.of_ok fun _ => ⟨_, rfl⟩) fun _ =>
        (traced_operation env (.load .fillIfEmpty)).bind fun _ => ?_
    cases error with
    | some e =>
      exact Act.Traced.bind (.of_ok fun _ => ⟨_, rfl⟩) fun _ =>
        (traced_update env id none).bind fun _ => hrearm
    | none =>
      cases count with
      | none => exact (traced_update env id none).bind fun _ => hrearm
      | some n =>
        exact (traced_update env id (some n)).bind fun _ =>
          .ite ((traced_announce env id).bind fun _ => hrearm) hrearm

end Parts

/-- As long as no call changes the registry, operations on it that fail leave it as it was, whatever
the failure.  When the handler of a message fails in such an operation, the fault goes no further,
and the registry is as the operation found it.  Handlers fail in nothing but such operations,
requests to others, and payloads that cannot be written. -/
theorem failing_operations_change_nothing {env : Surroundings ω} (h : env.LeavesRegistry) :
    (∀ (α : Type) (act : Act ω α), RegistryOperation env α act → ∀ s e s',
      act.run s = (.error e, s') → s'.core.registry = s.core.registry) ∧
    (∀ m s e started, (handle env m).FailsIn (RegistryOperation env) started e (s.begun env m) →
      ∃ s', (process env m).run s = (.ok (), s') ∧ s'.core.registry = started.core.registry) ∧
    ∀ m s e, ((handle env m).run s).1 = .error e → ∃ started,
      (handle env m).FailsIn (RegistryOperation env) started e s ∨
        (handle env m).FailsIn (OtherRequest env) started e s := by
  refine ⟨fun α act hact s e s' hr => hact.registry_of_error h hr,
    fun m s e started hfails => ?_, fun m s e hr => ?_⟩
  · obtain ⟨β, part, s', hkind, hpart, hr⟩ := hfails.exists_part
    obtain ⟨j, hprocess⟩ := process_snd env m s
    refine ⟨((process env m).run s).2, Prod.ext (process_ok env m s) rfl, ?_⟩
    rw [hprocess, hr]
    show s'.core.registry = started.core.registry
    exact hkind.registry_of_error h hpart
  · obtain ⟨started, hfails⟩ := traced_handle env m s e hr
    exact ⟨started, hfails.either⟩

namespace Rehearsal

/-- A store that refuses to tell of the second account whether its checks are switched on. -/
def halfway : Surroundings World := { inMemory with
  source := { inMemory.source with
    isSyncEnabled := fun email w =>
      (if email = "b@example.org" then .error ⟨.store, "disk I/O error"⟩ else .ok true, w) } }

/-- A poller that tracks the first account, with three unseen messages. -/
def pollerOfFirst : System World := ((update inMemory 1 (some 3)).run freshPoller).2

/-- The registry is not rebuilt by halves. -/
theorem failing_operations_change_nothing_halfway :
    halfway.LeavesRegistry ∧
      ((handle halfway .rescheduleRequested).run
        (pollerOfFirst.begun halfway .rescheduleRequested)).1 =
          .error ⟨.store, "disk I/O error"⟩ ∧
      ∃ s', (process halfway .rescheduleRequested).run pollerOfFirst = (.ok (), s') ∧
        s'.core.registry = pollerOfFirst.core.registry ∧
        (s'.core.registry.find? 1).map (fun r => (r.prevSync, r.unseen)) = some (1000000, 3) := by
  have hleaves : halfway.LeavesRegistry :=
    Surroundings.StaysOut.leavesRegistry (staysOut_surroundings {} 1)
  let begun := pollerOfFirst.begun halfway .rescheduleRequested
  let started := ((halfway.call (.cancelNotification none)).run begun).2
  have hcall : (halfway.call (.cancelNotification none)).run begun = (.ok (), started) :=
    Prod.ext (by decide +kernel) rfl
  have hrefresh : ((refresh halfway).run started).1 = .error ⟨.store, "disk I/O error"⟩ := by
    decide +kernel
  have hregistry : started.core.registry = pollerOfFirst.core.registry := by decide +kernel
  obtain ⟨-, hmessage, -⟩ := failing_operations_change_nothing hleaves
  obtain ⟨s', hprocess, hsame⟩ := hmessage .rescheduleRequested pollerOfFirst
    ⟨.store, "disk I/O error"⟩ started (.next hcall (.first (.part .refresh hrefresh)))
  refine ⟨hleaves, by decide +kernel, s', hprocess, hsame.trans hregistry, ?_⟩
  rw [hsame, hregistry]
  decide +kernel

end Rehearsal

end MailSchedule

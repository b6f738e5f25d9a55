import MailSchedule.Proofs.CallsMade
import MailSchedule.Proofs.Course
import MailSchedule.Proofs.ListedAccounts

/-!
# Deleting the accounts of a protocol

The store is asked once which accounts have the protocol.  These are deleted one after the other,
and then the registry is rebuilt from a store that has changed in the meantime.  What it tracks
afterwards are the live accounts that are left, whether or not they were tracked before, each with
the time of its last check if one is known.  The wake timer is set last, and so it has nothing to do
with accounts that are gone.

While accounts are reconciled, which is before anything else is done, the store may change at will.

Results:

* `Surroundings.Prunes`: a store from which deleted accounts disappear.
* `Surroundings.Prunes.run_deleteAccounts`: deleting accounts one after the other.
* `deleting_prunes`: what deleting the accounts of a protocol comes to.
-/

namespace MailSchedule

variable {ω : Type}

/-! ## Without reconciliation -/

/-- The same surroundings, but nothing happens while accounts are reconciled. -/
def Surroundings.unreconciled (env : Surroundings ω) : Surroundings ω :=
  { env with during := fun
      | .reconcile => pure ()
      | c => env.during c }

theorem Surroundings.during_unreconciled (env : Surroundings ω) {c : Call} (h : c ≠ .reconcile) :
    env.unreconciled.during c = env.during c := by
  cases c with
  | reconcile => exact absurd rfl h
  | _ => rfl

theorem buildReports_unreconciled (env : Surroundings ω) (built : Registry)
    (rows : List Account.Draft) :
    buildReports env.unreconciled built rows = buildReports env built rows := by
  induction rows generalizing built with
  | nil => rfl
  | cons d rest ih =>
    unfold buildReports
    simp only [ih]
    rfl

theorem load_unreconciled (env : Surroundings ω) (mode : LoadMode) :
    load env.unreconciled mode = load env mode := by
  unfold load
  simp only [buildReports_unreconciled]
  cases mode <;> rfl

theorem refresh_unreconciled (env : Surroundings ω) :
    refresh env.unreconciled = refresh env := by
  unfold refresh
  rw [load_unreconciled]

theorem rearm_unreconciled (env : Surroundings ω) : rearm env.unreconciled = rearm env := by
  unfold rearm
  rw [load_unreconciled]
  rfl

theorem System.reading_unreconciled (env : Surroundings ω) (s : System ω) :
    s.reading env.unreconciled = s.reading env := by
  unfold reading
  rw [load_unreconciled]

/-! ## Stores from which deleted accounts disappear -/

theorem not_deleteAccount_of_informing (c : Call) (h : c.Informing) : c.kind ≠ .deleteAccount := by
  rcases h with h | h | h <;> rw [h] <;> exact nofun

/-- The world is one of a set, and in it the store has certain rows, and checks are switched on for
certain addresses. -/
def Stocked (I : ω → Prop) (rows : ω → List Account.Draft) (enabled : ω → Text → Bool)
    (present : List Account.Draft) (on : Text → Bool) (w : ω) : Prop :=
  I w ∧ rows w = present ∧ enabled w = on

/-- Where every number stands for one account, the rows without the numbers of some are the
others. -/
theorem filter_not_mem_ids {rows : List Account.Draft} (h : (rows.map (·.id)).Nodup)
    (p : Account.Draft → Prop) [DecidablePred p] :
    rows.filter (·.id ∉ (rows.filter (p ·)).map (·.id)) = rows.filter (¬p ·) := by
  apply List.filter_congr
  intro d hd
  suffices hmem : d.id ∈ (rows.filter (p ·)).map (·.id) ↔ p d by simp [hmem]
  constructor
  · intro hmem
    obtain ⟨d', hd', hid⟩ := List.mem_map.1 hmem
    obtain ⟨hrow, hp⟩ := List.mem_filter.1 hd'
    rw [← List.inj_on_of_nodup_map h hrow hd hid]
    simpa using hp
  · intro hp
    exact List.mem_map_of_mem (List.mem_filter.2 ⟨hd, by simpa using hp⟩)

/-- In the worlds of a set the account store has rows of different accounts, none of which lacks a
value that is needed.  An account that is deleted disappears from it, and no other one does.  No
call fails, and what collaborators do changes neither the rows nor the switches, except that
anything may become of them while accounts are reconciled, which may fail as well.  Collaborators do
not interfere with the poller, and do not have accounts deleted on their own. -/
structure Surroundings.Prunes (env : Surroundings ω) (I : ω → Prop)
    (rows : ω → List Account.Draft) (enabled : ω → Text → Bool) : Prop where
  nodup : ∀ w, I w → ((rows w).map (·.id)).Nodup
  complete : ∀ w, I w → ∀ d ∈ rows w, d.isWellFormed = true → d.interval.isSome ∧ d.flags.isSome
  list : ∀ present on, Reply.Gives env.source.list (Stocked I rows enabled present on) present
  isSyncEnabled : ∀ present on email,
    Reply.Gives (env.source.isSyncEnabled email) (Stocked I rows enabled present on) (on email)
  idsWithProtocol : ∀ present on protocol,
    Reply.Gives (env.source.idsWithProtocol protocol) (Stocked I rows enabled present on)
      ((present.filter (·.protocol = some protocol)).map (·.id))
  delete : ∀ id w, I w → ∃ w', env.checker.delete id w = (.ok (), w') ∧ I w' ∧
    rows w' = (rows w).filter (·.id ≠ id)
  staysOut : env.StaysOut
  during : ∀ c, c ≠ .reconcile → ∀ present on s, Stocked I rows enabled present on s.world →
    Stocked I rows enabled present on ((env.during c).run s).2.world
  succeeds : ∀ c, c ≠ .reconcile → ∀ s, I s.world → ((env.during c).run s).1 = .ok ()
  tacit : env.Tacit .deleteAccount

namespace Surroundings.Prunes

variable {env : Surroundings ω} {I : ω → Prop} {rows : ω → List Account.Draft}
  {enabled : ω → Text → Bool} (h : env.Prunes I rows enabled)
include h

theorem succeeds_unreconciled (c : Call) {s : System ω} (hs : I s.world) :
    ((env.unreconciled.during c).run s).1 = .ok () := by
  by_cases hc : c = .reconcile
  · subst hc
    rfl
  · rw [during_unreconciled env hc]
    exact h.succeeds c hc s hs

/-- Once accounts are reconciled the store has certain rows. -/
theorem furnishes {w : ω} (hw : I w) : env.unreconciled.Furnishes
    (Stocked I rows enabled (rows w) (enabled w)) (rows w) (enabled w) where
  complete := h.complete w hw
  list := h.list (rows w) (enabled w)
  isSyncEnabled := h.isSyncEnabled (rows w) (enabled w)
  staysOut c s := by
    by_cases hc : c = .reconcile
    · subst hc
      exact Untouched.refl s
    · rw [during_unreconciled env hc]
      exact h.staysOut c s
  during c s hs := by
    by_cases hc : c = .reconcile
    · subst hc
      exact hs
    · rw [during_unreconciled env hc]
      exact h.during c hc _ _ s hs
  ofStore c s _ hs := h.succeeds_unreconciled c hs.1
  ofTimer c s _ hs := h.succeeds_unreconciled c hs.1

/-- The rows of the store are built into one report of each live account. -/
theorem build_rows {w : ω} (hw : I w) : env.policy.polling.build (enabled w) .empty (rows w) =
    .ok ⟨env.policy.polling.newEntries (enabled w) (rows w)⟩ :=
  PollingRules.build_eq _ _ (h.complete w hw)
    ((h.nodup w hw).sublist (List.filter_sublist.map _)) .empty fun _ _ => List.not_mem_nil

/-! ### Deleting accounts -/

theorem run_call {c : Call} (hc : c ≠ .reconcile) {s : System ω} (hs : I s.world) :
    ∃ s', (env.call c).run s = (.ok (), s') ∧
      Stocked I rows enabled (rows s.world) (enabled s.world) s'.world ∧
      s'.core.registry = s.core.registry := by
  have hok : ((env.call c).run s).1 = .ok () := by
    rw [MailSchedule.run_call]
    exact h.succeeds c hc _ hs
  refine ⟨((env.call c).run s).2, Prod.ext hok rfl, ?_, (h.staysOut.call c s).registry⟩
  rw [MailSchedule.run_call]
  exact h.during c hc _ _ _ ⟨hs, rfl, rfl⟩

/-- Accounts are deleted one after the other, in order, and nothing else happens to the store or to
what is tracked. -/
theorem run_deleteAccounts (ids : List Int) {s : System ω} (hs : I s.world) :
    ∃ s', (deleteAccounts env ids).run s = (.ok (), s') ∧ I s'.world ∧
      rows s'.world = (rows s.world).filter (·.id ∉ ids) ∧
      s'.core.registry = s.core.registry ∧
      callsOf .deleteAccount s'.journal =
        (ids.map .deleteAccount).reverse ++ callsOf .deleteAccount s.journal := by
  induction ids generalizing s with
  | nil => exact ⟨s, rfl, hs, by simp, rfl, rfl⟩
  | cons id rest ih =>
    obtain ⟨asked, hcall, hasked, hregistry⟩ := h.run_call (c := .deleteAccount id) nofun hs
    have hjournal := h.tacit.called (c := .deleteAccount id) rfl s
    rw [hcall] at hjournal
    obtain ⟨w, hdelete, hw, hrows⟩ := h.delete id asked.world hasked.1
    obtain ⟨s', hr, hs', hrows', hregistry', hjournal'⟩ := ih (s := { asked with world := w }) hw
    refine ⟨s', ?_, hs', ?_, hregistry'.trans hregistry, ?_⟩
    · unfold deleteAccounts
      rw [Act.run_bind, hcall]
      dsimp only
      rw [Act.run_bind, run_answer_ok asked hdelete]
      exact hr
    · rw [hrows']
      show (rows w).filter _ = _
      rw [hrows, hasked.2.1, List.filter_filter]
      apply List.filter_congr
      intro d _
      by_cases hd : d.id = id <;> simp [hd]
    · rw [hjournal']
      show _ ++ callsOf .deleteAccount asked.journal = _
      rw [hjournal]
      simp

/-- The accounts of the protocol are deleted, and the registry is rebuilt from the rows of the
others. -/
theorem run_rebuild {protocol : Text} {act : Act ω Unit}
    (hact : rebuild env (.deleteProtocolRequested protocol) = some act) {s : System ω}
    (hs : I s.world) : ∃ moment, act.run s = (.ok (), moment) ∧ I moment.world ∧
      rows moment.world = (rows s.world).filter (·.protocol ≠ some protocol) ∧
      callsOf .deleteAccount moment.journal =
        ((((rows s.world).filter (·.protocol = some protocol)).map (·.id)).map
          .deleteAccount).reverse ++ callsOf .deleteAccount s.journal ∧
      moment.core.registry = Registry.carryForward
        ⟨env.policy.polling.newEntries (enabled moment.world) (rows moment.world)⟩
        s.core.registry := by
  cases hact
  obtain ⟨asked, hcall, hasked, hregistry⟩ := h.run_call (c := .idsWithProtocol protocol) nofun hs
  have hjournal := h.tacit.call_keeps _ (c := .idsWithProtocol protocol) nofun s rfl
  rw [hcall] at hjournal
  obtain ⟨w, hanswer, hw⟩ := h.idsWithProtocol _ _ protocol asked.world hasked
  obtain ⟨left, hdelete, hleft, hrows, hregistry', hjournal'⟩ := h.run_deleteAccounts
    (((rows s.world).filter (·.protocol = some protocol)).map (·.id))
    (s := { asked with world := w }) hw.1
  have hpruned : rows left.world = (rows s.world).filter (·.protocol ≠ some protocol) := by
    rw [hrows]
    show (rows w).filter _ = _
    rw [hw.2.1]
    exact filter_not_mem_ids (h.nodup _ hs) _
  obtain ⟨moment, hrefresh, hmoment, hrebuilt⟩ :=
    (h.furnishes hleft).run_refresh_within (h.build_rows hleft) ⟨hleft, rfl, rfl⟩
  rw [refresh_unreconciled] at hrefresh
  refine ⟨moment, ?_, hmoment.1, hmoment.2.1.trans hpruned, ?_, ?_⟩
  · rw [Act.run_bind, hcall]
    dsimp only
    rw [Act.run_bind, run_answer_ok asked hanswer]
    dsimp only
    rw [Act.run_bind, hdelete]
    exact hrefresh
  · have hkept := h.tacit.refresh_keeps _ not_deleteAccount_of_informing left rfl
    rw [hrefresh] at hkept
    rw [hkept, hjournal']
    show _ ++ callsOf .deleteAccount asked.journal = _
    rw [hjournal]
  · rw [hrebuilt, hregistry', hmoment.2.1, hmoment.2.2, ← hregistry]

end Surroundings.Prunes

/-- The report of the account of a row, with the time of the check that a registry knows of it, and
with no messages counted. -/
def Account.Draft.carriedReport (rules : PollingRules) (enabled : Text → Bool) (known : Registry)
    (d : Account.Draft) : Report :=
  .resumed d.id (d.polledEvery rules) (enabled (d.email.getD [])) ((d.flags.getD 0).testBit 0)
    (((known.find? d.id).map (·.prevSync)).getD neverChecked)

theorem PollingRules.entries_carryForward_newEntries (rules : PollingRules)
    (enabled : Text → Bool) (rows : List Account.Draft) (known : Registry) :
    (Registry.carryForward ⟨rules.newEntries enabled rows⟩ known).entries =
      (rows.filter (·.isWellFormed)).map fun d =>
        (d.id, d.carriedReport rules enabled known) := by
  have hnew : ∀ d : Account.Draft, d.newReport rules enabled = .fresh d.id (d.polledEvery rules)
    (enabled (d.email.getD [])) ((d.flags.getD 0).testBit 0) := fun _ => rfl
  have haccount : ∀ d : Account.Draft, (d.newReport rules enabled).account = d.id := fun _ => rfl
  unfold Registry.carryForward Registry.map newEntries Account.Draft.carriedReport
  rw [List.map_map]
  apply List.map_congr_left
  intro d _
  refine congrArg (d.id, ·) ?_
  dsimp only
  rw [haccount, hnew]
  cases known.find? d.id with
  | some old => exact Report.scheduleFrom_fresh ..
  | none =>
    show Report.fresh .. = .resumed d.id _ _ _ neverChecked
    rw [← Report.scheduleFrom_fresh]
    exact (Report.scheduleFrom_neverChecked rfl).symm

/-- A registry that was rebuilt without finding anything is filled in vain. -/
theorem Registry.filledWith_carryForward (built known : Registry) :
    (built.carryForward known).filledWith built = built.carryForward known := by
  obtain ⟨es⟩ := built
  cases es with
  | nil => rfl
  | cons e es => rfl

/-! ## What has nothing to do with an account -/

/-- Where accounts are different, one with a protocol is none of those that have another one. -/
theorem not_mem_liveIds_left {rows : List Account.Draft} (h : (rows.map (·.id)).Nodup)
    {protocol : Text} {id : Int}
    (hid : id ∈ (rows.filter (·.protocol = some protocol)).map (·.id)) :
    id ∉ liveIds (rows.filter (·.protocol ≠ some protocol)) := by
  intro hmem
  obtain ⟨d, hd, rfl⟩ := List.mem_map.1 hmem
  obtain ⟨d', hd', hsame⟩ := List.mem_map.1 hid
  obtain ⟨hrow, hother⟩ := List.mem_filter.1 (List.mem_filter.1 hd).1
  obtain ⟨hrow', hgone⟩ := List.mem_filter.1 hd'
  obtain rfl := List.inj_on_of_nodup_map h hrow' hrow hsame
  exact of_decide_eq_true hother (of_decide_eq_true hgone)

namespace Registry

variable {r : Registry} {id : Int}

theorem not_mem_accounts (h : ∀ e ∈ r.entries, e.2.account = e.1) (hid : id ∉ r.ids) :
    id ∉ r.reports.map (·.account) := by
  intro hmem
  unfold reports at hmem
  rw [List.map_map] at hmem
  obtain ⟨e, he, rfl⟩ := List.mem_map.1 hmem
  apply hid
  show e.2.account ∈ r.ids
  rw [h e he]
  exact mem_ids_of_mem he

/-- An account that is not tracked is not selected. -/
theorem pickNext_ne_of_not_mem (h : ∀ e ∈ r.entries, e.2.account = e.1) (hid : id ∉ r.ids)
    {now : Int} : (r.pickNext now).account ≠ some id := by
  intro hselected
  obtain ⟨report, hreport, rfl⟩ := exists_mem_of_pickNext hselected
  exact not_mem_accounts h hid (List.mem_map_of_mem hreport)

/-- The wake for a registry is for none of the accounts that are not tracked, and carries no times
of them. -/
theorem wakeAt_without_of_not_mem (h : ∀ e ∈ r.entries, e.2.account = e.1) (hid : id ∉ r.ids)
    {now : Int} {wake : Wake} (hwake : wake ∈ r.wakeAt now) :
    ∃ snapshot : Snapshot, wake.payload = snapshot.encode ∧ snapshot.account ≠ some id ∧
      id ∉ snapshot.prevSyncTimes.map (·.1) := by
  obtain ⟨x, hx, -, hpayload⟩ := wakeAt_eq_some (Option.mem_def.1 hwake)
  refine ⟨_, hpayload, ?_, ?_⟩
  · show some x ≠ some id
    rw [← hx]
    exact pickNext_ne_of_not_mem h hid
  · show id ∉ (r.reports.map _).map _
    rw [List.map_map]
    exact not_mem_accounts h hid

end Registry

/-! ## What it comes to -/

/-- Deleting the accounts of a protocol fails nowhere before rearming.  The accounts with that
protocol are deleted, each of them once and in the order of the store, and no other one is.
Afterwards the live accounts among the rows that are left are tracked, in order, each with the
settings of its row; one that was tracked before keeps the time of its last check, and its next check
follows from that time and from its present interval, while one that was not tracked was never
checked.  Rearming comes last, for this registry.  Unless it fails because the wake cannot be written,
the wake timer is for no account that was deleted and carries the time of none.

Which accounts there are is a matter of the moment when handling the message begins, since
reconciling accounts may change them before. -/
theorem deleting_prunes {env : Surroundings ω} {I : ω → Prop} {rows : ω → List Account.Draft}
    {enabled : ω → Text → Bool} (h : env.Prunes I rows enabled) (protocol : Text) {s : System ω}
    (hs : I (s.begun env (.deleteProtocolRequested protocol)).world) :
    let found := rows (s.begun env (.deleteProtocolRequested protocol)).world
    let gone := (found.filter (·.protocol = some protocol)).map (·.id)
    let left := found.filter (·.protocol ≠ some protocol)
    ∃ moment s', (process env (.deleteProtocolRequested protocol)).run s =
        (.ok (), { s' with journal := .ended (.deleteProtocolRequested protocol) ::
          (if s'.core.registry.Writable then s'.journal
            else Event.noted (failureNotice (.deleteProtocolRequested protocol) Snapshot.tooLong) ::
              s'.journal) }) ∧
      callsOf .deleteAccount s'.journal.reverse =
        callsOf .deleteAccount s.journal.reverse ++ gone.map .deleteAccount ∧ gone.Nodup ∧
      I s'.world ∧ rows s'.world = left ∧
      s'.core.registry.entries = (left.filter (·.isWellFormed)).map (fun d => (d.id,
        d.carriedReport env.policy.polling (enabled s'.world) s.core.registry)) ∧
      (rearm env).run moment =
        (if s'.core.registry.Writable then .ok (s'.core.registry.pickNext (moment.reading env))
          else .error Snapshot.tooLong, s') ∧
      moment.core.registry = s'.core.registry ∧
      s'.timer = s'.core.registry.timerAt (moment.reading env) moment.timer ∧
      ∀ id ∈ gone, id ∉ s'.core.registry.ids ∧
        (s'.core.registry.pickNext (moment.reading env)).account ≠ some id ∧
        (s'.core.registry.Writable →
          ∀ wake ∈ s'.timer, ∃ snapshot : Snapshot, wake.payload = snapshot.encode ∧
            snapshot.account ≠ some id ∧ id ∉ snapshot.prevSyncTimes.map (·.1)) := by
  intro found gone left
  have hjournal := h.tacit.begun nofun (.deleteProtocolRequested protocol) s
  have hregistry := h.staysOut.registry_begun (.deleteProtocolRequested protocol) s
  obtain ⟨moment, hprune, hmoment, hrows, hdeleted, hrebuilt⟩ := h.run_rebuild rfl hs
  obtain ⟨s', hrearm, hworld, hfilled, htimer⟩ :=
    (h.furnishes hmoment).run_rearm (h.build_rows hmoment) ⟨hmoment, rfl, rfl⟩
  rw [rearm_unreconciled, System.reading_unreconciled] at hrearm
  rw [System.reading_unreconciled] at htimer
  have hsame : s'.core.registry = moment.core.registry := by
    rw [hfilled, hrebuilt]
    exact Registry.filledWith_carryForward ..
  have hentries : s'.core.registry.entries = (left.filter (·.isWellFormed)).map (fun d => (d.id,
      d.carriedReport env.policy.polling (enabled s'.world) s.core.registry)) := by
    rw [hsame, hrebuilt, hregistry, hrows, hworld.2.2]
    exact PollingRules.entries_carryForward_newEntries ..
  have hhandle : (handle env (.deleteProtocolRequested protocol)).run
      (s.begun env (.deleteProtocolRequested protocol)) =
        (if s'.core.registry.Writable then .ok () else .error Snapshot.tooLong, s') := by
    rw [handle_of_rebuild rfl, Act.run_bind, hprune]
    dsimp only
    rw [Act.run_bind, hrearm]
    by_cases hwritable : s'.core.registry.Writable
    · rw [if_pos hwritable, if_pos hwritable]
      rfl
    · rw [if_neg hwritable, if_neg hwritable]
  have hgone : gone.Nodup := (h.nodup _ hs).sublist (List.filter_sublist.map _)
  refine ⟨moment, s', ?_, ?_, hgone, hworld.1, hworld.2.1.trans hrows, hentries, hrearm,
    hsame.symm, htimer, fun id hid => ?_⟩
  · rw [run_process, hhandle]
    by_cases hwritable : s'.core.registry.Writable
    · rw [if_pos hwritable, if_pos hwritable]
    · rw [if_neg hwritable, if_neg hwritable]
  · have hkept := h.tacit.rearm_keeps _ not_deleteAccount_of_informing nofun nofun moment rfl
    rw [hrearm] at hkept
    rw [callsOf_reverse, callsOf_reverse, hkept, hdeleted, hjournal, List.reverse_append,
      List.reverse_reverse]
  · have hout : id ∉ s'.core.registry.ids := by
      unfold Registry.ids
      rw [hentries, List.map_map]
      exact not_mem_liveIds_left (h.nodup _ hs) hid
    have haccount : ∀ e ∈ s'.core.registry.entries, e.2.account = e.1 := by
      rw [hentries]
      intro e he
      obtain ⟨d, -, rfl⟩ := List.mem_map.1 he
      rfl
    refine ⟨hout, Registry.pickNext_ne_of_not_mem haccount hout, fun hwritable wake hwake => ?_⟩
    rw [htimer, hwritable.timerAt] at hwake
    exact Registry.wakeAt_without_of_not_mem haccount hout hwake

namespace Rehearsal

/-- The accounts in memory. -/
def World.rows (w : World) : List Account.Draft :=
  match w.source with
  | .roster r => r.accounts
  | .store _ => []

/-- For which addresses checks are switched on in memory. -/
def World.enabled (w : World) (email : Text) : Bool :=
  match w.source with
  | .roster r => !r.disabled.contains email
  | .store _ => false

/-- There are different accounts in memory, which lack nothing, and deleting them removes them. -/
structure Removable (w : World) : Prop where
  failures : w.failures = []
  deleteRemoves : w.deleteRemoves = true
  roster : ∃ r, w.source = .roster r
  nodup : (w.rows.map (·.id)).Nodup
  complete : ∀ d ∈ w.rows, d.isWellFormed = true → d.interval.isSome ∧ d.flags.isSome

/-- What a roster is asked for, it answers with what it has. -/
theorem Removable.gives {α : Type} {ofRoster : Roster → α} {ofStore : Store.Act α}
    {present : List Account.Draft} {on : Text → Bool} {a : α}
    (h : ∀ r : Roster, r.accounts = present → (fun email => !r.disabled.contains email) = on →
      ofRoster r = a) :
    Reply.Gives (askSource ofRoster ofStore)
      (Stocked Removable World.rows World.enabled present on) a := by
  refine gives_ofRoster _ _ fun w hw => ?_
  obtain ⟨hremovable, hrows, hon⟩ := hw
  obtain ⟨r, hr⟩ := hremovable.roster
  unfold World.rows at hrows
  unfold World.enabled at hon
  rw [hr] at hrows hon
  exact ⟨r, hr, h r hrows hon⟩

/-- An account in memory that is deleted is removed. -/
theorem Removable.delete {w : World} (h : Removable w) (id : Int) :
    ∃ w', worldChecker.delete id w = (.ok (), w') ∧ Removable w' ∧
      w'.rows = w.rows.filter (·.id ≠ id) := by
  obtain ⟨r, hr⟩ := h.roster
  have hsub : (r.accounts.filter (·.id ≠ id)).Sublist w.rows := by
    unfold World.rows
    rw [hr]
    exact List.filter_sublist
  refine ⟨{ w with source := .roster (r.remove id) }, ?_, ⟨h.failures, h.deleteRemoves,
    ⟨_, rfl⟩, h.nodup.sublist (hsub.map _), fun d hd => h.complete d (hsub.subset hd)⟩, ?_⟩
  · unfold worldChecker removeAccount ofSource
    dsimp only
    rw [h.deleteRemoves, hr]
    rfl
  · unfold World.rows
    rw [hr]
    rfl

theorem prunes_inMemory : inMemory.Prunes Removable World.rows World.enabled where
  nodup _ hw := hw.nodup
  complete _ hw := hw.complete
  list _ _ := Removable.gives fun _ hrows _ => hrows
  isSyncEnabled _ _ email := Removable.gives fun _ _ hon => congrFun hon email
  idsWithProtocol _ _ protocol := Removable.gives fun r hrows _ => by
    rw [← hrows]
    rfl
  delete id _ hw := hw.delete id
  staysOut := staysOut_surroundings {} 1
  during c _ _ _ s hs := by
    show Stocked _ _ _ _ _ (((surroundings {} 1 0).during c).run s).2.world
    rw [run_during]
    exact hs
  succeeds c _ s hs := by
    show (((surroundings {} 1 0).during c).run s).1 = .ok ()
    rw [run_during, hs.failures]
    rfl
  tacit c s := by
    show callsOf _ (((surroundings {} 1 0).during c).run s).2.journal = _
    rw [run_during]

/-- A poller with two accounts to be deleted, one of which is a leftover and not tracked.  Of the
other accounts one has another interval than before, one is new, and one that is tracked is gone. -/
def mixedPoller : System World where
  core := { registry := ⟨[
    (2, .resumed 2 10 true true 600000),
    (1, { Report.resumed 1 5 true false 500000 with unseen := 4, lastUnseen := 2 }),
    (9, .resumed 9 10 true true 700000)]⟩ }
  clock := 1000000
  world := { source := .roster { accounts := [
    ⟨1, some "a@example.org", some 1, some 2, some 15, some 1, some "imap"⟩,
    ⟨2, some "b@example.org", some 3, some 4, some 10, some 1, some "eas"⟩,
    ⟨3, some "c@example.org", some 5, some 6, some 60, some 0, some "pop3"⟩,
    ⟨4, none, none, none, some 60, some 0, some "eas"⟩] } }

/-- Both accounts are deleted.  The one that was tracked keeps the time of its check, and the new
one is next. -/
theorem deleting_prunes_mixedPoller : Removable
      (mixedPoller.begun inMemory (.deleteProtocolRequested "eas")).world ∧
    ∃ s' : System World, (process inMemory (.deleteProtocolRequested "eas")).run mixedPoller =
        (.ok (), { s' with journal := .ended (.deleteProtocolRequested "eas") :: s'.journal }) ∧
      callsOf .deleteAccount s'.journal.reverse = [.deleteAccount 2, .deleteAccount 4] ∧
      s'.core.registry = ⟨[(1, .resumed 1 15 true true 500000), (3, .resumed 3 60 true false 0)]⟩ ∧
      s'.timer = some ⟨dueNow, Snapshot.encode {
        account := some 3, prevSyncTimes := [(1, 500000), (3, 0)] }⟩ ∧
      2 ∉ s'.core.registry.ids := by
  have hworld : Removable (mixedPoller.begun inMemory (.deleteProtocolRequested "eas")).world := {
    failures := rfl
    deleteRemoves := rfl
    roster := ⟨_, rfl⟩
    nodup := by decide +kernel
    complete := by decide +kernel }
  refine ⟨hworld, ?_⟩
  obtain ⟨moment, s', hr, hdeleted, -, -, -, -, -, -, -, hgone⟩ :=
    deleting_prunes prunes_inMemory "eas" hworld
  have hstate := congrArg Prod.snd hr
  have hcore := congrArg (fun s : System World => s.core.registry) hstate
  have htimer := congrArg System.timer hstate
  have hwritable : s'.core.registry.Writable := by
    rw [← hcore]
    decide +kernel
  rw [if_pos hwritable] at hr
  refine ⟨s', hr, hdeleted.trans (by decide +kernel), hcore.symm.trans (by decide +kernel),
    htimer.symm.trans (by decide +kernel), (hgone 2 (by decide +kernel)).1⟩

end Rehearsal

end MailSchedule

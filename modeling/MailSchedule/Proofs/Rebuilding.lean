import MailSchedule.Proofs.CurrentWakes
import MailSchedule.Proofs.SteadyStore

/-!
# Rebuilding in place and from a snapshot

There are two ways to a registry that agrees with the account store and knows when the accounts were
checked last.  A poller that is running rebuilds its registry and takes the times over from the one
it gives up.  A poller that has lost its memory fills an empty registry, and fills the times in that
a snapshot carries.

The two ways end in the same registry, whatever has become of the accounts in the meantime.  It has
the accounts that are live now, each with the settings that it has now.

Results:

* `Registry.Unchecked.carryForward_eq_restore`: taking times over is filling them in.
* `PollingRules.build_spec`: the registry of rows whose live accounts have different numbers.
* `Registry.filledWith`: a registry after it was filled if it was empty.
* `Surroundings.Supplies.run_refresh`, `.run_restore_filled`: what the two ways come to.
* `rebuilt_alike`: they end in the same registry.
-/

namespace MailSchedule

variable {ω : Type}

/-! ## Taking times over and filling them in -/

/-- Among the times of a registry there is none for a number that is not tracked. -/
theorem Registry.Proper.filter_prevSyncTimes_of_not_mem {r : Registry} (h : r.Proper) {id : Int}
    (hid : id ∉ r.ids) : (r.prevSyncTimes.filter fun p => p.1 = id).map (·.2) = [] := by
  rw [h.prevSyncTimes_eq, List.map_eq_nil_iff, List.filter_eq_nil_iff]
  intro p hp
  obtain ⟨e, he, rfl⟩ := List.mem_map.1 hp
  simp only [decide_eq_true_eq]
  rintro rfl
  exact hid (mem_ids_of_mem he)

/-- Accounts that were never checked may take the times of another registry over, or have them
filled in: it comes to the same. -/
theorem Registry.Unchecked.carryForward_eq_restore {built r : Registry} (h : built.Unchecked)
    (hr : r.Proper) : built.carryForward r = built.restore r.prevSyncTimes := by
  apply ext_entries
  rw [entries_restore]
  apply List.map_congr_left
  intro e he
  dsimp only
  rw [h.account e he]
  cases hfind : r.find? e.1 with
  | none =>
    rw [hr.filter_prevSyncTimes_of_not_mem ((find?_eq_none_iff r e.1).1 hfind)]
    rfl
  | some old =>
    have htime := hr.filter_prevSyncTimes (mem_of_find? hfind)
    dsimp only at htime ⊢
    rw [htime]
    show _ = (e.1, if e.2.prevSync = neverChecked then e.2.scheduleFrom old.prevSync else e.2)
    rw [if_pos (h.never e he)]

/-! ## The registry of some rows -/

/-- The report of an account with the given settings that was checked last at the given time. -/
def Report.resumed (id interval : Int) (enabled notify : Bool) (prev : Int) : Report where
  account := id
  interval := interval
  prevSync := prev
  nextSync :=
    if 0 < interval then if prev = neverChecked then dueNow else prev + interval * minute
    else notScheduled
  enabled := enabled
  notify := notify

theorem Report.scheduleFrom_fresh (id interval : Int) (enabled notify : Bool) (prev : Int) :
    (fresh id interval enabled notify).scheduleFrom prev =
      resumed id interval enabled notify prev := by
  unfold scheduleFrom fresh resumed
  dsimp only
  by_cases hi : 0 < interval
  · by_cases hp : prev = neverChecked <;> simp [hi, hp]
  · simp [hi]

theorem Account.Draft.report_eq_ok {rules : PollingRules} {enabled : Text → Bool}
    {d : Account.Draft} {report : Report} (h : d.report rules enabled = .ok report) :
    ∃ interval notify, rules.intervalOfDraft d = .ok interval ∧ d.notify = .ok notify ∧
      report = .fresh d.id interval (enabled (d.email.getD [])) notify := by
  unfold Account.Draft.report at h
  cases hi : rules.intervalOfDraft d with
  | error e =>
    rw [hi] at h
    cases h
  | ok interval =>
    cases hn : d.notify with
    | error e =>
      rw [hi, hn] at h
      cases h
    | ok notify =>
      rw [hi, hn] at h
      cases h
      exact ⟨interval, notify, rfl, rfl, rfl⟩

/-- Rows are built into reports of accounts that were never checked. -/
theorem PollingRules.unchecked_build {rules : PollingRules} {enabled : Text → Bool}
    {rows : List Account.Draft} {built r : Registry} (hbuilt : built.Unchecked)
    (h : rules.build enabled built rows = .ok r) : r.Unchecked := by
  induction rows generalizing built with
  | nil =>
    cases h
    exact hbuilt
  | cons d rest ih =>
    unfold build at h
    split at h
    · cases hreport : d.report rules enabled with
      | error e =>
        rw [hreport] at h
        cases h
      | ok report =>
        rw [hreport] at h
        obtain ⟨interval, notify, -, -, rfl⟩ := Account.Draft.report_eq_ok hreport
        exact ih (hbuilt.put rfl (Report.onSchedule_fresh ..) rfl ⟨rfl, rfl⟩) h
    · exact ih hbuilt h

/-- The registry of rows whose live accounts have different numbers tracks these accounts after
those that were there, in the order of the rows, and each has the report of its row. -/
theorem PollingRules.build_spec {rules : PollingRules} {enabled : Text → Bool}
    {rows : List Account.Draft} {built r : Registry} (h : rules.build enabled built rows = .ok r)
    (hnodup : (liveIds rows).Nodup) (hnew : ∀ id ∈ liveIds rows, id ∉ built.ids) :
    r.ids = built.ids ++ liveIds rows ∧ (∀ id ∉ liveIds rows, r.find? id = built.find? id) ∧
      ∀ d ∈ rows, d.isWellFormed = true →
        ∃ report, d.report rules enabled = .ok report ∧ r.find? d.id = some report := by
  induction rows generalizing built with
  | nil =>
    cases h
    simp [liveIds]
  | cons d rest ih =>
    unfold build at h
    by_cases hd : d.isWellFormed = true
    · have hlive : liveIds (d :: rest) = d.id :: liveIds rest := by
        unfold liveIds
        rw [List.filter_cons_of_pos hd, List.map_cons]
      rw [hlive] at hnodup hnew ⊢
      obtain ⟨hd', hrest⟩ := List.nodup_cons.1 hnodup
      have hdnew : d.id ∉ built.ids := hnew d.id List.mem_cons_self
      rw [if_pos hd] at h
      cases hreport : d.report rules enabled with
      | error e =>
        rw [hreport] at h
        cases h
      | ok report =>
        rw [hreport] at h
        obtain ⟨hids, hkept, hfound⟩ := ih h hrest fun id hid hmem =>
          ((Registry.mem_ids_put ..).1 hmem).elim (hnew id (List.mem_cons_of_mem _ hid))
            fun heq => hd' (heq ▸ hid)
        refine ⟨?_, fun id hid => ?_, fun x hx hx' => ?_⟩
        · have hput : (built.put d.id report).ids = built.ids ++ [d.id] := by
            unfold Registry.ids
            rw [Registry.entries_put_new hdnew, List.map_append]
            rfl
          rw [hids, hput, List.append_assoc]
          rfl
        · obtain ⟨hne, hid⟩ := not_or.1 (mt List.mem_cons.2 hid)
          rw [hkept id hid, Registry.find?_put, if_neg hne]
        · rcases List.mem_cons.1 hx with rfl | hx
          · exact ⟨report, hreport, by
              rw [hkept _ hd', Registry.find?_put, if_pos rfl]⟩
          · exact hfound x hx hx'
    · have hlive : liveIds (d :: rest) = liveIds rest := by
        unfold liveIds
        rw [List.filter_cons_of_neg hd]
      rw [hlive] at hnodup hnew ⊢
      rw [if_neg hd] at h
      obtain ⟨hids, hkept, hfound⟩ := ih h hnodup hnew
      refine ⟨hids, hkept, fun x hx hx' => ?_⟩
      rcases List.mem_cons.1 hx with rfl | hx
      · exact absurd hx' hd
      · exact hfound x hx hx'

/-- A registry after it was filled with another one if it was empty. -/
def Registry.filledWith (r built : Registry) : Registry := if r.isEmpty then built else r

theorem Registry.filledWith_filledWith (r built : Registry) :
    (r.filledWith built).filledWith built = r.filledWith built := by
  unfold filledWith
  cases hr : r.isEmpty with
  | true => exact ite_self built
  | false => simp [hr]

/-! ## A store with given contents -/

/-- In the worlds of a set the account store has certain rows, none of which lacks a value that is
needed, and does not fail; nothing that collaborators do leads out of the set, and they do not
interfere with the poller. -/
structure Surroundings.Supplies (env : Surroundings ω) (I : ω → Prop)
    (rows : List Account.Draft) (enabled : Text → Bool) : Prop where
  complete : ∀ d ∈ rows, d.isWellFormed = true → d.interval.isSome ∧ d.flags.isSome
  list : Reply.Gives env.source.list I rows
  isSyncEnabled : ∀ email, Reply.Gives (env.source.isSyncEnabled email) I (enabled email)
  staysOut : env.StaysOut
  during : ∀ c s, I s.world → I ((env.during c).run s).2.world
  ofStore : ∀ c s, c.kind.isOfStore = true → I s.world → ((env.during c).run s).1 = .ok ()

theorem Surroundings.Fixed.supplies {env : Surroundings ω} {I : ω → Prop}
    {rows : List Account.Draft} {enabled : Text → Bool} {counted : Int → Bool}
    {withProtocol : Text → List Int} (h : env.Fixed I rows enabled counted withProtocol) :
    env.Supplies I rows enabled :=
  ⟨h.complete, h.list, h.isSyncEnabled, h.staysOut, h.during, h.ofStore⟩

/-- The world is one of a set, and the registry and what is kept of earlier ones are as given. -/
def Holding (I : ω → Prop) (r : Registry) (keepsakes : List Keepsake) (s : System ω) : Prop :=
  I s.world ∧ s.core.registry = r ∧ s.core.keepsakes = keepsakes

theorem Holding.gives_answer {α : Type} {reply : Reply ω α} {I : ω → Prop} {a : α}
    (h : Reply.Gives reply I a) (r : Registry) (ks : List Keepsake) :
    (answer reply).Gives (Holding I r ks) a :=
  .answer h (fun _ hs => hs.1) fun _ _ hs hw => ⟨hw, hs.2⟩

namespace Surroundings.Supplies

variable {env : Surroundings ω} {I : ω → Prop} {rows : List Account.Draft}
  {enabled : Text → Bool} (h : env.Supplies I rows enabled)
include h

/-- Calls to the store do not fail, and nothing happens to the registry meanwhile. -/
theorem call {c : Call} (hc : c.kind.isOfStore = true) (r : Registry) (ks : List Keepsake) :
    (env.call c).Gives (Holding I r ks) () := by
  have hkeeps : (env.call c).Keeps (Holding I r ks) := by
    intro s hs
    have huntouched := h.staysOut.call c s
    obtain ⟨ms, hcore⟩ := huntouched.core
    refine ⟨h.during c _ hs.1, huntouched.registry.trans hs.2.1, ?_⟩
    rw [hcore]
    exact hs.2.2
  exact .of_keeps hkeeps fun s hs => by
    rw [run_call]
    exact h.ofStore c _ hc hs.1

theorem tellsEnabled (r : Registry) (ks : List Keepsake) :
    env.TellsEnabled (Holding I r ks) enabled where
  note _ := fun _ hs => hs
  call email := h.call (c := .isSyncEnabled email) rfl r ks
  answer email := Holding.gives_answer (h.isSyncEnabled email) r ks

theorem build_rows : ∃ built, env.policy.polling.build enabled .empty rows = .ok built :=
  env.policy.polling.build_isOk enabled h.complete .empty

/-- All accounts are loaded in one step, and nothing happens to the registry before. -/
theorem run_load {mode : LoadMode} (hmode : mode = .fillIfEmpty ∨ mode = .forceReset)
    {built : Registry} (hbuilt : env.policy.polling.build enabled .empty rows = .ok built)
    {s : System ω} (hs : I s.world) (hneeded : mode.isNeeded s.core.registry = true) :
    ∃ s', Holding I s.core.registry s.core.keepsakes s' ∧ (load env mode).run s =
      (.ok (), { s' with core := s'.core.published mode built }) := by
  have hall : Act.Gives (do
      env.call .listAccounts
      answer env.source.list) (Holding I s.core.registry s.core.keepsakes) rows :=
    (h.call (c := .listAccounts) rfl _ _).bind (Holding.gives_answer h.list _ _)
  have hrows : (rowsFor env mode).Gives (Holding I s.core.registry s.core.keepsakes) rows := by
    rcases hmode with rfl | rfl <;> exact hall
  exact load_gives (h.tellsEnabled _ _) hrows hbuilt ⟨hs, rfl, rfl⟩ hneeded

/-- An empty registry is filled from the store, and another one is left alone. -/
theorem run_load_fillIfEmpty {built : Registry}
    (hbuilt : env.policy.polling.build enabled .empty rows = .ok built) {s : System ω}
    (hs : I s.world) : ∃ s', (load env .fillIfEmpty).run s = (.ok (), s') ∧ I s'.world ∧
      s'.core.registry = s.core.registry.filledWith built := by
  unfold Registry.filledWith
  cases hneeded : s.core.registry.isEmpty with
  | false => exact ⟨s, load_not_needed env hneeded, hs, rfl⟩
  | true =>
    obtain ⟨s', ⟨hs', hregistry, -⟩, hr⟩ := h.run_load (.inl rfl) hbuilt hs hneeded
    have hids := (Registry.isEmpty_iff _).1 hneeded
    rw [← hregistry] at hids
    exact ⟨_, hr, hs', Core.registry_published_of_ids hids (.inl rfl) built⟩

/-- A registry that is rebuilt takes the times over of the one before, and the world stays among
those in which the store has these rows. -/
theorem run_refresh_within {built : Registry}
    (hbuilt : env.policy.polling.build enabled .empty rows = .ok built) {s : System ω}
    (hs : I s.world) : ∃ s', (refresh env).run s = (.ok (), s') ∧ I s'.world ∧
      s'.core.registry = built.carryForward s.core.registry := by
  have hmode : LoadMode.forceReset = .fillIfEmpty ∨ LoadMode.forceReset = .forceReset := .inr rfl
  obtain ⟨s1, ⟨hworld, hregistry, hkeepsakes⟩, hr⟩ := h.run_load hmode hbuilt
    (s := { s with core := { s.core with keepsakes := none :: s.core.keepsakes } }) hs rfl
  refine ⟨{ s1 with core := s1.core.rebuilt s.core.registry.ids built }, ?_, hworld, ?_⟩
  · rw [MailSchedule.run_refresh, hr]
    rfl
  · have hsame : s1.core.registry = s.core.registry := hregistry
    rw [← hsame]
    exact Core.registry_rebuilt hkeepsakes built

theorem run_refresh {built : Registry}
    (hbuilt : env.policy.polling.build enabled .empty rows = .ok built) {s : System ω}
    (hs : I s.world) : ∃ s', (refresh env).run s = (.ok (), s') ∧
      s'.core.registry = built.carryForward s.core.registry := by
  obtain ⟨s', hr, -, hregistry⟩ := h.run_refresh_within hbuilt hs
  exact ⟨s', hr, hregistry⟩

/-- The registry is filled if it is empty, and then the times of a snapshot are filled in. -/
theorem run_restore_filled {built : Registry}
    (hbuilt : env.policy.polling.build enabled .empty rows = .ok built) (saved : Snapshot)
    {s : System ω} (hs : I s.world) : ∃ s', (restore env saved).run s = (.ok (), s') ∧
      I s'.world ∧
      s'.core.registry = (s.core.registry.filledWith built).restore saved.prevSyncTimes := by
  obtain ⟨filled, hload, hworld, hregistry⟩ := h.run_load_fillIfEmpty hbuilt hs
  refine ⟨{ filled with core := { filled.core with
    registry := filled.core.registry.restore saved.prevSyncTimes } }, ?_, hworld, ?_⟩
  · unfold restore
    rw [Act.run_bind, hload]
    rfl
  · rw [← hregistry]

theorem run_restore {built : Registry}
    (hbuilt : env.policy.polling.build enabled .empty rows = .ok built) (saved : Snapshot)
    {s : System ω} (hs : I s.world) (hempty : s.core.registry = .empty) :
    ∃ s', (restore env saved).run s = (.ok (), s') ∧
      s'.core.registry = built.restore saved.prevSyncTimes := by
  obtain ⟨s', hr, -, hregistry⟩ := h.run_restore_filled hbuilt saved hs
  rw [hempty] at hregistry
  exact ⟨s', hr, hregistry⟩

end Surroundings.Supplies

/-- A registry that is rebuilt in place is the one that a poller without memory arrives at with a
snapshot of the registry before.  The registry before may be any in which every account is tracked
once (`Reachable.proper`), the store may have gained, lost or changed accounts since, and the other
poller may be at any other moment.  If no two live accounts have one number, they are what is
tracked, in the order of the store, each with its present settings, with the time of the check that
is known of it, and with no messages counted. -/
theorem rebuilt_alike {env : Surroundings ω} {I : ω → Prop} {rows : List Account.Draft}
    {enabled : Text → Bool} (h : env.Supplies I rows enabled) {s fresh : System ω}
    (hs : I s.world) (hproper : s.core.registry.Proper) (hread : s.core.registry.Readable)
    {account : Option Int} (haccount : ∀ id ∈ account, Json.Readable id)
    (hfresh : I fresh.world) (hempty : fresh.core.registry = .empty) :
    ∃ s' saved fresh', (refresh env).run s = (.ok (), s') ∧
      Snapshot.decode (some (s.core.registry.snapshot account).encode) = .ok saved ∧
      (restore env saved).run fresh = (.ok (), fresh') ∧
      fresh'.core.registry = s'.core.registry ∧
      ((liveIds rows).Nodup → s'.core.registry.ids = liveIds rows ∧
        ∀ d ∈ rows, d.isWellFormed = true → ∃ interval notify,
          env.policy.polling.intervalOfDraft d = .ok interval ∧ d.notify = .ok notify ∧
          s'.core.registry.find? d.id = some (.resumed d.id interval
            (enabled (d.email.getD [])) notify
            (((s.core.registry.find? d.id).map (·.prevSync)).getD neverChecked))) := by
  obtain ⟨built, hbuilt⟩ := h.build_rows
  have hunchecked := PollingRules.unchecked_build Registry.unchecked_empty hbuilt
  have hdecode := Snapshot.decode_encode (s := s.core.registry.snapshot account) ⟨haccount, hread⟩
  obtain ⟨s', hrefresh, hregistry⟩ := h.run_refresh hbuilt hs
  obtain ⟨fresh', hrestore, hregistry'⟩ := h.run_restore hbuilt _ hfresh hempty
  refine ⟨s', _, fresh', hrefresh, hdecode, hrestore, ?_, fun hnodup => ?_⟩
  · rw [hregistry, hregistry', hunchecked.carryForward_eq_restore hproper]
    rfl
  · obtain ⟨hids, -, hfound⟩ := PollingRules.build_spec hbuilt hnodup fun _ _ => List.not_mem_nil
    rw [hregistry]
    refine ⟨?_, fun d hd hlive => ?_⟩
    · unfold Registry.carryForward
      rw [Registry.ids_map]
      exact hids
    · obtain ⟨report, hreport, hfind⟩ := hfound d hd hlive
      obtain ⟨interval, notify, hi, hn, rfl⟩ := Account.Draft.report_eq_ok hreport
      refine ⟨interval, notify, hi, hn, ?_⟩
      unfold Registry.carryForward
      rw [Registry.find?_map, hfind, Option.map_some,
        show (Report.fresh d.id interval (enabled (d.email.getD [])) notify).account = d.id from rfl]
      cases s.core.registry.find? d.id with
      | some old => exact congrArg some (Report.scheduleFrom_fresh ..)
      | none =>
        refine congrArg some ?_
        rw [← Report.scheduleFrom_fresh]
        exact (Report.scheduleFrom_neverChecked rfl).symm

namespace Rehearsal

/-- A poller that tracks an account which is gone and one whose interval was another. -/
def outdatedPoller : System World := { freshPoller with
  core := { registry := ⟨[
    (3, .resumed 3 10 true true 600000),
    (1, { Report.resumed 1 5 true false 500000 with unseen := 4, lastUnseen := 2 })]⟩ } }

/-- The account that is gone is not tracked any more, the one whose interval has changed keeps the
time of its check, and the new one was never checked. -/
theorem rebuilt_alike_outdatedPoller : ∃ s' saved fresh',
    (refresh inMemory).run outdatedPoller = (.ok (), s') ∧
    Snapshot.decode (some (outdatedPoller.core.registry.snapshot (some 1)).encode) = .ok saved ∧
    (restore inMemory saved).run freshPoller = (.ok (), fresh') ∧
    fresh'.core.registry = s'.core.registry ∧ s'.core.registry.ids = [1, 2] ∧
    s'.core.registry.find? 1 = some (.resumed 1 15 true true 500000) := by
  have hproper : outdatedPoller.core.registry.Proper := ⟨by decide, by decide⟩
  have hworld : OfTwoAccounts outdatedPoller.world := ofTwoAccounts_twoAccountsWorld
  have hread : outdatedPoller.core.registry.Readable := by decide +kernel
  have haccount : ∀ id ∈ some (1 : Int), Json.Readable id := by decide +kernel
  have hfresh : OfTwoAccounts freshPoller.world := ofTwoAccounts_twoAccountsWorld
  have hempty : freshPoller.core.registry = .empty := rfl
  obtain ⟨s', saved, fresh', hrefresh, hdecode, hrestore, hsame, hrows⟩ :=
    rebuilt_alike fixed_inMemory.supplies hworld hproper hread haccount hfresh hempty
  obtain ⟨hids, hfound⟩ := hrows (by decide +kernel)
  obtain ⟨interval, notify, hinterval, hnotify, hfind⟩ :=
    hfound ⟨1, some "a@example.org", some 1, some 2, some 15, some 1, some "imap"⟩
      (by decide +kernel) (by decide +kernel)
  cases hinterval
  cases hnotify
  exact ⟨s', saved, fresh', hrefresh, hdecode, hrestore, hsame, hids, hfind⟩

end Rehearsal

end MailSchedule

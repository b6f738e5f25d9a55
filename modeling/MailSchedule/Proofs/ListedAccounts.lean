import Mathlib.Data.Int.Bitwise
import MailSchedule.Proofs.Rearming

/-!
# Accounts as the store lists them

What loading leaves behind can be read off the rows of the account store.  Each live account has a
report, in the order of the rows, and the settings in it follow from its row, from whether checks
are switched on for its address, and from the rules for polling.  How much is loaded makes a
difference to what becomes of the reports that are there, but none to the reports that are new.

Results:

* `Account.Draft.newReport`: the report of a row before the first check.
* `PollingRules.build_eq`: the registry of some rows.
* `Surroundings.LooksUp`, `Surroundings.Catalogues`: a store that tells about single accounts, and
  one that lists them as well.
* `Surroundings.LooksUp.run_load_one`: what loading one account comes to.
* `load_exact`: what loading comes to, however much is loaded.
-/

namespace MailSchedule

variable {ω : Type}

/-! ## The report of a row -/

theorem Account.notifies_eq_testBit (flags : Int) : notifies flags = flags.testBit 0 := by
  unfold notifies
  cases flags with
  | ofNat n =>
    have hbit : Int.testBit (Int.ofNat n) 0 = n.testBit 0 := rfl
    rw [hbit, Nat.testBit_zero, Bool.eq_iff_iff, decide_eq_true_eq, decide_eq_true_eq,
      Int.ofNat_eq_natCast]
    omega
  | negSucc n =>
    have hbit : Int.testBit (Int.negSucc n) 0 = !n.testBit 0 := rfl
    rw [hbit, Nat.testBit_zero, Bool.eq_iff_iff, Bool.not_eq_true', decide_eq_true_eq,
      decide_eq_false_iff_not]
    omega

namespace Account.Draft

/-- How many minutes there are between checks of the account of a row.  It is never checked if its
protocol is not polled, and each minute if all accounts are that are checked at all. -/
def polledEvery (rules : PollingRules) (d : Account.Draft) : Int :=
  if d.protocol.any rules.protocols.contains then
    if rules.oneMinute ∧ 0 ≤ d.interval.getD neverInterval then 1
    else d.interval.getD neverInterval
  else neverInterval

/-- The report of the account of a row before its first check. -/
def newReport (rules : PollingRules) (enabled : Text → Bool) (d : Account.Draft) : Report where
  account := d.id
  interval := d.polledEvery rules
  prevSync := neverChecked
  nextSync := if 0 < d.polledEvery rules then dueNow else notScheduled
  enabled := enabled (d.email.getD [])
  notify := (d.flags.getD 0).testBit 0
  unseen := 0
  lastUnseen := 0

variable {rules : PollingRules} {d : Account.Draft}

theorem intervalOfDraft_eq (h : d.interval.isSome) :
    rules.intervalOfDraft d = .ok (d.polledEvery rules) := by
  obtain ⟨minutes, hminutes⟩ := Option.isSome_iff_exists.1 h
  unfold PollingRules.intervalOfDraft polledEvery
  rw [hminutes]
  cases d.protocol with
  | none => rfl
  | some protocol =>
    by_cases hpolled : protocol ∈ rules.protocols <;>
      simp [PollingRules.intervalOf, hpolled]

theorem notify_eq (h : d.flags.isSome) : d.notify = .ok ((d.flags.getD 0).testBit 0) := by
  obtain ⟨flags, hflags⟩ := Option.isSome_iff_exists.1 h
  unfold notify
  rw [hflags]
  exact congrArg Except.ok (notifies_eq_testBit flags)

theorem report_eq_newReport (hinterval : d.interval.isSome) (hflags : d.flags.isSome)
    (enabled : Text → Bool) : d.report rules enabled = .ok (d.newReport rules enabled) := by
  unfold report
  rw [intervalOfDraft_eq hinterval, notify_eq hflags]
  rfl

end Account.Draft

/-! ## The registry of some rows -/

/-- The reports of the live accounts among some rows, in order, under their numbers. -/
def PollingRules.newEntries (rules : PollingRules) (enabled : Text → Bool)
    (rows : List Account.Draft) : List (Int × Report) :=
  (rows.filter (·.isWellFormed)).map fun d => (d.id, d.newReport rules enabled)

theorem PollingRules.map_fst_newEntries (rules : PollingRules) (enabled : Text → Bool)
    (rows : List Account.Draft) : (rules.newEntries enabled rows).map (·.1) = liveIds rows := by
  unfold newEntries liveIds
  rw [List.map_map]
  rfl

/-- Rows of different accounts, none of which lacks a value that is needed, are built into one
report of each live account, after those that were there. -/
theorem PollingRules.build_eq (rules : PollingRules) (enabled : Text → Bool)
    {rows : List Account.Draft} (hcomplete : ∀ d ∈ rows, d.isWellFormed = true →
      d.interval.isSome ∧ d.flags.isSome)
    (hnodup : (liveIds rows).Nodup) (built : Registry)
    (hnew : ∀ id ∈ liveIds rows, id ∉ built.ids) :
    rules.build enabled built rows = .ok ⟨built.entries ++ rules.newEntries enabled rows⟩ := by
  induction rows generalizing built with
  | nil => simp [build, newEntries]
  | cons d rest ih =>
    have hrest : ∀ x ∈ rest, x.isWellFormed = true → x.interval.isSome ∧ x.flags.isSome :=
      fun x hx => hcomplete x (List.mem_cons_of_mem d hx)
    unfold build
    by_cases hd : d.isWellFormed = true
    · have hlive : liveIds (d :: rest) = d.id :: liveIds rest := by simp [liveIds, hd]
      rw [hlive] at hnodup hnew
      obtain ⟨hdrest, hnodup⟩ := List.nodup_cons.1 hnodup
      obtain ⟨hinterval, hflags⟩ := hcomplete d List.mem_cons_self hd
      have hput : (built.put d.id (d.newReport rules enabled)).entries =
          built.entries ++ [(d.id, d.newReport rules enabled)] :=
        Registry.entries_put_new (hnew d.id List.mem_cons_self) _
      have hstill : ∀ id ∈ liveIds rest,
          id ∉ (built.put d.id (d.newReport rules enabled)).ids := by
        intro id hid hmem
        rcases (Registry.mem_ids_put ..).1 hmem with hmem | rfl
        · exact hnew id (List.mem_cons_of_mem _ hid) hmem
        · exact hdrest hid
      rw [if_pos hd, Account.Draft.report_eq_newReport hinterval hflags enabled]
      show rules.build enabled (built.put d.id (d.newReport rules enabled)) rest = _
      rw [ih hrest hnodup _ hstill, hput]
      simp [newEntries, hd]
    · have hlive : liveIds (d :: rest) = liveIds rest := by simp [liveIds, hd]
      rw [hlive] at hnodup hnew
      rw [if_neg hd, ih hrest hnodup built hnew]
      simp [newEntries, hd]

/-! ## Stores -/

/-- The world is one of a set, and the poller has been left alone since it was in a certain
state. -/
def Unmoved (I : ω → Prop) (s s' : System ω) : Prop := I s'.world ∧ Untouched s s'

theorem Unmoved.gives_answer {α : Type} {reply : Reply ω α} {I : ω → Prop} {a : α}
    (h : Reply.Gives reply I a) (s : System ω) : (answer reply).Gives (Unmoved I s) a :=
  .answer h (fun _ hs => hs.1) fun _ _ hs hw => ⟨hw, hs.2.core, hs.2.timer⟩

/-- In the worlds of a set the account store has certain rows for certain numbers, none of which
lacks a value that is needed, and does not fail; nothing that collaborators do leads out of the set,
and they do not interfere with the poller. -/
structure Surroundings.LooksUp (env : Surroundings ω) (I : ω → Prop)
    (row : Int → Option Account.Draft) (enabled : Text → Bool) : Prop where
  id : ∀ x, ∀ d ∈ row x, d.id = x
  complete : ∀ x, ∀ d ∈ row x, d.isWellFormed = true → d.interval.isSome ∧ d.flags.isSome
  get : ∀ x, Reply.Gives (env.source.get x) I (row x)
  isSyncEnabled : ∀ email, Reply.Gives (env.source.isSyncEnabled email) I (enabled email)
  staysOut : env.StaysOut
  during : ∀ c s, I s.world → I ((env.during c).run s).2.world
  ofStore : ∀ c s, c.kind.isOfStore = true → I s.world → ((env.during c).run s).1 = .ok ()

/-- In the worlds of a set the account store has rows of different accounts, and finds the one with
a given number. -/
structure Surroundings.Catalogues (env : Surroundings ω) (I : ω → Prop)
    (rows : List Account.Draft) (enabled : Text → Bool) : Prop
    extends env.Supplies I rows enabled where
  nodup : (rows.map (·.id)).Nodup
  get : ∀ id, Reply.Gives (env.source.get id) I (rows.find? (·.id = id))

theorem Surroundings.Catalogues.looksUp {env : Surroundings ω} {I : ω → Prop}
    {rows : List Account.Draft} {enabled : Text → Bool} (h : env.Catalogues I rows enabled) :
    env.LooksUp I (fun id => rows.find? (·.id = id)) enabled where
  id x d hd := by simpa using List.find?_some (Option.mem_def.1 hd)
  complete x d hd := h.complete d (List.mem_of_find?_eq_some (Option.mem_def.1 hd))
  get := h.get
  isSyncEnabled := h.isSyncEnabled
  staysOut := h.staysOut
  during := h.during
  ofStore := h.ofStore

/-! ## Loading one account -/

/-- An account that is live has one new report. -/
theorem PollingRules.newEntries_of_isWellFormed (rules : PollingRules) (enabled : Text → Bool)
    {d : Account.Draft} (h : d.isWellFormed = true) :
    rules.newEntries enabled [d] = [(d.id, d.newReport rules enabled)] := by
  simp [newEntries, h]

theorem PollingRules.newEntries_of_orphans (rules : PollingRules) (enabled : Text → Bool)
    {rows : List Account.Draft} (h : ∀ d ∈ rows, d.isWellFormed = false) :
    rules.newEntries enabled rows = [] := by
  unfold newEntries
  rw [List.filter_eq_nil_iff.2 fun d hd => Bool.eq_false_iff.1 (h d hd)]
  rfl

namespace Surroundings.LooksUp

variable {env : Surroundings ω} {I : ω → Prop} {row : Int → Option Account.Draft}
  {enabled : Text → Bool} (h : env.LooksUp I row enabled)
include h

/-- Calls to the store do not fail, and nothing happens to the poller meanwhile. -/
theorem call {c : Call} (hc : c.kind.isOfStore = true) (s : System ω) :
    (env.call c).Gives (Unmoved I s) () := by
  have hkeeps : (env.call c).Keeps (Unmoved I s) := by
    intro s' hs'
    exact ⟨h.during c _ hs'.1, hs'.2.trans (h.staysOut.call c s')⟩
  refine .of_keeps hkeeps fun s' hs' => ?_
  rw [run_call]
  exact h.ofStore c _ hc hs'.1

theorem tellsEnabled (s : System ω) : env.TellsEnabled (Unmoved I s) enabled where
  note _ := fun _ hs => ⟨hs.1, hs.2.core, hs.2.timer⟩
  call email := h.call (c := .isSyncEnabled email) rfl s
  answer email := Unmoved.gives_answer (h.isSyncEnabled email) s

/-- An account that is not tracked is added at the end, if it is live. -/
theorem run_load_one {id : Int} {s : System ω} (hs : I s.world) (hid : id ∉ s.core.registry.ids) :
    ∃ s', Unmoved I s s' ∧ (load env (.one id)).run s = (.ok (), { s' with core := { s'.core with
      registry := ⟨s.core.registry.entries ++
        env.policy.polling.newEntries enabled (row id).toList⟩ } }) := by
  have hcomplete : ∀ d ∈ (row id).toList, d.isWellFormed = true →
      d.interval.isSome ∧ d.flags.isSome := fun d hd => h.complete id d (Option.mem_toList.1 hd)
  have hnodup : (liveIds (row id).toList).Nodup := by
    unfold liveIds
    cases row id with
    | none => simp
    | some d => by_cases hd : d.isWellFormed = true <;> simp [hd]
  have hbuild := env.policy.polling.build_eq enabled hcomplete hnodup .empty
    fun _ _ => List.not_mem_nil
  have hrow : (rowsFor env (.one id)).Gives (Unmoved I s) (row id).toList :=
    (h.call (c := .getAccount id) rfl s).bind
      ((Unmoved.gives_answer (h.get id) s).bind (.pure _))
  obtain ⟨s', hs', hr⟩ := load_gives (h.tellsEnabled s) hrow hbuild
    ⟨hs, Untouched.refl s⟩ (LoadMode.isNeeded_one_iff.2 hid)
  refine ⟨s', hs', hr.trans ?_⟩
  have hids : ∀ x ∈ liveIds (row id).toList, x ∉ s'.core.registry.ids := by
    intro x hx
    obtain ⟨d, hd, rfl⟩ := List.mem_map.1 hx
    have hrow : d ∈ row id := Option.mem_toList.1 (List.mem_filter.1 hd).1
    rw [h.id id d hrow, hs'.2.registry]
    exact hid
  have hadd : s'.core.registry.addMissing
        ⟨env.policy.polling.newEntries enabled (row id).toList⟩ =
      ⟨s.core.registry.entries ++ env.policy.polling.newEntries enabled (row id).toList⟩ := by
    rw [Registry.addMissing_of_new, hs'.2.registry]
    · unfold Registry.ids
      rw [PollingRules.map_fst_newEntries]
      exact hnodup
    · unfold Registry.ids
      rw [PollingRules.map_fst_newEntries]
      exact hids
  unfold Core.published
  dsimp only [Registry.empty, List.nil_append]
  rw [hadd]

end Surroundings.LooksUp

/-- Loading all accounts where nothing is tracked, or whatever is, leaves their new reports. -/
theorem Surroundings.Catalogues.run_load_all {env : Surroundings ω} {I : ω → Prop}
    {rows : List Account.Draft} {enabled : Text → Bool} (h : env.Catalogues I rows enabled)
    {mode : LoadMode} (hmode : mode = .fillIfEmpty ∨ mode = .forceReset) {s : System ω}
    (hs : I s.world) (hneeded : mode.isNeeded s.core.registry = true) :
    ∃ s', (load env mode).run s = (.ok (), s') ∧ I s'.world ∧
      s'.core.registry.entries = env.policy.polling.newEntries enabled rows := by
  have hnodup : (liveIds rows).Nodup := h.nodup.sublist (List.filter_sublist.map _)
  have hbuild := env.policy.polling.build_eq enabled h.complete hnodup .empty
    fun _ _ => List.not_mem_nil
  obtain ⟨s', ⟨hworld, hregistry, -⟩, hr⟩ := h.run_load hmode hbuild hs hneeded
  refine ⟨_, hr, hworld, ?_⟩
  dsimp only
  rcases hmode with rfl | rfl
  · rw [← hregistry] at hneeded
    rw [Core.registry_published_of_ids ((Registry.isEmpty_iff _).1 hneeded) (.inl rfl)]
    rfl
  · rfl

/-! ## Loading -/

/-- Loading whatever is tracked leaves exactly one report of each live account, in the order of the
store.  Filling does the same if nothing is tracked, and otherwise nothing at all.  Loading one
account does nothing at all if it is tracked, leaves everything as it is if the store has no live
account with its number, and otherwise adds at the end the report of it that loading everything
would leave. -/
theorem load_exact {env : Surroundings ω} {I : ω → Prop} {rows : List Account.Draft}
    {enabled : Text → Bool} (h : env.Catalogues I rows enabled) {s : System ω} (hs : I s.world) :
    (∃ s', (load env .forceReset).run s = (.ok (), s') ∧ I s'.world ∧
      s'.core.registry.entries = (rows.filter (·.isWellFormed)).map fun d =>
        (d.id, d.newReport env.policy.polling enabled)) ∧
    (s.core.registry.ids = [] → ∃ s', (load env .fillIfEmpty).run s = (.ok (), s') ∧
      I s'.world ∧ s'.core.registry.entries = (rows.filter (·.isWellFormed)).map fun d =>
        (d.id, d.newReport env.policy.polling enabled)) ∧
    (s.core.registry.ids ≠ [] → (load env .fillIfEmpty).run s = (.ok (), s)) ∧
    (∀ id ∈ s.core.registry.ids, (load env (.one id)).run s = (.ok (), s)) ∧
    ∀ id ∉ s.core.registry.ids, ∃ s', (load env (.one id)).run s = (.ok (), s') ∧ I s'.world ∧
      (id ∉ liveIds rows → Untouched s s') ∧
      ∀ d ∈ rows, d.isWellFormed = true → d.id = id → s'.core.registry.entries =
        s.core.registry.entries ++ [(id, d.newReport env.policy.polling enabled)] := by
  refine ⟨?_, fun hempty => ?_, load_fillIfEmpty_of_ids env, fun id hid => load_one_of_mem env hid,
    fun id hid => ?_⟩
  · exact h.run_load_all (.inr rfl) hs rfl
  · exact h.run_load_all (.inl rfl) hs ((Registry.isEmpty_iff _).2 hempty)
  · obtain ⟨s', ⟨hworld, huntouched⟩, hr⟩ := h.looksUp.run_load_one hs hid
    refine ⟨_, hr, hworld, fun horphan => ?_, fun d hd hlive hdid => ?_⟩
    · have horphans : ∀ d ∈ (rows.find? (·.id = id)).toList, d.isWellFormed = false := by
        intro d hd
        have hfind := Option.mem_toList.1 hd
        refine Bool.eq_false_iff.2 fun hlive => horphan ?_
        rw [← h.looksUp.id id d hfind]
        exact List.mem_map_of_mem (List.mem_filter.2 ⟨List.mem_of_find?_eq_some hfind, hlive⟩)
      rw [PollingRules.newEntries_of_orphans _ _ horphans, List.append_nil,
        ← huntouched.registry]
      exact huntouched
    · subst hdid
      rw [find?_id_of_mem h.nodup hd, Option.toList_some,
        PollingRules.newEntries_of_isWellFormed _ _ hlive]

namespace Rehearsal

/-- A roster of different accounts is such a store, as long as nothing fails. -/
theorem catalogues_ofRoster (setup : Setup) (limit : Nat) {w : World} {r : Roster}
    (hsource : w.source = .roster r) (hfailures : w.failures = [])
    (hnodup : (r.accounts.map (·.id)).Nodup) (hcomplete : ∀ d ∈ r.accounts,
      d.isWellFormed = true → d.interval.isSome ∧ d.flags.isSome) :
    (surroundings setup limit 0).Catalogues (· = w) r.accounts
      (fun email => !r.disabled.contains email) where
  complete := hcomplete
  list := gives_ofRoster (·.accounts) _ fun _ hw => ⟨r, hw ▸ hsource, rfl⟩
  isSyncEnabled email :=
    gives_ofRoster (!·.disabled.contains email) _ fun _ hw => ⟨r, hw ▸ hsource, rfl⟩
  staysOut := staysOut_surroundings setup limit
  during c s hs := by
    rw [run_during]
    exact hs
  ofStore c s _ hs := by
    rw [run_during, hs, hfailures]
    rfl
  nodup := hnodup
  get id := gives_ofRoster (·.find? id) _ fun _ hw => ⟨r, hw ▸ hsource, rfl⟩

/-- A leftover of a failed setup, an account whose protocol is not polled, one with no time between
its checks, and one that is never checked. -/
def oddAccounts : Roster where
  accounts := [
    ⟨1, some "", some 1, some 2, some 15, some 1, some "imap"⟩,
    ⟨2, some "b@example.org", some 3, some 4, some 60, some 3, some "eas"⟩,
    ⟨3, some "c@example.org", some 5, some 6, some 0, some 2, some "pop3"⟩,
    ⟨4, some "d@example.org", some 7, some 8, some (-5), some (-1), some "imap"⟩]
  disabled := ["c@example.org"]

/-- A poller among these accounts that tracks one which is gone. -/
def oddPoller : System World where
  core := { registry := ⟨[(9, .resumed 9 15 true true 500000)]⟩ }
  clock := 1000000
  world := { source := .roster oddAccounts }

/-- Collaborators of a poller that polls each minute. -/
def minutely : Surroundings World :=
  surroundings { policy := { polling := { oneMinute := true } } } 1 0

theorem catalogues_minutely : minutely.Catalogues (· = oddPoller.world) oddAccounts.accounts
    fun email => !oddAccounts.disabled.contains email :=
  catalogues_ofRoster (r := oddAccounts) _ 1 rfl rfl (by decide) (by decide)

/-- The leftover is passed over, and only the account with no time between its checks is polled. -/
theorem load_exact_oddPoller : ∃ s' s'',
    (load minutely .forceReset).run oddPoller = (.ok (), s') ∧
    s'.core.registry.entries = [
      (2, .resumed 2 (-1) true true 0),
      (3, .resumed 3 1 false false 0),
      (4, .resumed 4 (-5) true true 0)] ∧
    (load minutely (.one 3)).run oddPoller = (.ok (), s'') ∧
    s''.core.registry.entries = [
      (9, .resumed 9 15 true true 500000),
      (3, .resumed 3 1 false false 0)] := by
  obtain ⟨⟨s', hr, -, hentries⟩, -, -, -, hone⟩ := load_exact catalogues_minutely rfl
  obtain ⟨s'', hr', -, -, hadded⟩ := hone 3 (by decide)
  refine ⟨s', s'', hr, ?_, hr', ?_⟩
  · rw [hentries]
    decide +kernel
  · rw [hadded _ (List.mem_of_getElem? (i := 2) rfl) (by decide +kernel) rfl]
    decide +kernel

end Rehearsal

end MailSchedule

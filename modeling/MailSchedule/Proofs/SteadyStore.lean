import MailSchedule.Proofs.Rehearsing

/-!
# Loading from a store whose accounts stay the same

A store whose accounts stay the same supplies the same rows whenever it is asked.  Loading all of
them leaves exactly the live accounts tracked, and loading one of them adds it if it is live.

Results:

* `Surroundings.Fixed`: a store whose accounts stay the same.
* `Full`, `Whole`: numbers that are exactly those of the live accounts, or none.
* `Surroundings.Fixed.load_fillIfEmpty`, `.refresh`, `.update`: which accounts are tracked after
  loading.
-/

namespace MailSchedule

variable {ω : Type}

/-! ## Whole registries -/

/-- Exactly the live accounts among some rows are tracked. -/
def Full (rows : List Account.Draft) (ids : List Int) : Prop := ∀ x, x ∈ ids ↔ x ∈ liveIds rows

/-- Nothing is tracked, or exactly the live accounts among some rows. -/
def Whole (rows : List Account.Draft) (ids : List Int) : Prop := ids = [] ∨ Full rows ids

theorem Full.whole {rows : List Account.Draft} {ids : List Int} (h : Full rows ids) :
    Whole rows ids := Or.inr h

/-! ## A store whose accounts stay the same -/

/-- Calls to the account store. -/
def Call.Kind.isOfStore : Call.Kind → Bool
  | .listAccounts | .getAccount | .isSyncEnabled | .newMessageCount | .idsWithProtocol => true
  | _ => false

/-- In the worlds of a set the account store has certain rows, knows for which accounts it has
counts, and does not fail; nothing that collaborators do leads out of the set, and they do not
interfere with the poller. -/
structure Surroundings.Fixed (env : Surroundings ω) (I : ω → Prop) (rows : List Account.Draft)
    (enabled : Text → Bool) (counted : Int → Bool) (withProtocol : Text → List Int) :
    Prop where
  /-- Every number stands for one account. -/
  nodup : (rows.map (·.id)).Nodup
  complete : ∀ d ∈ rows, d.isWellFormed = true → d.interval.isSome ∧ d.flags.isSome
  list : Reply.Gives env.source.list I rows
  get : ∀ id, Reply.Gives (env.source.get id) I (rows.find? (·.id = id))
  isSyncEnabled : ∀ email, Reply.Gives (env.source.isSyncEnabled email) I (enabled email)
  count : ∀ id w, I w → ∃ c w', env.source.count id w = (.ok c, w') ∧ I w' ∧
    c.isSome = counted id
  idsWithProtocol : ∀ protocol,
    Reply.Gives (env.source.idsWithProtocol protocol) I (withProtocol protocol)
  resetCount : ∀ target w, I w → I (env.source.resetCount target w).2
  delete : ∀ id w, I w → I (env.checker.delete id w).2
  staysOut : env.StaysOut
  during : ∀ c s, I s.world → I ((env.during c).run s).2.world
  ofStore : ∀ c s, c.kind.isOfStore = true → I s.world → ((env.during c).run s).1 = .ok ()

/-- The world is one of a set, and the numbers tracked have a property. -/
def Tracks (I : ω → Prop) (X : List Int → Prop) (s : System ω) : Prop :=
  I s.world ∧ X s.core.registry.ids

theorem Reply.Gives.world {α : Type} {reply : Reply ω α} {I : ω → Prop} {a : α}
    (h : Reply.Gives reply I a) {w : ω} (hw : I w) : I (reply w).2 := by
  obtain ⟨w', hr, hw'⟩ := h w hw
  rw [hr]
  exact hw'

theorem Tracks.whole {I : ω → Prop} {rows : List Account.Draft} {s : System ω}
    (h : Tracks I (Full rows) s) : Tracks I (Whole rows) s := ⟨h.1, h.2.whole⟩

theorem Tracks.aside {I : ω → Prop} {X : List Int → Prop} {s : System ω} {c : Core}
    (h : Tracks I X s) (hc : c.registry = s.core.registry) : Tracks I X { s with core := c } :=
  ⟨h.1, by dsimp only; rw [hc]; exact h.2⟩

theorem Tracks.gives_answer {α : Type} {reply : Reply ω α} {I : ω → Prop} {a : α}
    (h : Reply.Gives reply I a) (X : List Int → Prop) : (answer reply).Gives (Tracks I X) a :=
  .answer h (fun _ hs => hs.1) fun _ _ hs hw => ⟨hw, hs.2⟩

/-- Where every number stands for one account, a row is found by its number. -/
theorem find?_id_of_mem {rows : List Account.Draft} (h : (rows.map (·.id)).Nodup)
    {d : Account.Draft} (hd : d ∈ rows) : rows.find? (·.id = d.id) = some d := by
  cases hfind : rows.find? (·.id = d.id) with
  | none =>
    have hnone := List.find?_eq_none.1 hfind d hd
    simp at hnone
  | some d' =>
    have hid : d'.id = d.id := by simpa using List.find?_some hfind
    rw [List.inj_on_of_nodup_map h (List.mem_of_find?_eq_some hfind) hd hid]

/-- In the row of an account is whether it is live. -/
theorem mem_liveIds_find? {rows : List Account.Draft} (h : (rows.map (·.id)).Nodup) (id x : Int) :
    x ∈ liveIds (rows.find? (·.id = id)).toList ↔ x = id ∧ x ∈ liveIds rows := by
  unfold liveIds
  rw [List.mem_map, List.mem_map]
  constructor
  · rintro ⟨d, hd, rfl⟩
    obtain ⟨hmem, hlive⟩ := List.mem_filter.1 hd
    have hfind := Option.mem_toList.1 hmem
    have hid : d.id = id := by simpa using List.find?_some hfind
    exact ⟨hid, d, List.mem_filter.2 ⟨List.mem_of_find?_eq_some hfind, hlive⟩, rfl⟩
  · rintro ⟨rfl, d, hd, hid⟩
    obtain ⟨hmem, hlive⟩ := List.mem_filter.1 hd
    refine ⟨d, List.mem_filter.2 ⟨Option.mem_toList.2 ?_, hlive⟩, hid⟩
    rw [← hid]
    exact find?_id_of_mem h hmem

namespace Surroundings.Fixed

variable {env : Surroundings ω} {I : ω → Prop} {rows : List Account.Draft}
  {enabled : Text → Bool} {counted : Int → Bool} {withProtocol : Text → List Int}
  (h : env.Fixed I rows enabled counted withProtocol)
include h

theorem respects (X : List Int → Prop) : env.Respects (Tracks I X) where
  record _ := fun _ hs => hs
  during c s hs := by
    refine ⟨h.during c s hs.1, ?_⟩
    rw [(h.staysOut c s).registry]
    exact hs.2
  list := .answer _ (fun _ _ hs => hs) fun _ hs => ⟨h.list.world hs.1, hs.2⟩
  get id := .answer _ (fun _ _ hs => hs) fun _ hs => ⟨(h.get id).world hs.1, hs.2⟩
  isSyncEnabled email :=
    .answer _ (fun _ _ hs => hs) fun _ hs => ⟨(h.isSyncEnabled email).world hs.1, hs.2⟩
  count id := .answer _ (fun _ _ hs => hs) fun s hs => by
    obtain ⟨c, w, hr, hw, -⟩ := h.count id s.world hs.1
    rw [hr]
    exact ⟨hw, hs.2⟩
  resetCount target :=
    .answer _ (fun _ _ hs => hs) fun _ hs => ⟨h.resetCount target _ hs.1, hs.2⟩
  idsWithProtocol protocol :=
    .answer _ (fun _ _ hs => hs) fun _ hs => ⟨(h.idsWithProtocol protocol).world hs.1, hs.2⟩
  delete id := .answer _ (fun _ _ hs => hs) fun _ hs => ⟨h.delete id _ hs.1, hs.2⟩

theorem spares (X : List Int → Prop) : env.Spares (Tracks I X) := (h.respects X).spares

/-- The worlds of the set may have another property that nothing breaks. -/
theorem and {J : ω → Prop} (hJ : env.Respects fun s => J s.world) :
    env.Fixed (fun w => I w ∧ J w) rows enabled counted withProtocol := by
  have hworld : ∀ {α : Type} {reply : Reply ω α}, ((answer reply).Keeps fun s => J s.world) →
      ∀ w, J w → J (reply w).2 := by
    intro α reply hkeeps w hw
    rw [← run_answer_world { clock := 0, world := w } reply]
    exact hkeeps _ hw
  have hgives : ∀ {α : Type} {reply : Reply ω α} {a : α}, Reply.Gives reply I a →
      ((answer reply).Keeps fun s => J s.world) →
      Reply.Gives reply (fun w => I w ∧ J w) a := by
    intro α reply a hreply hkeeps w hw
    obtain ⟨w', hr, hw'⟩ := hreply w hw.1
    have hJ' := hworld hkeeps w hw.2
    rw [hr] at hJ'
    exact ⟨w', hr, hw', hJ'⟩
  exact {
    nodup := h.nodup
    complete := h.complete
    list := hgives h.list hJ.list
    get := fun id => hgives (h.get id) (hJ.get id)
    isSyncEnabled := fun email => hgives (h.isSyncEnabled email) (hJ.isSyncEnabled email)
    count := fun id w hw => by
      obtain ⟨c, w', hr, hw', hc⟩ := h.count id w hw.1
      have hJ' := hworld (hJ.count id) w hw.2
      rw [hr] at hJ'
      exact ⟨c, w', hr, ⟨hw', hJ'⟩, hc⟩
    idsWithProtocol := fun p => hgives (h.idsWithProtocol p) (hJ.idsWithProtocol p)
    resetCount := fun target w hw =>
      ⟨h.resetCount target w hw.1, hworld (hJ.resetCount target) w hw.2⟩
    delete := fun id w hw => ⟨h.delete id w hw.1, hworld (hJ.delete id) w hw.2⟩
    staysOut := h.staysOut
    during := fun c s hs => ⟨h.during c s hs.1, hJ.during c s hs.2⟩
    ofStore := fun c s hc hs => h.ofStore c s hc hs.1 }

/-- Calls to the store do not fail. -/
theorem call {c : Call} (hc : c.kind.isOfStore = true) (X : List Int → Prop) :
    (env.call c).Gives (Tracks I X) () :=
  .of_keeps ((h.respects X).call c) fun s hs => by
    rw [run_call]
    exact h.ofStore c _ hc hs.1

theorem tellsEnabled (X : List Int → Prop) : env.TellsEnabled (Tracks I X) enabled where
  note := (h.spares X).note
  call email := h.call (c := .isSyncEnabled email) rfl X
  answer email := Tracks.gives_answer (h.isSyncEnabled email) X

/-! ## Loading -/

theorem rowsFor_all {mode : LoadMode} (hmode : mode = .fillIfEmpty ∨ mode = .forceReset)
    (X : List Int → Prop) : (rowsFor env mode).Gives (Tracks I X) rows := by
  have hall : Act.Gives (do
      env.call .listAccounts
      answer env.source.list) (Tracks I X) rows :=
    (h.call (c := .listAccounts) rfl X).bind (Tracks.gives_answer h.list X)
  rcases hmode with rfl | rfl <;> exact hall

theorem build_rows : ∃ built, env.policy.polling.build enabled .empty rows = .ok built ∧
    Full rows built.ids := by
  obtain ⟨built, hbuilt⟩ := env.policy.polling.build_isOk enabled h.complete .empty
  exact ⟨built, hbuilt, PollingRules.mem_ids_build_empty hbuilt⟩

/-- Loading all accounts leaves the registry full, if it loads at all. -/
theorem load_all {mode : LoadMode} (hmode : mode = .fillIfEmpty ∨ mode = .forceReset)
    {s : System ω} (hs : I s.world) (hneeded : mode.isNeeded s.core.registry = true) :
    ∃ s', (load env mode).run s = (.ok (), s') ∧ Tracks I (Full rows) s' := by
  obtain ⟨built, hbuilt, hfull⟩ := h.build_rows
  obtain ⟨s', hs', hr⟩ := load_gives (h.tellsEnabled (· = s.core.registry.ids))
    (h.rowsFor_all hmode _) hbuilt ⟨hs, rfl⟩ hneeded
  have hregistry : (s'.core.published mode built).registry = built := by
    rcases hmode with rfl | rfl
    · refine Core.registry_published_of_ids ?_ (Or.inl rfl) built
      rw [hs'.2]
      exact (Registry.isEmpty_iff _).1 hneeded
    · rfl
  refine ⟨_, hr, hs'.1, ?_⟩
  dsimp only
  rw [hregistry]
  exact hfull

/-- Filling a whole registry leaves it full. -/
theorem load_fillIfEmpty :
    (load env .fillIfEmpty).Leads (Tracks I (Whole rows)) (Tracks I (Full rows)) := by
  intro s hs
  by_cases hids : s.core.registry.ids = []
  · obtain ⟨s', hr, hs'⟩ := h.load_all (Or.inl rfl) hs.1 ((Registry.isEmpty_iff _).2 hids)
    rw [hr]
    exact hs'
  · rw [load_fillIfEmpty_of_ids env hids]
    exact ⟨hs.1, hs.2.resolve_left hids⟩

theorem refresh : (refresh env).Leads (Tracks I (Whole rows)) (Tracks I (Full rows)) := by
  intro s hs
  obtain ⟨s', hr, hs'⟩ := h.load_all (s := { s with
    core := { s.core with keepsakes := none :: s.core.keepsakes } }) (Or.inr rfl) hs.1 rfl
  rw [run_refresh, hr]
  refine ⟨hs'.1, ?_⟩
  unfold Core.carriedForward Registry.carryForward
  rw [Registry.ids_map]
  exact hs'.2

/-- An account whose check is recorded is added, if it is live. -/
theorem update (id : Int) (unseen : Option Int) {s : System ω} (hs : I s.world) :
    ∃ report s', (update env id unseen).run s = (.ok report, s') ∧ I s'.world ∧
      ∀ x, x ∈ s'.core.registry.ids ↔
        x ∈ s.core.registry.ids ∨ (x = id ∧ x ∈ liveIds rows) := by
  have hcomplete : ∀ d ∈ (rows.find? (·.id = id)).toList, d.isWellFormed = true →
      d.interval.isSome ∧ d.flags.isSome := fun d hd =>
    h.complete d (List.mem_of_find?_eq_some (Option.mem_toList.1 hd))
  obtain ⟨built, hbuilt⟩ := env.policy.polling.build_isOk enabled hcomplete .empty
  have hrow : (rowsFor env (.one id)).Gives (Tracks I (· = s.core.registry.ids))
      (rows.find? (·.id = id)).toList :=
    (h.call (c := .getAccount id) rfl _).bind
      ((Tracks.gives_answer (h.get id) _).bind (.pure _))
  obtain ⟨report, added, s', hs', hr, hadded⟩ :=
    update_gives (h.tellsEnabled _) hrow hbuilt unseen ⟨hs, rfl⟩
  refine ⟨report, _, hr, hs'.1, fun x => ?_⟩
  rw [System.ids_checkedNow, Registry.mem_ids_addMissing, hadded, mem_liveIds_find? h.nodup, hs'.2]
  constructor
  · rintro (hx | ⟨-, hx⟩)
    · exact Or.inl hx
    · exact Or.inr hx
  · rintro (hx | ⟨rfl, hx⟩)
    · exact Or.inl hx
    · exact or_iff_not_imp_left.2 fun hid => ⟨hid, rfl, hx⟩

theorem update_full (id : Int) (unseen : Option Int) :
    (MailSchedule.update env id unseen).Keeps (Tracks I (Full rows)) := by
  intro s hs
  obtain ⟨report, s', hr, hs', hadd⟩ := h.update id unseen hs.1
  rw [hr]
  refine ⟨hs', fun x => (hadd x).trans ⟨?_, fun hx => Or.inl ((hs.2 x).2 hx)⟩⟩
  rintro (hx | ⟨-, hx⟩)
  · exact (hs.2 x).1 hx
  · exact hx

end Surroundings.Fixed

/-! ## Two accounts in memory -/

namespace Rehearsal

/-- Worlds with these two accounts, in which nothing fails. -/
structure OfTwoAccounts (w : World) : Prop where
  roster : ∃ r, w.source = .roster r ∧ r.accounts = twoAccounts.accounts ∧ r.disabled = []
  failures : w.failures = []
  deleteRemoves : w.deleteRemoves = false

theorem ofTwoAccounts_twoAccountsWorld : OfTwoAccounts twoAccountsWorld :=
  ⟨⟨twoAccounts, rfl, rfl, rfl⟩, rfl, rfl⟩

/-- What depends on nothing but the accounts is always answered alike. -/
theorem gives_ofTwoAccounts {α : Type} {ofRoster : Roster → α} (ofStore : Store.Act α) {a : α}
    (h : ∀ r : Roster, r.accounts = twoAccounts.accounts → r.disabled = [] → ofRoster r = a) :
    Reply.Gives (askSource ofRoster ofStore) OfTwoAccounts a :=
  gives_ofRoster ofRoster ofStore fun _ hw => by
    obtain ⟨r, hr, haccounts, hdisabled⟩ := hw.roster
    exact ⟨r, hr, h r haccounts hdisabled⟩

theorem fixed_inMemory : inMemory.Fixed OfTwoAccounts twoAccounts.accounts (fun _ => true)
    (fun id => (twoAccounts.find? id).isSome) twoAccounts.idsWithProtocol where
  nodup := by decide
  complete := by decide
  list := gives_ofTwoAccounts _ fun r hr _ => hr
  get id := gives_ofTwoAccounts _ fun r hr _ => by
    unfold Roster.find?
    rw [hr]
  isSyncEnabled email := gives_ofTwoAccounts _ fun r _ hr => by
    rw [hr]
    rfl
  count id w hw := by
    obtain ⟨r, hr, haccounts, -⟩ := hw.roster
    obtain ⟨w', hreply, hw'⟩ := gives_ofRoster (J := fun v => v = w) (·.count? id) (Store.count id)
      (a := r.count? id) (by rintro _ rfl; exact ⟨r, hr, rfl⟩) w rfl
    refine ⟨r.count? id, w', hreply, hw' ▸ hw, ?_⟩
    unfold Roster.count? Roster.find?
    rw [haccounts, Option.isSome_map]
  idsWithProtocol protocol := gives_ofTwoAccounts _ fun r hr _ => by
    unfold Roster.idsWithProtocol
    rw [hr]
  resetCount target w hw := by
    obtain ⟨r, hr, haccounts, hdisabled⟩ := hw.roster
    show OfTwoAccounts (ofSource (fun r => ((), r.resetCount target)) _ w).2
    unfold ofSource
    rw [hr]
    refine ⟨⟨r.resetCount target, rfl, ?_, ?_⟩, hw.failures, hw.deleteRemoves⟩
    · cases target <;> exact haccounts
    · cases target <;> exact hdisabled
  delete id w hw := by
    show OfTwoAccounts (if w.deleteRemoves = true then _ else (Except.ok (), w)).2
    rw [hw.deleteRemoves]
    exact hw
  staysOut := staysOut_surroundings {} 1
  during c s hs := by
    show OfTwoAccounts (((surroundings {} 1 0).during c).run s).2.world
    rw [run_during]
    exact hs
  ofStore c s _ hs := by
    show (((surroundings {} 1 0).during c).run s).1 = .ok ()
    rw [run_during, hs.failures]
    rfl

end Rehearsal

end MailSchedule

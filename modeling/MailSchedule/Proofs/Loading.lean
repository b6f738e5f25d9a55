import MailSchedule.Proofs.Collaborators
import MailSchedule.Proofs.Reports

/-!
# Loading

Loading asks the account store first and publishes what was built at the end.  If a collaborator
fails, nothing is published.  If the store answers, what is published follows from its rows.

Results:

* `load_steps`, `load_cases`, `run_refresh`, `refresh_cases`: what loading and rebuilding may come to
  among any collaborators.
* `Surroundings.Overlooks`: a property that does not depend on the accounts tracked.
* `Registry.Unchecked`: what holds of the registries that are published.
* `liveRow?`, `find?_buildReports`: the row from which a report is built.
* `PollingRules.build`: the registry of some rows.
* `load_gives`, `update_gives`: what loading and recording checks come to if the store answers.
-/

namespace MailSchedule

variable {ω : Type}

/-! ## Registries that are built -/

/-- A sound registry of accounts that were never checked, and of which no message was counted. -/
structure Registry.Unchecked (r : Registry) : Prop extends Sound r where
  never : ∀ e ∈ r.entries, e.2.prevSync = neverChecked
  uncounted : ∀ e ∈ r.entries, e.2.unseen = 0 ∧ e.2.lastUnseen = 0

namespace Registry

theorem unchecked_empty : empty.Unchecked where
  toSound := sound_empty
  never := by simp [empty]
  uncounted := by simp [empty]

theorem entries_put (r : Registry) (id : Int) (report : Report) {e : Int × Report}
    (he : e ∈ (r.put id report).entries) : e ∈ r.entries ∨ e = (id, report) := by
  unfold put at he
  split at he
  · rw [entries_modify] at he
    obtain ⟨d, hd, rfl⟩ := List.mem_map.1 he
    by_cases hid : d.1 = id
    · exact Or.inr (by rw [if_pos hid, hid])
    · exact Or.inl (by rw [if_neg hid]; exact hd)
  · rcases List.mem_append.1 he with he | he
    · exact Or.inl he
    · exact Or.inr (List.mem_singleton.1 he)

/-- A report for a number that is not tracked is put at the end. -/
theorem entries_put_new {r : Registry} {id : Int} (h : id ∉ r.ids) (report : Report) :
    (r.put id report).entries = r.entries ++ [(id, report)] := by
  unfold put
  rw [if_neg (mt (mem_ids_iff r id).2 h)]

theorem find?_put (r : Registry) (id : Int) (report : Report) (x : Int) :
    (r.put id report).find? x = if x = id then some report else r.find? x := by
  by_cases hid : id ∈ r.ids
  · unfold put
    rw [if_pos ((mem_ids_iff r id).1 hid), find?_modify]
    by_cases hx : x = id
    · obtain ⟨old, hold⟩ := Option.isSome_iff_exists.1 ((mem_ids_iff r id).1 hid)
      rw [if_pos hx, if_pos hx, hx, hold]
      rfl
    · rw [if_neg hx, if_neg hx]
  · have hnone : r.find? id = none := (find?_eq_none_iff r id).2 hid
    show (r.put id report).entries.lookup x = _
    rw [entries_put_new hid, List.lookup_append, List.lookup_cons]
    by_cases hx : x = id
    · rw [hx, if_pos rfl, show r.entries.lookup id = none from hnone]
      simp
    · rw [if_neg hx, beq_eq_false_iff_ne.2 hx]
      exact Option.or_none

theorem mem_ids_put (r : Registry) (id x : Int) (report : Report) :
    x ∈ (r.put id report).ids ↔ x ∈ r.ids ∨ x = id := by
  unfold put
  split
  · rename_i hc
    rw [ids_modify]
    refine ⟨Or.inl, ?_⟩
    rintro (hx | rfl)
    · exact hx
    · exact (mem_ids_iff r x).2 hc
  · simp [ids]

theorem mem_ids_putNew (r : Registry) (id x : Int) (report : Report) :
    x ∈ (r.putNew id report).ids ↔ x ∈ r.ids ∨ x = id := by
  unfold putNew
  split
  · rename_i hc
    refine ⟨Or.inl, ?_⟩
    rintro (hx | rfl)
    · exact hx
    · exact (mem_ids_iff r x).2 hc
  · simp [ids]

theorem mem_ids_addMissing (r fresh : Registry) (x : Int) :
    x ∈ (r.addMissing fresh).ids ↔ x ∈ r.ids ∨ x ∈ fresh.ids := by
  obtain ⟨es⟩ := fresh
  unfold addMissing
  induction es generalizing r with
  | nil => simp [ids]
  | cons e es ih =>
    have h := ih (r.putNew e.1 e.2)
    rw [mem_ids_putNew] at h
    rw [List.foldl_cons, h]
    simp only [ids, List.map_cons, List.mem_cons]
    exact or_assoc

theorem mem_entries_addMissing {r fresh : Registry} {e : Int × Report}
    (he : e ∈ (r.addMissing fresh).entries) : e ∈ r.entries ∨ e ∈ fresh.entries := by
  obtain ⟨es⟩ := fresh
  unfold addMissing at he
  induction es generalizing r with
  | nil => exact Or.inl he
  | cons d es ih =>
    rcases ih (r := r.putNew d.1 d.2) he with he | he
    · unfold putNew at he
      split at he
      · exact Or.inl he
      · rcases List.mem_append.1 he with he | he
        · exact Or.inl he
        · exact Or.inr (List.mem_cons.2 (Or.inl (List.mem_singleton.1 he)))
    · exact Or.inr (List.mem_cons_of_mem d he)

/-- Reports of accounts that are not tracked are added at the end. -/
theorem addMissing_of_new {r fresh : Registry} (hnodup : fresh.ids.Nodup)
    (hnew : ∀ id ∈ fresh.ids, id ∉ r.ids) :
    r.addMissing fresh = ⟨r.entries ++ fresh.entries⟩ := by
  obtain ⟨es⟩ := fresh
  unfold addMissing
  induction es generalizing r with
  | nil => simp
  | cons e es ih =>
    obtain ⟨he, hnodup⟩ := List.nodup_cons.1 hnodup
    have hput : r.putNew e.1 e.2 = ⟨r.entries ++ [e]⟩ := by
      have hnot : ¬r.contains e.1 = true := by
        rw [← mem_ids_iff]
        exact hnew e.1 List.mem_cons_self
      unfold putNew
      rw [if_neg hnot]
    have hstill : ∀ id ∈ ids ⟨es⟩, id ∉ ids ⟨r.entries ++ [e]⟩ := by
      intro id hid hmem
      have hcases : id ∈ r.ids ∨ id = e.1 := by simpa [ids] using hmem
      rcases hcases with hmem | rfl
      · exact hnew id (List.mem_cons_of_mem _ hid) hmem
      · exact he hid
    show (es.foldl (fun acc e => acc.putNew e.1 e.2) (r.putNew e.1 e.2)) = _
    rw [hput, ih hnodup hstill]
    simp

/-- Reports that are added leave those alone that are there. -/
theorem find?_addMissing {r : Registry} {x : Int} {report : Report} (h : r.find? x = some report)
    (fresh : Registry) : (r.addMissing fresh).find? x = some report := by
  unfold addMissing
  induction fresh.entries generalizing r with
  | nil => exact h
  | cons e es ih =>
    refine ih (r := r.putNew e.1 e.2) ?_
    unfold putNew
    split
    · exact h
    · show (r.entries ++ [(e.1, e.2)]).lookup x = some report
      rw [List.lookup_append, show r.entries.lookup x = some report from h]
      rfl

theorem Unchecked.put {r : Registry} (h : r.Unchecked) {id : Int} {report : Report}
    (haccount : report.account = id) (hschedule : report.OnSchedule)
    (hnever : report.prevSync = neverChecked)
    (huncounted : report.unseen = 0 ∧ report.lastUnseen = 0) : (r.put id report).Unchecked where
  toSound := h.toSound.put haccount hschedule
  never e he := by
    rcases entries_put r id report he with he | rfl
    · exact h.never e he
    · exact hnever
  uncounted e he := by
    rcases entries_put r id report he with he | rfl
    · exact h.uncounted e he
    · exact huncounted

end Registry

/-! ## Publishing -/

/-- What the poller remembers after reports were published. -/
def Core.published (c : Core) (mode : LoadMode) (built : Registry) : Core :=
  match mode with
  | .forceReset => c.replaceRegistry built
  | .fillIfEmpty => if c.registry.isEmpty then c.replaceRegistry built else c
  | .one _ => { c with registry := c.registry.addMissing built }

@[simp]
theorem run_publish (mode : LoadMode) (built : Registry) (s : System ω) :
    Act.run (publish mode built) s =
      (.ok (), { s with core := s.core.published mode built }) := by
  unfold publish Core.published
  cases mode with
  | forceReset => rfl
  | one id => rfl
  | fillIfEmpty =>
    simp only [Act.run_bind, run_registry]
    split
    · rfl
    · rfl

/-- Publishing concerns nothing but the registry and what is kept of the one that is given up. -/
theorem Core.published_eq (c : Core) (mode : LoadMode) (built : Registry) :
    ∃ r k, c.published mode built = { c with registry := r, keepsakes := k } := by
  unfold published
  cases mode with
  | forceReset => exact ⟨_, _, rfl⟩
  | one id => exact ⟨_, _, rfl⟩
  | fillIfEmpty =>
    dsimp only
    split
    · exact ⟨_, _, rfl⟩
    · exact ⟨_, _, rfl⟩

/-- Publishing what is missing leaves the reports alone that are there. -/
theorem Core.find?_published {c : Core} {x : Int} {report : Report}
    (h : c.registry.find? x = some report) {mode : LoadMode} (hmode : mode ≠ .forceReset)
    (built : Registry) : (c.published mode built).registry.find? x = some report := by
  unfold published
  cases mode with
  | forceReset => exact absurd rfl hmode
  | one id => exact Registry.find?_addMissing h built
  | fillIfEmpty =>
    dsimp only
    split
    · rename_i hempty
      rw [Registry.find?_of_isEmpty hempty] at h
      cases h
    · exact h

theorem Core.registry_published_of_ids {c : Core} (h : c.registry.ids = []) {mode : LoadMode}
    (hmode : mode = .fillIfEmpty ∨ mode = .forceReset) (built : Registry) :
    (c.published mode built).registry = built := by
  unfold Core.published
  rcases hmode with rfl | rfl
  · dsimp only
    rw [if_pos ((Registry.isEmpty_iff _).2 h)]
    rfl
  · rfl

/-! ## Loading among any collaborators -/

/-- A report that was built is a fresh one with the interval of its row. -/
theorem buildReport_eq_fresh {env : Surroundings ω} {d : Account.Draft} {s : System ω}
    {report : Report} (h : ((buildReport env d).run s).1 = .ok report) :
    ∃ interval enabled notify, env.policy.polling.intervalOfDraft d = .ok interval ∧
      report = .fresh d.id interval enabled notify := by
  unfold buildReport at h
  simp only [Act.run_bind, run_resultOf] at h
  split at h
  swap
  · cases h
  rename_i hinterval
  split at h
  swap
  · cases h
  split at h
  swap
  · cases h
  split at h
  swap
  · cases h
  exact ⟨_, _, _, congrArg Prod.fst hinterval, (Except.ok.inj h).symm⟩

/-- It belongs to its row, its account counts as never checked, and no message of it was counted. -/
theorem buildReport_ok {env : Surroundings ω} {d : Account.Draft} {s : System ω} {report : Report}
    (h : ((buildReport env d).run s).1 = .ok report) :
    report.account = d.id ∧ report.OnSchedule ∧ report.prevSync = neverChecked ∧
      report.unseen = 0 ∧ report.lastUnseen = 0 := by
  obtain ⟨interval, enabled, notify, -, rfl⟩ := buildReport_eq_fresh h
  exact ⟨rfl, Report.onSchedule_fresh .., rfl, rfl, rfl⟩

theorem buildReports_ok {env : Surroundings ω} {ds : List Account.Draft} {built r : Registry}
    (hbuilt : built.Unchecked) {s : System ω}
    (h : ((buildReports env built ds).run s).1 = .ok r) : r.Unchecked := by
  induction ds generalizing built s with
  | nil =>
    cases h
    exact hbuilt
  | cons d rest ih =>
    unfold buildReports at h
    split at h
    · rw [Act.run_bind] at h
      rcases hr : (buildReport env d).run s with ⟨result, s'⟩
      rw [hr] at h
      cases result with
      | ok report =>
        obtain ⟨haccount, hschedule, hnever, huncounted⟩ := buildReport_ok (congrArg Prod.fst hr)
        exact ih (hbuilt.put haccount hschedule hnever huncounted) h
      | error e => cases h
    · exact ih hbuilt h

/-- The numbers of the live accounts among some rows. -/
def liveIds (rows : List Account.Draft) : List Int := (rows.filter (·.isWellFormed)).map (·.id)

/-- Among the reports that were built is one of each live account. -/
theorem mem_ids_buildReports {env : Surroundings ω} {ds : List Account.Draft} {built r : Registry}
    {s : System ω} (h : ((buildReports env built ds).run s).1 = .ok r) (x : Int) :
    x ∈ r.ids ↔ x ∈ built.ids ∨ x ∈ liveIds ds := by
  induction ds generalizing built s with
  | nil =>
    cases h
    simp [liveIds]
  | cons d rest ih =>
    unfold buildReports at h
    by_cases hd : d.isWellFormed = true
    · rw [if_pos hd, Act.run_bind] at h
      rcases hr : (buildReport env d).run s with ⟨_ | report, s'⟩
      · rw [hr] at h
        cases h
      rw [hr] at h
      rw [ih h, Registry.mem_ids_put]
      simp only [liveIds, List.filter_cons, hd, if_true, List.map_cons, List.mem_cons]
      exact or_assoc
    · rw [if_neg hd] at h
      rw [ih h]
      simp only [liveIds, List.filter_cons, hd, if_false, Bool.false_eq_true]

/-- The last of the rows of live accounts with a number. -/
def liveRow? (rows : List Account.Draft) (id : Int) : Option Account.Draft :=
  rows.findRev? fun d => d.isWellFormed && d.id = id

theorem liveRow?_cons (d : Account.Draft) (rest : List Account.Draft) (id : Int) :
    liveRow? (d :: rest) id =
      (liveRow? rest id).or (if d.isWellFormed && d.id = id then some d else none) := by
  unfold liveRow?
  rw [List.findRev?]
  cases rest.findRev? fun d => d.isWellFormed && d.id = id <;> rfl

/-- A report is built from the last row with its number.  Where there is none, the report stays that
was built before. -/
theorem find?_buildReports {env : Surroundings ω} {rows : List Account.Draft}
    {built r : Registry} {s : System ω} (h : ((buildReports env built rows).run s).1 = .ok r)
    (id : Int) :
    (liveRow? rows id = none ∧ r.find? id = built.find? id) ∨
      ∃ d interval enabled notify, liveRow? rows id = some d ∧
        env.policy.polling.intervalOfDraft d = .ok interval ∧
        r.find? id = some (.fresh id interval enabled notify) := by
  induction rows generalizing built s with
  | nil =>
    cases h
    exact Or.inl ⟨rfl, rfl⟩
  | cons d rest ih =>
    unfold buildReports at h
    rw [liveRow?_cons]
    by_cases hd : d.isWellFormed = true
    · rw [if_pos hd, Act.run_bind] at h
      rcases hr : (buildReport env d).run s with ⟨_ | report, s'⟩
      · rw [hr] at h
        cases h
      rw [hr] at h
      rcases ih h with ⟨hnone, hsame⟩ | ⟨d', interval, enabled, notify, hrow, hbuilt⟩
      · rw [hnone, hsame, Registry.find?_put, Option.none_or]
        by_cases hid : id = d.id
        · obtain ⟨interval, enabled, notify, hinterval, rfl⟩ :=
            buildReport_eq_fresh (congrArg Prod.fst hr)
          subst hid
          exact Or.inr ⟨d, interval, enabled, notify, if_pos (by simp [hd]), hinterval,
            if_pos rfl⟩
        · exact Or.inl ⟨if_neg (by simp [Ne.symm hid]), if_neg hid⟩
      · exact Or.inr ⟨d', interval, enabled, notify, by rw [hrow]; rfl, hbuilt⟩
    · rw [if_neg hd] at h
      rw [if_neg (by simp [hd]), Option.or_none]
      exact ih h

/-- A line in the log that is only written under a condition. -/
theorem note_if {P : System ω → Prop} (hnote : ∀ n, Act.Keeps (note n) P) (c : Bool) (n : Notice)
    {s : System ω} (hs : P s) :
    ∃ s', P s' ∧ ∀ {α : Type} (next : Act ω α),
      Act.run (if c = true then do note n; next else next) s = Act.run next s' := by
  cases c with
  | true => exact ⟨_, hnote n s hs, fun next => by rw [if_pos rfl, Act.run_bind, run_note]⟩
  | false => exact ⟨s, hs, fun next => rfl⟩

/-- Loading has nothing to do, or fails before anything is published, or builds reports from the
rows that the store has and publishes them. -/
theorem load_steps {env : Surroundings ω} {P : System ω → Prop} (h : env.Informs P)
    (mode : LoadMode) {s : System ω} (hs : P s) :
    (mode.isNeeded s.core.registry = false ∧ (load env mode).run s = (.ok (), s)) ∨
    (mode.isNeeded s.core.registry = true ∧
      ((∃ e s', (load env mode).run s = (.error e, s') ∧ P s') ∨
        ∃ rows built s₁ s', ((rowsFor env mode).run s).1 = .ok rows ∧
          (buildReports env .empty rows).run s₁ = (.ok built, s') ∧
          (load env mode).run s = (.ok (), { s' with core := s'.core.published mode built }) ∧
          P s')) := by
  unfold load
  rw [Act.run_bind, run_registry]
  dsimp only
  cases hneeded : mode.isNeeded s.core.registry with
  | false => exact Or.inl ⟨rfl, rfl⟩
  | true =>
    refine Or.inr ⟨rfl, ?_⟩
    rw [if_pos rfl, Act.run_bind]
    have h1 := h.rowsFor mode s hs
    rcases hr : (rowsFor env mode).run s with ⟨_ | rows, s1⟩
    · exact Or.inl ⟨_, s1, rfl, by rw [hr] at h1; exact h1⟩
    rw [hr] at h1
    dsimp only
    -- A line in the log, if there is one, changes nothing that matters.
    obtain ⟨s2, h2, hnote⟩ := note_if h.note env.policy.polling.oneMinute .oneMinuteRefresh h1
    rw [hnote, Act.run_bind]
    have h3 := h.buildReports .empty rows s2 h2
    rcases hr2 : (buildReports env .empty rows).run s2 with ⟨_ | built, s3⟩
    · exact Or.inl ⟨_, s3, rfl, by rw [hr2] at h3; exact h3⟩
    rw [hr2] at h3
    exact Or.inr ⟨rows, built, s2, s3, rfl, hr2, run_publish mode built s3, h3⟩

/-- What is published are reports of accounts that were never checked, one of each live account. -/
theorem load_cases {env : Surroundings ω} {P : System ω → Prop} (h : env.Informs P)
    (mode : LoadMode) {s : System ω} (hs : P s) :
    (mode.isNeeded s.core.registry = false ∧ (load env mode).run s = (.ok (), s)) ∨
    (mode.isNeeded s.core.registry = true ∧
      ((∃ e s', (load env mode).run s = (.error e, s') ∧ P s') ∨
        ∃ rows built s', ((rowsFor env mode).run s).1 = .ok rows ∧
          (load env mode).run s = (.ok (), { s' with core := s'.core.published mode built }) ∧
          built.Unchecked ∧ (∀ x, x ∈ built.ids ↔ x ∈ liveIds rows) ∧ P s')) := by
  rcases load_steps h mode hs with hnone | ⟨hneeded, hfails | ⟨rows, built, s₁, s', hrows, hbuild,
    hr, hs'⟩⟩
  · exact Or.inl hnone
  · exact Or.inr ⟨hneeded, Or.inl hfails⟩
  · have hbuilt : ((buildReports env .empty rows).run s₁).1 = .ok built := congrArg Prod.fst hbuild
    exact Or.inr ⟨hneeded, Or.inr ⟨rows, built, s', hrows, hr,
      buildReports_ok Registry.unchecked_empty hbuilt,
      fun x => (mem_ids_buildReports hbuilt x).trans (or_iff_right List.not_mem_nil), hs'⟩⟩

theorem load_not_needed (env : Surroundings ω) {mode : LoadMode} {s : System ω}
    (h : mode.isNeeded s.core.registry = false) : (load env mode).run s = (.ok (), s) := by
  unfold load
  rw [Act.run_bind, run_registry]
  dsimp only
  rw [h]
  rfl

theorem load_fillIfEmpty_of_ids (env : Surroundings ω) {s : System ω}
    (h : s.core.registry.ids ≠ []) : (load env .fillIfEmpty).run s = (.ok (), s) :=
  load_not_needed env (Bool.eq_false_iff.2 fun he => h ((Registry.isEmpty_iff _).1 he))

theorem LoadMode.isNeeded_one_iff {r : Registry} {id : Int} :
    (LoadMode.one id).isNeeded r = true ↔ id ∉ r.ids := by
  show (!r.contains id) = true ↔ _
  rw [Bool.not_eq_true', Bool.eq_false_iff]
  exact not_congr (Registry.mem_ids_iff r id).symm

theorem load_one_of_mem (env : Surroundings ω) {s : System ω} {id : Int}
    (h : id ∈ s.core.registry.ids) : (load env (.one id)).run s = (.ok (), s) :=
  load_not_needed env (Bool.eq_false_iff.2 fun hneeded => LoadMode.isNeeded_one_iff.1 hneeded h)

/-- Loading keeps what publishing keeps. -/
theorem Surroundings.Informs.load {env : Surroundings ω} {P : System ω → Prop}
    (h : env.Informs P) (mode : LoadMode)
    (hpublish : ∀ s built, P s → built.Unchecked →
      P { s with core := s.core.published mode built }) : (load env mode).Keeps P := by
  intro s hs
  rcases load_cases h mode hs with ⟨-, hr⟩ |
    ⟨-, ⟨e, s', hr, hs'⟩ | ⟨rows, built, s', -, hr, hbuilt, -, hs'⟩⟩
  · rw [hr]
    exact hs
  · rw [hr]
    exact hs'
  · rw [hr]
    exact hpublish s' built hs' hbuilt

theorem Surroundings.Abides.load {env : Surroundings ω} {P : System ω → Prop}
    (h : env.Abides P) (mode : LoadMode)
    (hpublish : ∀ s built, P s → built.Unchecked →
      P { s with core := s.core.published mode built }) : (load env mode).Keeps P :=
  h.informs.load mode hpublish

/-! ## Rebuilding -/

/-- What the poller remembers after its registry was rebuilt.  Times of checks come from the
registry that was given up, or from the new one if there was nothing to give up. -/
def Core.rebuilt (c : Core) (tracked : List Int) (built : Registry) : Core :=
  let c := c.replaceRegistry built
  let earlier := c.keepsakes.head?.join.getD built
  { c with
    keepsakes := c.keepsakes.drop 1
    registry := built.carryForward (earlier.restrict tracked) }

/-- When nothing was given up meanwhile, a registry that is rebuilt takes over the times that are
known when it is published, of accounts that were tracked at the beginning. -/
theorem Core.registry_rebuilt_of_kept {c : Core} {ks : List Keepsake}
    (h : c.keepsakes = none :: ks) (tracked : List Int) (built : Registry) :
    (c.rebuilt tracked built).registry = built.carryForward (c.registry.restrict tracked) := by
  have hhead : (c.replaceRegistry built).keepsakes.head?.join.getD built = c.registry := by
    unfold Core.replaceRegistry
    rw [h]
    rfl
  unfold Core.rebuilt
  dsimp only
  rw [hhead]

/-- When no account was added either, these are the times of the registry before. -/
theorem Core.registry_rebuilt {c : Core} {ks : List Keepsake} (h : c.keepsakes = none :: ks)
    (built : Registry) :
    (c.rebuilt c.registry.ids built).registry = built.carryForward c.registry := by
  rw [registry_rebuilt_of_kept h, Registry.restrict_ids]

/-- What the poller remembers after a registry took the times of checks over from the one that was
kept, of accounts that were tracked at the beginning. -/
def Core.carriedForward (c : Core) (tracked : List Int) : Core :=
  { c with
    keepsakes := c.keepsakes.drop 1
    registry :=
      c.registry.carryForward ((c.keepsakes.head?.join.getD c.registry).restrict tracked) }

/-- Rebuilding is loading with the registry kept until it has ended. -/
theorem run_refresh (env : Surroundings ω) (s : System ω) :
    (refresh env).run s =
      match (load env .forceReset).run
        { s with core := { s.core with keepsakes := none :: s.core.keepsakes } } with
      | (.ok (), s') => (.ok (), { s' with core := s'.core.carriedForward s.core.registry.ids })
      | (.error e, s') =>
        (.error e, { s' with core := { s'.core with keepsakes := s'.core.keepsakes.drop 1 } }) := by
  unfold refresh keep release
  simp only [Act.run_bind, run_registry, run_modifyCore, Act.run_tryCatch]
  rcases (load env .forceReset).run _ with ⟨r, s'⟩
  cases r <;> rfl

/-- Rebuilding either fails before anything is published, or ends with what was published and the
times of checks that are carried forward; nothing happens in between. -/
theorem refresh_cases {env : Surroundings ω} {P : System ω → Prop} (h : env.Abides P)
    {s : System ω}
    (hs : P { s with core := { s.core with keepsakes := none :: s.core.keepsakes } }) :
    ∃ s', P s' ∧ ((∃ e, (refresh env).run s = (.error e, { s' with core := { s'.core with
          keepsakes := s'.core.keepsakes.drop 1 } })) ∨
      ∃ built, built.Unchecked ∧ (refresh env).run s =
        (.ok (), { s' with core := s'.core.rebuilt s.core.registry.ids built })) := by
  rw [run_refresh]
  rcases load_cases h.informs .forceReset hs with ⟨hneeded, -⟩ |
    ⟨-, ⟨e, s', hr, hs'⟩ | ⟨rows, built, s', -, hr, hbuilt, -, hs'⟩⟩
  · cases hneeded
  · rw [hr]
    exact ⟨s', hs', Or.inl ⟨e, rfl⟩⟩
  · rw [hr]
    exact ⟨s', hs', Or.inr ⟨built, hbuilt, rfl⟩⟩

/-! ## Recording checks -/

theorem Report.checked_prevSync (r : Report) (time : Int) (unseen : Option Int) :
    (r.checked time unseen).prevSync = time := r.scheduleFrom_prevSync time

/-- The system after an account was recorded as checked now. -/
def System.checkedNow (id : Int) (unseen : Option Int) (s : System ω) : System ω :=
  { s with core := { s.core with
      registry := s.core.registry.modify id fun r => r.checked s.clock unseen } }

@[simp]
theorem System.ids_checkedNow (id : Int) (unseen : Option Int) (s : System ω) :
    (s.checkedNow id unseen).core.registry.ids = s.core.registry.ids := Registry.ids_modify ..

theorem System.find?_checkedNow (id : Int) (unseen : Option Int) (s : System ω) :
    (s.checkedNow id unseen).core.registry.find? id =
      (s.core.registry.find? id).map (·.checked s.clock unseen) :=
  (Registry.find?_modify ..).trans (if_pos rfl)

/-- A check is recorded once the account is loaded. -/
theorem run_update (env : Surroundings ω) (id : Int) (unseen : Option Int) (s : System ω) :
    (update env id unseen).run s =
      match (load env (.one id)).run s with
      | (.ok (), s') =>
        (.ok ((s'.checkedNow id unseen).core.registry.find? id), s'.checkedNow id unseen)
      | (.error e, s') => (.error e, s') := by
  unfold update
  rw [Act.run_bind]
  rcases (load env (.one id)).run s with ⟨r, s'⟩
  cases r <;> rfl

/-- An account that is tracked is not loaded again to record its check. -/
theorem run_update_of_mem (env : Surroundings ω) {id : Int} (unseen : Option Int) {s : System ω}
    (h : id ∈ s.core.registry.ids) :
    ∃ report, (update env id unseen).run s = (.ok report, s.checkedNow id unseen) := by
  rw [run_update, load_one_of_mem env h]
  exact ⟨_, rfl⟩

theorem Surroundings.Abides.update {env : Surroundings ω} {P : System ω → Prop}
    (h : env.Abides P) {id : Int} {unseen : Option Int}
    (hpublish : ∀ s built, P s → built.Unchecked →
      P { s with core := s.core.published (.one id) built })
    (hchecked : ∀ s, P s → P (s.checkedNow id unseen)) : (update env id unseen).Keeps P := by
  intro s hs
  have h1 := h.load (.one id) hpublish s hs
  rw [run_update]
  rcases hr : (MailSchedule.load env (.one id)).run s with ⟨r, s'⟩
  rw [hr] at h1
  cases r with
  | ok _ => exact hchecked s' h1
  | error e => exact h1

/-! ## Properties that do not depend on the accounts tracked -/

/-- A property of systems that tells nothing about the accounts tracked, and that nothing breaks
which handlers ask for in passing. -/
structure Surroundings.Overlooks (env : Surroundings ω) (P : System ω → Prop) : Prop
    extends env.Abides P where
  tracked : ∀ s r keepsakes, P s →
    P { s with core := { s.core with registry := r, keepsakes := keepsakes } }

namespace Surroundings.Overlooks

variable {env : Surroundings ω} {P : System ω → Prop} (h : env.Overlooks P)
include h

theorem published (s : System ω) (mode : LoadMode) (built : Registry) (hs : P s) :
    P { s with core := s.core.published mode built } := by
  obtain ⟨r, keepsakes, hpublished⟩ := s.core.published_eq mode built
  rw [hpublished]
  exact h.tracked s r keepsakes hs

theorem load (mode : LoadMode) : (load env mode).Keeps P :=
  h.toAbides.load mode fun s built hs _ => h.published s mode built hs

theorem restore (snapshot : Snapshot) : (restore env snapshot).Keeps P :=
  (h.load .fillIfEmpty).bind fun _ s hs => h.tracked s _ s.core.keepsakes hs

theorem update (id : Int) (unseen : Option Int) : (update env id unseen).Keeps P :=
  h.toAbides.update (fun s built hs _ => h.published s (.one id) built hs)
    fun s hs => h.tracked s _ s.core.keepsakes hs

theorem refresh : (refresh env).Keeps P := by
  intro s hs
  obtain ⟨s', hs', ⟨e, hr⟩ | ⟨built, -, hr⟩⟩ :=
    refresh_cases h.toAbides (h.tracked s s.core.registry (none :: s.core.keepsakes) hs)
  · rw [hr]
    exact h.tracked s' s'.core.registry _ hs'
  · rw [hr]
    exact h.tracked s' _ _ hs'

end Surroundings.Overlooks

/-! ## What the store supplies -/

/-- The report of a row, given for which addresses checks are switched on. -/
def Account.Draft.report (rules : PollingRules) (enabled : Text → Bool) (d : Account.Draft) :
    Except Fault Report := do
  let interval ← rules.intervalOfDraft d
  return Report.fresh d.id interval (enabled (d.email.getD [])) (← d.notify)

/-- The reports of the live accounts among some rows, after those that are built already. -/
def PollingRules.build (rules : PollingRules) (enabled : Text → Bool) (built : Registry) :
    List Account.Draft → Except Fault Registry
  | [] => .ok built
  | d :: rest =>
    if d.isWellFormed then do
      build rules enabled (built.put d.id (← d.report rules enabled)) rest
    else build rules enabled built rest

/-- Exactly the live accounts are added. -/
theorem PollingRules.mem_ids_build {rules : PollingRules} {enabled : Text → Bool}
    {rows : List Account.Draft} {built r : Registry} (h : rules.build enabled built rows = .ok r)
    (x : Int) : x ∈ r.ids ↔ x ∈ built.ids ∨ x ∈ liveIds rows := by
  induction rows generalizing built with
  | nil =>
    cases h
    simp [liveIds]
  | cons d rest ih =>
    unfold build at h
    by_cases hd : d.isWellFormed = true
    · rw [if_pos hd] at h
      cases hrep : d.report rules enabled with
      | error e =>
        rw [hrep] at h
        cases h
      | ok report =>
        rw [hrep] at h
        rw [ih h, Registry.mem_ids_put]
        simp only [liveIds, List.filter_cons, hd, if_true, List.map_cons, List.mem_cons]
        exact or_assoc
    · rw [if_neg hd] at h
      rw [ih h]
      simp only [liveIds, List.filter_cons, hd, if_false, Bool.false_eq_true]

theorem PollingRules.mem_ids_build_empty {rules : PollingRules} {enabled : Text → Bool}
    {rows : List Account.Draft} {r : Registry} (h : rules.build enabled .empty rows = .ok r)
    (x : Int) : x ∈ r.ids ↔ x ∈ liveIds rows :=
  (mem_ids_build h x).trans (or_iff_right List.not_mem_nil)

theorem PollingRules.intervalOfDraft_isOk (rules : PollingRules) {d : Account.Draft}
    (h : d.interval.isSome) : ∃ interval, rules.intervalOfDraft d = .ok interval := by
  obtain ⟨interval, hinterval⟩ := Option.isSome_iff_exists.1 h
  unfold intervalOfDraft
  rw [hinterval]
  cases d.protocol <;> exact ⟨_, rfl⟩

theorem Account.Draft.notify_isOk {d : Account.Draft} (h : d.flags.isSome) :
    ∃ notify, d.notify = .ok notify := by
  obtain ⟨flags, hflags⟩ := Option.isSome_iff_exists.1 h
  unfold Account.Draft.notify
  rw [hflags]
  exact ⟨_, rfl⟩

/-- Rows whose live accounts lack neither interval nor flags can be built. -/
theorem PollingRules.build_isOk (rules : PollingRules) (enabled : Text → Bool)
    {rows : List Account.Draft} (hrows : ∀ d ∈ rows, d.isWellFormed = true →
      d.interval.isSome ∧ d.flags.isSome) (built : Registry) :
    ∃ r, rules.build enabled built rows = .ok r := by
  induction rows generalizing built with
  | nil => exact ⟨built, rfl⟩
  | cons d rest ih =>
    have ih := ih fun x hx => hrows x (List.mem_cons_of_mem d hx)
    unfold build
    by_cases hd : d.isWellFormed = true
    · rw [if_pos hd]
      obtain ⟨hinterval, hflags⟩ := hrows d List.mem_cons_self hd
      obtain ⟨interval, hinterval⟩ := rules.intervalOfDraft_isOk hinterval
      obtain ⟨notify, hnotify⟩ := Account.Draft.notify_isOk hflags
      unfold Account.Draft.report
      rw [hinterval, hnotify]
      exact ih _
    · rw [if_neg hd]
      exact ih built

/-- An answer without failure, in worlds of a set and within that set. -/
def Reply.Gives {α : Type} (reply : Reply ω α) (I : ω → Prop) (a : α) : Prop :=
  ∀ w, I w → ∃ w', reply w = (.ok a, w') ∧ I w'

theorem Act.Gives.answer {α : Type} {P : System ω → Prop} {I : ω → Prop} {reply : Reply ω α} {a : α}
    (h : Reply.Gives reply I a) (hI : ∀ s, P s → I s.world)
    (hP : ∀ s w, P s → I w → P { s with world := w }) : (answer reply).Gives P a := by
  refine .of_keeps (fun s hs => ?_) fun s hs => ?_
  · obtain ⟨w, hr, hw⟩ := h s.world (hI s hs)
    rw [run_answer_ok s hr]
    exact hP s w hs hw
  · obtain ⟨w, hr, hw⟩ := h s.world (hI s hs)
    rw [run_answer_ok s hr]

/-- The store tells for which addresses checks are switched on. -/
structure Surroundings.TellsEnabled (env : Surroundings ω) (P : System ω → Prop)
    (enabled : Text → Bool) : Prop where
  note : ∀ n, Act.Keeps (note n) P
  call : ∀ email, (env.call (.isSyncEnabled email)).Gives P ()
  answer : ∀ email, (answer (env.source.isSyncEnabled email)).Gives P (enabled email)

theorem buildReport_gives {env : Surroundings ω} {P : System ω → Prop} {enabled : Text → Bool}
    (h : env.TellsEnabled P enabled) {d : Account.Draft} {report : Report}
    (hreport : d.report env.policy.polling enabled = .ok report) :
    (buildReport env d).Gives P report := by
  unfold Account.Draft.report at hreport
  unfold buildReport
  cases hi : env.policy.polling.intervalOfDraft d with
  | error e =>
    rw [hi] at hreport
    cases hreport
  | ok interval =>
    cases hn : d.notify with
    | error e =>
      rw [hi, hn] at hreport
      cases hreport
    | ok notify =>
      rw [hi, hn] at hreport
      cases hreport
      exact (Act.Gives.pure interval).bind ((h.call _).bind ((h.answer _).bind
        ((Act.Gives.pure notify).bind (.pure _))))

theorem buildReports_gives {env : Surroundings ω} {P : System ω → Prop} {enabled : Text → Bool}
    (h : env.TellsEnabled P enabled) {rows : List Account.Draft} {built r : Registry}
    (hbuild : env.policy.polling.build enabled built rows = .ok r) :
    (buildReports env built rows).Gives P r := by
  induction rows generalizing built with
  | nil =>
    cases hbuild
    exact .pure _
  | cons d rest ih =>
    unfold PollingRules.build at hbuild
    unfold buildReports
    by_cases hd : d.isWellFormed = true
    · rw [if_pos hd] at hbuild ⊢
      cases hreport : d.report env.policy.polling enabled with
      | error e =>
        rw [hreport] at hbuild
        cases hbuild
      | ok report =>
        rw [hreport] at hbuild
        exact (buildReport_gives h hreport).bind (ih hbuild)
    · rw [if_neg hd] at hbuild ⊢
      exact ih hbuild

/-- If the store answers, what was built from its rows is published. -/
theorem load_gives {env : Surroundings ω} {P : System ω → Prop} {enabled : Text → Bool}
    (h : env.TellsEnabled P enabled) {mode : LoadMode} {rows : List Account.Draft}
    (hrows : (rowsFor env mode).Gives P rows) {built : Registry}
    (hbuild : env.policy.polling.build enabled .empty rows = .ok built) {s : System ω} (hs : P s)
    (hneeded : mode.isNeeded s.core.registry = true) :
    ∃ s', P s' ∧ (load env mode).run s =
      (.ok (), { s' with core := s'.core.published mode built }) := by
  unfold load
  rw [Act.run_bind, run_registry]
  dsimp only
  rw [if_pos hneeded]
  obtain ⟨s1, h1, hr1⟩ := hrows.run_bind hs _
  rw [hr1]
  obtain ⟨s2, h2, hr2⟩ := note_if h.note env.policy.polling.oneMinute .oneMinuteRefresh h1
  rw [hr2]
  obtain ⟨s3, h3, hr3⟩ := (buildReports_gives h hbuild).run_bind h2 (publish mode)
  rw [hr3, run_publish]
  exact ⟨s3, h3, rfl⟩

/-- An account whose check is recorded is added first, if it is not tracked and the row that the
store has of it is live. -/
theorem update_gives {env : Surroundings ω} {P : System ω → Prop} {enabled : Text → Bool}
    (h : env.TellsEnabled P enabled) {id : Int} {row : Option Account.Draft}
    (hrow : (rowsFor env (.one id)).Gives P row.toList) {built : Registry}
    (hbuild : env.policy.polling.build enabled .empty row.toList = .ok built)
    (unseen : Option Int) {s : System ω} (hs : P s) :
    ∃ report added s', P s' ∧ (update env id unseen).run s = (.ok report,
        System.checkedNow id unseen { s' with core := { s'.core with
          registry := s'.core.registry.addMissing added } }) ∧
      ∀ x, x ∈ added.ids ↔ id ∉ s.core.registry.ids ∧ x ∈ liveIds row.toList := by
  by_cases hid : id ∈ s.core.registry.ids
  · obtain ⟨report, hr⟩ := run_update_of_mem env unseen hid
    exact ⟨report, .empty, s, hs, hr, fun x =>
      iff_of_false List.not_mem_nil fun hnew => hnew.1 hid⟩
  · obtain ⟨s', hs', hr⟩ := load_gives h hrow hbuild hs (LoadMode.isNeeded_one_iff.2 hid)
    rw [run_update, hr]
    refine ⟨_, built, s', hs', rfl, fun x => ?_⟩
    rw [PollingRules.mem_ids_build_empty hbuild, and_iff_right hid]

end MailSchedule

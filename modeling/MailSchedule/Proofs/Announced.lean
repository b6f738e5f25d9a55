import MailSchedule.Proofs.Course

/-!
# What a message announces

Handling a message announces new mail at most once, and what it announces is how many messages have
arrived since the last time.  Until then the last count announced of each account stays what it is,
unless the registry is rebuilt; whoever comes to be tracked starts from zero.

Results:

* `announcements`: the announcements among events.
* `Registry.Tallies`: a registry remembers the last count announced of each account.
* `Surroundings.Discreet`: collaborators that neither change what is tracked nor announce anything.
* `Told`: nothing was announced, or one thing that is true.
* `Surroundings.Discreet.handle`, `.handle_rebuild`: what becomes of the counts and what is
  announced when a message is handled.
-/

namespace MailSchedule

variable {ω : Type}

/-! ## Announcements -/

/-- The announcements among events, in order. -/
def announcements (events : List Event) : List NewMail :=
  events.filterMap fun
    | .called (.showNotification id unseen new) => some ⟨id, unseen, new⟩
    | _ => none

theorem announcements_cons {e : Event}
    (h : ∀ c, e = .called c → c.kind ≠ .showNotification) (events : List Event) :
    announcements (e :: events) = announcements events := by
  cases e with
  | called c =>
    cases c with
    | showNotification id unseen new => exact absurd rfl (h _ rfl)
    | _ => rfl
  | _ => rfl

/-- What there is to announce is told by the report: some messages are unseen, new mail of the
account is announced, and those count as new that were not announced before. -/
theorem Registry.newMail?_eq_some {r : Registry} {id : Int} {mail : NewMail}
    (h : r.newMail? id = some mail) :
    ∃ report, r.find? id = some report ∧ report.notify = true ∧ report.unseen ≠ 0 ∧
      mail = ⟨id, report.unseen, report.unseen - report.lastUnseen⟩ := by
  unfold newMail? at h
  cases hfind : r.find? id with
  | none =>
    rw [hfind] at h
    cases h
  | some report =>
    rw [hfind] at h
    dsimp only at h
    split at h
    · cases h
    · rename_i hsilent
      have hunseen : report.unseen ≠ 0 := fun h0 => hsilent (by simp [h0])
      have hnotify : report.notify = true := by
        cases hn : report.notify with
        | true => rfl
        | false => exact absurd (by simp [hn]) hsilent
      exact ⟨report, rfl, hnotify, hunseen, (Option.some.inj h).symm⟩

/-! ## Counts that are remembered -/

/-- A registry remembers how many unseen messages were announced last, of every account that it
tracks.  Of others nothing was announced. -/
structure Registry.Tallies (r : Registry) (b : Int → Int) : Prop where
  tracked : ∀ x report, r.find? x = some report → report.account = x ∧ report.lastUnseen = b x
  untracked : ∀ x, r.find? x = none → b x = 0

namespace Registry

variable {r r' : Registry} {b b' : Int → Int}

theorem tallies_empty : empty.Tallies fun _ => 0 where
  tracked _ _ h := by cases h
  untracked _ _ := rfl

theorem Unchecked.tallies (h : r.Unchecked) : r.Tallies fun _ => 0 where
  tracked _ _ hx := ⟨h.account _ (mem_of_find? hx), (h.uncounted _ (mem_of_find? hx)).2⟩
  untracked _ _ := rfl

/-- Reports that are changed where they are may come to remember other counts. -/
theorem Tallies.of_entries (h : r.Tallies b) {g : Int × Report → Report}
    (he : r'.entries = r.entries.map fun e => (e.1, g e))
    (hg : ∀ x report, r.find? x = some report →
      (g (x, report)).account = report.account ∧ (g (x, report)).lastUnseen = b' x)
    (hb : ∀ x, r.find? x = none → b' x = 0) : r'.Tallies b' where
  tracked x report hx := by
    rw [find?_of_entries he x] at hx
    cases hold : r.find? x with
    | none =>
      rw [hold] at hx
      cases hx
    | some old =>
      rw [hold] at hx
      cases hx
      obtain ⟨haccount, hlast⟩ := hg x old hold
      exact ⟨haccount.trans (h.tracked x old hold).1, hlast⟩
  untracked x hx := by
    rw [find?_of_entries he x] at hx
    exact hb x (Option.map_eq_none_iff.1 hx)

/-- Changes that leave the counts announced alone. -/
theorem Tallies.of_kept (h : r.Tallies b) {g : Int × Report → Report}
    (he : r'.entries = r.entries.map fun e => (e.1, g e))
    (hg : ∀ e, (g e).account = e.2.account ∧ (g e).lastUnseen = e.2.lastUnseen) : r'.Tallies b :=
  h.of_entries he (fun x report hx => ⟨(hg (x, report)).1,
    (hg (x, report)).2.trans (h.tracked x report hx).2⟩) h.untracked

/-- Accounts that come to be tracked start from zero. -/
theorem Tallies.addMissing (h : r.Tallies b) {fresh : Registry} (hfresh : fresh.Unchecked) :
    (r.addMissing fresh).Tallies b where
  tracked x report hx := by
    cases hold : r.find? x with
    | some old =>
      have hkept := find?_addMissing hold fresh
      rw [hx] at hkept
      cases hkept
      exact h.tracked x report hold
    | none =>
      rw [h.untracked x hold]
      rcases mem_entries_addMissing (mem_of_find? hx) with hmem | hmem
      · exact absurd (mem_ids_of_mem hmem) ((find?_eq_none_iff r x).1 hold)
      · exact ⟨hfresh.account _ hmem, (hfresh.uncounted _ hmem).2⟩
  untracked x hx := by
    cases hold : r.find? x with
    | some old =>
      rw [find?_addMissing hold fresh] at hx
      cases hx
    | none => exact h.untracked x hold

end Registry

theorem Core.tallies_published {c : Core} {b : Int → Int} (h : c.registry.Tallies b)
    {mode : LoadMode} (hmode : mode ≠ .forceReset) {built : Registry} (hbuilt : built.Unchecked) :
    (c.published mode built).registry.Tallies b := by
  unfold published
  cases mode with
  | forceReset => exact absurd rfl hmode
  | one id => exact h.addMissing hbuilt
  | fillIfEmpty =>
    dsimp only
    split
    · rename_i hempty
      have hzero : b = fun _ => 0 :=
        funext fun x => h.untracked x (Registry.find?_of_isEmpty hempty x)
      rw [hzero]
      exact hbuilt.tallies
    · exact h

/-! ## Collaborators that are discreet -/

/-- A property of what is tracked and of what was announced. -/
def Posted (R : Registry → List NewMail → Prop) (s : System ω) : Prop :=
  R s.core.registry (announcements s.journal)

/-- While they are being called, collaborators put messages into the queue at most, and announce
nothing. -/
structure Surroundings.Discreet (env : Surroundings ω) : Prop where
  core : ∀ c s, ∃ ms,
    ((env.during c).run s).2.core = { s.core with queue := s.core.queue ++ ms }
  silent : ∀ c s, announcements ((env.during c).run s).2.journal = announcements s.journal

/-- Nothing was announced since, and the registry remembers the counts announced before. -/
def Tallied (b : Int → Int) (l : List NewMail) (r : Registry) (l' : List NewMail) : Prop :=
  r.Tallies b ∧ l' = l

/-- Nothing was announced since; or one account was announced, which is tracked, with its count of
unseen messages and how many of these are new, and this is remembered. -/
inductive Told (b : Int → Int) (l : List NewMail) (r : Registry) : List NewMail → Prop
  | nothing : r.Tallies b → Told b l r l
  | mail (mail : NewMail) (report : Report) : r.find? mail.account = some report →
    report.notify = true → report.unseen = mail.unseen → mail.unseen ≠ 0 →
    mail.justFetched = mail.unseen - b mail.account →
    r.Tallies (fun x => if x = mail.account then mail.unseen else b x) → Told b l r (mail :: l)

namespace Surroundings.Discreet

variable {env : Surroundings ω} (h : env.Discreet)
include h

theorem respects_registry (R : Registry → Prop) : env.Respects fun s => R s.core.registry := by
  refine .of_during (fun _ _ _ hs => hs) fun c s hs => ?_
  obtain ⟨ms, hcore⟩ := h.core c s
  rw [hcore]
  exact hs

theorem during (R : Registry → List NewMail → Prop) (c : Call) :
    (env.during c).Keeps (Posted R) := by
  intro s hs
  obtain ⟨ms, hcore⟩ := h.core c s
  unfold Posted
  rw [h.silent c s, hcore]
  exact hs

omit h in
theorem keeps_record (R : Registry → List NewMail → Prop) {e : Event}
    (he : ∀ c, e = .called c → c.kind ≠ .showNotification) :
    Act.Keeps (record e : Act ω Unit) (Posted R) := by
  intro s hs
  show R s.core.registry (announcements (e :: s.journal))
  rw [announcements_cons he]
  exact hs

/-- What is tracked and what was announced stays as it is, unless it is announced. -/
theorem call (R : Registry → List NewMail → Prop) {c : Call} (hc : c.kind ≠ .showNotification) :
    (env.call c).Keeps (Posted R) :=
  (keeps_record R (by rintro _ ⟨rfl⟩; exact hc)).bind fun _ => h.during R c

theorem spares (R : Registry → List NewMail → Prop) : env.Spares (Posted R) :=
  .of_record (fun _ he => keeps_record R fun c hc => (he c hc).2) (fun c _ => h.during R c)
    fun _ _ hs => hs

/-! ## Operations that announce nothing -/

variable {b : Int → Int} {l : List NewMail}

theorem load {mode : LoadMode} (hmode : mode ≠ .forceReset) :
    (load env mode).Keeps (Posted (Tallied b l)) :=
  (h.spares _).abides.load mode fun s _ hs hbuilt =>
    ⟨Core.tallies_published (c := s.core) hs.1 hmode hbuilt, hs.2⟩

theorem update (id : Int) (unseen : Option Int) :
    (update env id unseen).Keeps (Posted (Tallied b l)) := by
  refine (h.spares _).abides.update (fun s built hs hbuilt => ?_) fun s hs => ⟨?_, hs.2⟩
  · exact ⟨hs.1.addMissing hbuilt, hs.2⟩
  · refine hs.1.of_kept (Registry.entries_modify ..) fun e => ?_
    split
    · exact ⟨Report.scheduleFrom_account .., Report.scheduleFrom_lastUnseen ..⟩
    · exact ⟨rfl, rfl⟩

theorem restore (snapshot : Snapshot) : (restore env snapshot).Keeps (Posted (Tallied b l)) := by
  refine (h.load (by exact nofun)).bind fun _ s hs => ⟨?_, hs.2⟩
  exact hs.1.of_kept (Registry.entries_restore ..) fun e =>
    ⟨Report.fill_account .., Report.fill_lastUnseen ..⟩

theorem rearm : (rearm env).Keeps (Posted (Tallied b l)) :=
  (h.spares _).abides.rearm (fun _ _ => h.call _ nofun) (fun _ _ hs => hs) (h.load (by exact nofun))

/-- Rebuilding the registry starts all counts from zero, unless it fails. -/
theorem refresh : (refresh env).Ends (Posted (Tallied b l)) fun result =>
    Posted (Tallied (if result.isOk then fun _ => 0 else b) l) := by
  intro s hs
  obtain ⟨s', hs', ⟨e, hr⟩ | ⟨built, hbuilt, hr⟩⟩ :=
    refresh_cases (h.spares (Tallied b l)).abides hs
  · rw [hr]
    exact hs'
  · rw [hr]
    refine ⟨?_, hs'.2⟩
    refine hbuilt.tallies.of_kept (g := fun e => _) rfl fun e => ?_
    dsimp only
    split
    · exact ⟨Report.scheduleFrom_account .., Report.scheduleFrom_lastUnseen ..⟩
    · exact ⟨rfl, rfl⟩

/-! ## Announcing -/

/-- What there is to announce is announced, and is remembered even if whoever shows it fails. -/
theorem posted_announce {R : Registry → List NewMail → Prop} {id : Int} {s : System ω}
    (hnone : s.core.registry.newMail? id = none →
      R s.core.registry (announcements s.journal))
    (hsome : ∀ mail, s.core.registry.newMail? id = some mail →
      R (s.core.registry.modify id fun r => { r with lastUnseen := r.unseen })
        (mail :: announcements s.journal)) : Posted R ((announce env id).run s).2 := by
  unfold MailSchedule.announce
  rw [Act.run_bind, run_registry]
  dsimp only
  cases hmail : s.core.registry.newMail? id with
  | none => exact hnone hmail
  | some mail =>
    dsimp only
    rw [Act.run_bind, run_modifyRegistry]
    exact Act.Keeps.bind (h.during R _) (fun _ => .pure _) _ (hsome mail hmail)

/-- An announcement is true. -/
theorem announce (id : Int) :
    (announce env id).Leads (Posted (Tallied b l)) (Posted (Told b l)) := by
  intro s hs
  obtain ⟨htallies, hnone⟩ := hs
  refine h.posted_announce (fun _ => ?_) fun mail hmail => ?_
  · rw [hnone]
    exact .nothing htallies
  · obtain ⟨report, hfind, hnotify, hunseen, rfl⟩ := Registry.newMail?_eq_some hmail
    obtain ⟨haccount, hlast⟩ := htallies.tracked id report hfind
    rw [hnone]
    refine .mail _ { report with lastUnseen := report.unseen } ?_ hnotify rfl hunseen ?_ ?_
    · rw [Registry.find?_modify, if_pos rfl, hfind]
      rfl
    · rw [hlast]
    · refine htallies.of_entries (Registry.entries_modify ..) (fun x old hold => ?_) fun x hx => ?_
      · dsimp only
        by_cases hid : x = id
        · rw [if_pos hid, if_pos hid]
          rw [hid, hfind] at hold
          cases hold
          exact ⟨rfl, rfl⟩
        · rw [if_neg hid, if_neg hid]
          exact ⟨rfl, (htallies.tracked x old hold).2⟩
      · rw [if_neg fun hid => ?_]
        · exact htallies.untracked x hx
        · rw [hid, hfind] at hx
          cases hx

/-- Once new mail was announced, setting the wake timer changes nothing that is tracked. -/
theorem rearm_told : (MailSchedule.rearm env).Keeps (Posted (Told b l)) := by
  intro s hs
  unfold Posted at hs
  generalize hannounced : announcements s.journal = l' at hs
  cases hs with
  | nothing htallies =>
    obtain ⟨htallies', hsame⟩ := h.rearm (b := b) (l := l) s ⟨htallies, hannounced⟩
    show Told b l _ _
    rw [hsame]
    exact .nothing htallies'
  | mail mail report hfind hnotify hunseen hne hnew htallies =>
    have hids : s.core.registry.ids ≠ [] :=
      List.ne_nil_of_mem (Registry.mem_ids_of_mem (Registry.mem_of_find? hfind))
    have hload : (MailSchedule.load env .fillIfEmpty).Leads (· = s)
        (Posted fun r l' => r = s.core.registry ∧ l' = mail :: l) := by
      rintro _ rfl
      rw [load_fillIfEmpty_of_ids env hids]
      exact ⟨rfl, hannounced⟩
    have hrearm := (h.spares _).abides.rearm (fun _ _ => h.call _ nofun) (fun _ _ hs => hs) hload s
      rfl
    obtain ⟨hregistry, hsame⟩ := hrearm
    show Told b l _ _
    rw [hregistry, hsame]
    exact .mail mail report hfind hnotify hunseen hne hnew htallies

/-- Handling a message consists of operations that announce nothing, and of one announcement at
most. -/
theorem operates :
    env.Operates (fun _ => True) (Posted (Tallied b l)) (Posted (Told b l)) where
  toSpares := h.spares _
  remembered s c hs hc _ := by
    show Tallied b l c.registry _
    rw [hc]
    exact hs
  fill := h.load (by exact nofun)
  update := h.update
  restore snapshot _ := h.restore snapshot
  disarm := (h.spares _).abides.disarm fun _ _ hs => hs
  armWatchdog := .armWatchdog (fun _ _ => h.call _ nofun) fun _ _ hs => hs
  rearm := h.rearm
  announce := h.announce
  silent s hs := by
    show Told b l _ _
    rw [hs.2]
    exact .nothing hs.1
  rememberedAfter s c hs hc _ := by
    show Told b l c.registry _
    rw [hc]
    exact hs
  rearmAfter := h.rearm_told

/-! ## Handling messages -/

/-- A message that does not have the registry rebuilt announces one thing at most. -/
theorem handle {m : Message} (hm : rebuild env m = none) :
    (handle env m).Leads (Posted (Tallied b l)) (Posted (Told b l)) :=
  h.operates.handle hm fun _ _ _ => trivial

/-- One that has it rebuilt announces nothing.  It starts all counts from zero, unless rebuilding
fails. -/
theorem handle_rebuild {m : Message} {act : Act ω Unit}
    (hact : MailSchedule.rebuild env m = some act)
    {s : System ω} (hs : Posted (Tallied b l) s) :
    Posted (Tallied (if (act.run s).1.isOk then fun _ => 0 else b) l)
      ((MailSchedule.handle env m).run s).2 := by
  have hrebuilt := (h.spares _).rebuild (fun _ _ hs => hs) h.refresh hact s hs
  rw [handle_of_rebuild hact, Act.run_bind]
  rcases hr : act.run s with ⟨_ | _, s'⟩
  · rw [hr] at hrebuilt
    exact hrebuilt
  · rw [hr] at hrebuilt
    exact (h.rearm.bind fun _ => .pure _) s' hrebuilt

theorem begun {R : Registry → List NewMail → Prop} {s : System ω} (hs : Posted R s) (m : Message) :
    Posted R (s.begun env m) :=
  keeps_record R nofun _ ((h.spares R).reconcile s hs)

omit h in
/-- What surrounds the handling of a message announces nothing. -/
theorem process {R : Registry → List NewMail → Prop} {m : Message} {s : System ω}
    (hm : Posted R ((MailSchedule.handle env m).run (s.begun env m)).2) :
    Posted R ((MailSchedule.process env m).run s).2 := by
  rw [run_process]
  revert hm
  rcases (MailSchedule.handle env m).run (s.begun env m) with ⟨r, s'⟩
  intro hm
  cases r with
  | ok _ => exact keeps_record R nofun s' hm
  | error e => exact keeps_record R nofun _ (keeps_record R nofun s' hm)

end Surroundings.Discreet

end MailSchedule

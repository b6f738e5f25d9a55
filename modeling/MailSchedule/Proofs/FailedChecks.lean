import MailSchedule.Proofs.Completions

/-!
# Checks that fail

A message may tell that a check has failed: its end does, and so does progress that carries a fault.
Neither should announce anything or change a count, and the account should count as checked, so that
it does not come up again at once.

The end of a check looks at the fault first, and does all of this.  Progress looks first at how far
it has come: in an inbox that is done the fault goes unnoticed, and the count that came with it is
recorded and announced.

Results:

* `heed`, `conclude`, `run_handle_failed`: what is done about a failed check before and after it is
  recorded.
* `Registry.SameCounts`: no count of an account that was tracked has changed.
* `Surroundings.Discreet.posted_heed`, `.posted_conclude`: what becomes of the registry, and what is
  announced.
* `failed_check_silent_iff`: when a failed check is silent, and that the account counts as checked.
-/

namespace MailSchedule

variable {ω : Type}

/-! ## What is done about a failed check -/

/-- The account whose check a message tells to have failed, with the fault. -/
def Message.failure? : Message → Option (Int × Fault)
  | .checkProgress id _ _ error _ => error.map (id, ·)
  | .checkComplete id _ error => error.map (id, ·)
  | _ => none

/-- The count that is recorded although a check has failed: the one that comes with an inbox that is
done. -/
def Message.slipped? : Message → Option Int
  | .checkProgress _ _ progress _ count => if progress = progressDone then count else none
  | _ => none

/-- What is done about a failed check before it is recorded that its account was checked.  The
answer is whether that is to be recorded. -/
def heed (env : Surroundings ω) : Message → Act ω Bool
  | .checkProgress id mailbox _ _ _ => do
    if (← findInbox env id) != some mailbox then return false
    load env (.one id)
    return true
  | .checkComplete id _ (some e) => do
    modifyCore fun c => c.endCheck id
    load env .fillIfEmpty
    note (.checkFailed id e)
    load env (.one id)
    return true
  | _ => return false

/-- What is done about it afterwards. -/
def conclude (env : Surroundings ω) : Message → Act ω Unit
  | .checkProgress id mailbox progress error count => do
    let arrived := ((Message.checkProgress id mailbox progress error count).slipped?).getD 0
    if arrived != 0 then
      let _ ← announce env id
      modifyCore fun c => c.tell id arrived
  | .checkComplete _ _ _ => do let _ ← rearm env
  | _ => pure ()

/-- A failed check is recorded without a count, but for the one that slips through. -/
theorem run_handle_failed (env : Surroundings ω) {m : Message} {a : Int} {e : Fault}
    (hm : m.failure? = some (a, e)) (s : System ω) :
    (handle env m).run s =
      match (heed env m).run s with
      | (.error f, s') => (.error f, s')
      | (.ok false, s') => (.ok (), s')
      | (.ok true, s') => (conclude env m).run (s'.checkedNow a m.slipped?) := by
  cases m with
  | checkProgress id mailbox progress error count =>
    obtain ⟨_, rfl, hpair⟩ := Option.map_eq_some_iff.1 hm
    cases hpair
    show (handleProgress env a mailbox progress (some e) count).run s = _
    unfold handleProgress heed conclude Message.slipped?
    simp only [Option.isNone_some, Bool.false_and, Bool.false_eq_true, if_false]
    rw [Act.run_bind, Act.run_bind]
    rcases (findInbox env a).run s with ⟨_ | inbox, s1⟩
    · rfl
    dsimp only
    by_cases hinbox : (inbox != some mailbox) = true
    · rw [if_pos hinbox, if_pos hinbox]
      rfl
    rw [if_neg hinbox, if_neg hinbox]
    by_cases hdone : progress = progressDone
    · rw [if_pos hdone, if_pos hdone, Act.run_bind, Act.run_bind, run_update]
      rcases (load env (.one a)).run s1 with ⟨_ | _, s2⟩
      · rfl
      · rfl
    · rw [if_neg hdone, if_neg hdone, Act.run_bind, Act.run_bind, run_update]
      rcases (load env (.one a)).run s1 with ⟨_ | _, s2⟩
      · rfl
      · rfl
  | checkComplete id count error =>
    obtain ⟨_, rfl, hpair⟩ := Option.map_eq_some_iff.1 hm
    cases hpair
    show Act.run (do
      modifyCore fun c => c.endCheck a
      load env .fillIfEmpty
      note (.checkFailed a e)
      let _ ← update env a none
      let _ ← rearm env) s = _
    unfold heed conclude Message.slipped?
    simp only [Act.run_bind, run_modifyCore]
    rcases (load env .fillIfEmpty).run { s with core := s.core.endCheck a } with ⟨_ | _, s1⟩
    · rfl
    simp only [run_note, run_update]
    rcases (load env (.one a)).run _ with ⟨_ | _, s2⟩
    · rfl
    · rfl
  | _ => cases hm

/-! ## Counts that stay the same -/

namespace Registry

/-- No count of an account that was tracked has changed. -/
def SameCounts (r r' : Registry) : Prop :=
  ∀ x report, r.find? x = some report → ∃ report', r'.find? x = some report' ∧
    report'.unseen = report.unseen ∧ report'.lastUnseen = report.lastUnseen

theorem Extended.sameCounts {r r' : Registry} (h : r.Extended r') : r.SameCounts r' :=
  fun x report hfind => ⟨report, h.kept x report hfind, rfl, rfl⟩

/-- Accounts that are added afterwards have no part in it. -/
theorem Extended.sameCounts_iff {r r' r'' : Registry} (h : r'.Extended r'')
    (hids : ∀ x ∈ r.ids, x ∈ r'.ids) : r.SameCounts r'' ↔ r.SameCounts r' := by
  refine forall₃_congr fun x report hfind => ?_
  have hid : x ∈ r'.ids := hids x (mem_ids_of_mem (mem_of_find? hfind))
  obtain ⟨kept, hkept⟩ := Option.isSome_iff_exists.1 ((mem_ids_iff r' x).1 hid)
  rw [hkept, h.kept x kept hkept]

end Registry

/-- Recording a check changes no count if it gives none, or the count that was there. -/
theorem System.sameCounts_checkedNow_iff {r : Registry} {s : System ω}
    (h : r.Extended s.core.registry) (a : Int) (unseen : Option Int) :
    r.SameCounts (s.checkedNow a unseen).core.registry ↔
      ∀ n report, unseen = some n → s.core.registry.find? a = some report → a ∈ r.ids →
        n = report.unseen := by
  have hfind : ∀ x, (s.checkedNow a unseen).core.registry.find? x =
      if x = a then (s.core.registry.find? x).map (·.checked s.clock unseen)
      else s.core.registry.find? x := fun x => Registry.find?_modify ..
  constructor
  · rintro hsame n report rfl hreport hid
    obtain ⟨old, hold⟩ := Option.isSome_iff_exists.1 ((Registry.mem_ids_iff r a).1 hid)
    obtain ⟨report', hreport', hunseen, -⟩ := hsame a old hold
    have hkept := h.kept a old hold
    rw [hreport] at hkept
    rw [hfind, if_pos rfl, hreport] at hreport'
    cases hkept
    cases hreport'
    exact hunseen
  · intro hcount x report hreport
    have hkept := h.kept x report hreport
    rw [hfind, hkept]
    by_cases hx : x = a
    · subst hx
      refine ⟨report.checked s.clock unseen, if_pos rfl, ?_, Report.scheduleFrom_lastUnseen ..⟩
      cases unseen with
      | none => exact Report.scheduleFrom_unseen ..
      | some n =>
        exact hcount n report rfl hkept (Registry.mem_ids_of_mem (Registry.mem_of_find? hreport))
    · exact ⟨report, if_neg hx, rfl, rfl⟩

/-- The same if accounts are added after the check is recorded. -/
theorem System.sameCounts_of_checkedNow_iff {r r' : Registry} {s : System ω}
    (h : r.Extended s.core.registry) {a : Int} {unseen : Option Int}
    (hadded : (s.checkedNow a unseen).core.registry.Extended r') :
    r.SameCounts r' ↔ ∀ n report, unseen = some n → s.core.registry.find? a = some report →
      a ∈ r.ids → n = report.unseen := by
  rw [hadded.sameCounts_iff fun x hx => ?_]
  · exact System.sameCounts_checkedNow_iff h a unseen
  · rw [System.ids_checkedNow]
    exact h.ids hx

/-! ## Among discreet collaborators -/

/-- What is announced of an account after its failed check was recorded. -/
def Message.slipsOut? (m : Message) (a : Int) (r : Registry) : Option NewMail :=
  if m.slipped?.getD 0 = 0 then none else r.newMail? a

/-- A count slips out that is not zero, of an account that is tracked and wants its new mail
announced. -/
theorem Message.slipsOut?_ne_none_iff (m : Message) (a : Int) (s : System ω) :
    m.slipsOut? a (s.checkedNow a m.slipped?).core.registry ≠ none ↔
      ∃ report n, s.core.registry.find? a = some report ∧ m.slipped? = some n ∧ n ≠ 0 ∧
        report.notify = true := by
  unfold slipsOut?
  cases m.slipped? with
  | none => simp
  | some n =>
    by_cases hn : n = 0
    · simp [hn]
    · rw [Option.getD_some, if_neg hn, System.newMail?_checkedNow s a hn]
      constructor
      · rintro ⟨report, hfind, hnotify⟩
        exact ⟨report, n, hfind, rfl, hn, hnotify⟩
      · rintro ⟨report, _, hfind, -, -, hnotify⟩
        exact ⟨report, hfind, hnotify⟩

/-- An account that is tracked stays tracked, and the time of its last check is kept. -/
def Registry.SameTime (a : Int) (r r' : Registry) : Prop :=
  ∀ report, r.find? a = some report →
    ∃ report', r'.find? a = some report' ∧ report'.prevSync = report.prevSync

theorem Registry.Extended.sameTime {r r' : Registry} (h : r.Extended r') (a : Int) :
    r.SameTime a r' := fun report hfind => ⟨report, h.kept a report hfind, rfl⟩

/-- Accounts may have been added since, and nothing was announced. -/
def Added (r₀ : Registry) (l : List NewMail) (r : Registry) (l' : List NewMail) : Prop :=
  r₀.Extended r ∧ l' = l

namespace Surroundings.Discreet

variable {env : Surroundings ω} (h : env.Discreet) {m : Message} {a : Int} {e : Fault}
include h

/-- Loading what is missing adds accounts, and announces nothing. -/
theorem load_adds {mode : LoadMode} (hmode : mode ≠ .forceReset) (r₀ : Registry)
    (l : List NewMail) : (MailSchedule.load env mode).Keeps (Posted (Added r₀ l)) :=
  (h.spares _).abides.load mode fun s _ hs hbuilt =>
    ⟨hs.1.trans (.published (c := s.core) hmode hbuilt), hs.2⟩

/-- Until a failed check is recorded accounts may be added, and nothing else happens. -/
theorem heed_adds (m : Message) (r₀ : Registry) (l : List NewMail) :
    (heed env m).Keeps (Posted (Added r₀ l)) := by
  have hfill : (MailSchedule.load env .fillIfEmpty).Keeps (Posted (Added r₀ l)) :=
    h.load_adds (by exact nofun) r₀ l
  have hone : ∀ id, (MailSchedule.load env (.one id)).Keeps (Posted (Added r₀ l)) := fun id =>
    h.load_adds (by exact nofun) r₀ l
  unfold heed
  split
  · exact ((h.spares _).findInbox _).bind fun inbox => .ite (.pure _)
      ((hone _).bind fun _ => .pure _)
  · exact Act.Keeps.bind (fun _ hs => hs) fun _ => hfill.bind fun _ =>
      ((h.spares _).note _).bind fun _ => (hone _).bind fun _ => .pure _
  · exact .pure _

theorem rearm_adds (r₀ : Registry) (l : List NewMail) :
    (MailSchedule.rearm env).Keeps (Posted (Added r₀ l)) :=
  (h.spares _).abides.rearm (fun _ _ => h.call _ nofun) (fun _ _ hs => hs)
    (h.load_adds (by exact nofun) r₀ l)

/-- Afterwards nothing is announced but what slips through, and no count changes otherwise. -/
theorem posted_conclude (hm : m.failure? = some (a, e)) (s : System ω) :
    Posted (fun r l => l = (m.slipsOut? a s.core.registry).toList ++ announcements s.journal ∧
        (m.slipsOut? a s.core.registry = none → s.core.registry.Extended r) ∧
        s.core.registry.SameTime a r) ((conclude env m).run s).2 := by
  cases m with
  | checkProgress id mailbox progress error count =>
    obtain ⟨_, rfl, hpair⟩ := Option.map_eq_some_iff.1 hm
    cases hpair
    unfold conclude Message.slipsOut?
    dsimp only
    generalize (Message.checkProgress a mailbox progress (some e) count).slipped?.getD 0 = n
    by_cases hn : n = 0
    · rw [if_pos hn, if_neg (by simpa using hn)]
      exact ⟨rfl, fun _ => .refl _, (Registry.Extended.refl _).sameTime a⟩
    rw [if_neg hn, if_pos (by simpa using hn)]
    refine Act.Leads.bind (P := (· = s)) ?_ (fun _ hs => hs) (fun _ _ hs => hs) s rfl
    rintro _ rfl
    refine h.posted_announce (fun hnone => ?_) fun mail hmail => ?_
    · rw [hnone]
      exact ⟨rfl, fun _ => .refl _, (Registry.Extended.refl _).sameTime a⟩
    · rw [hmail]
      refine ⟨rfl, nofun, fun report hfind => ⟨{ report with lastUnseen := report.unseen }, ?_, rfl⟩⟩
      rw [Registry.find?_modify, if_pos rfl, hfind]
      rfl
  | checkComplete id count error =>
    obtain ⟨hextended, hsame⟩ := ((h.rearm_adds s.core.registry
      (announcements s.journal)).bind fun _ => .pure ()) s ⟨.refl _, rfl⟩
    exact ⟨hsame, fun _ => hextended, hextended.sameTime a⟩
  | _ => cases hm

/-- A message that is heeded has the check recorded in between; another one has no effect. -/
theorem process_failed_cases (hm : m.failure? = some (a, e)) (s : System ω) :
    let heeded := (heed env m).run (s.begun env m)
    let recorded := heeded.2.checkedNow a m.slipped?
    let after := ((MailSchedule.process env m).run s).2
    s.core.registry.Extended heeded.2.core.registry ∧
    ((heeded.1 ≠ .ok true ∧ Added s.core.registry (announcements s.journal) after.core.registry
        (announcements after.journal)) ∨
      (heeded.1 = .ok true ∧ announcements after.journal =
          (m.slipsOut? a recorded.core.registry).toList ++ announcements s.journal ∧
        (m.slipsOut? a recorded.core.registry = none →
          recorded.core.registry.Extended after.core.registry) ∧
        recorded.core.registry.SameTime a after.core.registry)) := by
  have hbegun : Posted (Added s.core.registry (announcements s.journal)) (s.begun env m) :=
    h.begun (R := Added _ _) ⟨.refl _, rfl⟩ m
  have hheeded := h.heed_adds m _ _ _ hbegun
  have hrun := run_handle_failed env hm (s.begun env m)
  rcases hr : (heed env m).run (s.begun env m) with ⟨_ | heeds, s'⟩
  · rw [hr] at hheeded hrun
    refine ⟨hheeded.1, Or.inl ⟨nofun, ?_⟩⟩
    refine process (R := Added s.core.registry (announcements s.journal)) ?_
    rw [hrun]
    exact hheeded
  rw [hr] at hheeded hrun
  refine ⟨hheeded.1, ?_⟩
  cases heeds with
  | false =>
    refine Or.inl ⟨nofun, ?_⟩
    refine process (R := Added s.core.registry (announcements s.journal)) ?_
    rw [hrun]
    exact hheeded
  | true =>
    have hconclude := h.posted_conclude hm (s'.checkedNow a m.slipped?)
    rw [show announcements (s'.checkedNow a m.slipped?).journal = announcements s.journal from
      hheeded.2] at hconclude
    dsimp only at hrun
    rw [← hrun] at hconclude
    exact Or.inr ⟨rfl, process hconclude⟩

end Surroundings.Discreet

/-! ## The result -/

/-- A message that tells of a failed check announces nothing and leaves the counts of every account
alone that was tracked, unless it is progress of the account's inbox that is done and carries a
count, this count is not zero and new mail of the account is announced, or it is not the count that
was remembered of an account that was tracked.  If the message is heeded, an account that is tracked
by then counts as checked now. -/
theorem failed_check_silent_iff {env : Surroundings ω} (h : env.Discreet) {m : Message} {a : Int}
    {e : Fault} (hm : m.failure? = some (a, e)) (s : System ω) :
    let heeded := (heed env m).run (s.begun env m)
    let after := ((process env m).run s).2
    ((announcements after.journal = announcements s.journal ∧
        s.core.registry.SameCounts after.core.registry) ↔
      ¬(heeded.1 = .ok true ∧ ∃ report n, heeded.2.core.registry.find? a = some report ∧
        m.slipped? = some n ∧
        ((n ≠ 0 ∧ report.notify = true) ∨ (a ∈ s.core.registry.ids ∧ n ≠ report.unseen)))) ∧
    (heeded.1 = .ok true → ∀ report, heeded.2.core.registry.find? a = some report →
      ∃ report', after.core.registry.find? a = some report' ∧
        report'.prevSync = heeded.2.clock) := by
  intro heeded after
  obtain ⟨hextended, ⟨hignored, hadded, hsame⟩ | ⟨hheeded, hannounced, hkept, htime⟩⟩ :=
    h.process_failed_cases hm s
  · exact ⟨iff_of_true ⟨hsame, hadded.sameCounts⟩ fun hslips => hignored hslips.1,
      fun hheeded => absurd hheeded hignored⟩
  let recorded := heeded.2.checkedNow a m.slipped?
  refine ⟨?_, fun _ report hreport => ?_⟩
  · have hslips := m.slipsOut?_ne_none_iff a heeded.2
    cases hmail : m.slipsOut? a recorded.core.registry with
    | none =>
      have hsilent : announcements after.journal = announcements s.journal := by
        rw [hannounced, hmail]
        rfl
      rw [and_iff_right hsilent, System.sameCounts_of_checkedNow_iff hextended (hkept hmail)]
      constructor
      · rintro hsame ⟨-, report, n, hfind, hn, ⟨hne, hnotify⟩ | ⟨hid, hne⟩⟩
        · exact hslips.2 ⟨report, n, hfind, hn, hne, hnotify⟩ hmail
        · exact hne (hsame n report hn hfind hid)
      · intro hno n report hn hfind hid
        by_contra hne
        exact hno ⟨hheeded, report, n, hfind, hn, Or.inr ⟨hid, hne⟩⟩
    | some mail =>
      have hshown : announcements after.journal = mail :: announcements s.journal := by
        rw [hannounced, hmail]
        rfl
      obtain ⟨report, n, hfind, hn, hne, hnotify⟩ := hslips.1 (by rw [hmail]; exact nofun)
      refine iff_of_false (fun hsame => ?_) fun hno =>
        hno ⟨hheeded, report, n, hfind, hn, Or.inl ⟨hne, hnotify⟩⟩
      rw [hshown] at hsame
      exact List.cons_ne_self _ _ hsame.1
  · obtain ⟨report', hreport', hprev⟩ := htime (report.checked heeded.2.clock m.slipped?) (by
      rw [System.find?_checkedNow, hreport]
      rfl)
    exact ⟨report', hreport', hprev.trans (report.checked_prevSync _ _)⟩

/-! ## A connection that is reset -/

namespace Rehearsal

/-- The end of a check has reported two messages, and a minute has passed. -/
def twoUnseen : System World :=
  Occurrence.course inMemory freshPoller
    [.submit (.checkComplete 1 (some 2) none), .next, .elapse 1060000 twoAccountsWorld]

/-- The inbox of the account has come so far when the connection is reset. -/
def resetAt (progress : Int) : Message :=
  .checkProgress 1 usualInbox progress (some ⟨.other "OSError", "reset"⟩) (some 5)

/-- Half way through the count is of no account, and the check counts as done. -/
theorem failed_check_silent_halfWay :
    (resetAt 50).failure? = some (1, ⟨.other "OSError", "reset"⟩) ∧
      announcements ((process inMemory (resetAt 50)).run twoUnseen).2.journal =
        announcements twoUnseen.journal ∧
      twoUnseen.core.registry.SameCounts
        ((process inMemory (resetAt 50)).run twoUnseen).2.core.registry ∧
      ∃ report, ((process inMemory (resetAt 50)).run twoUnseen).2.core.registry.find? 1 =
        some report ∧ report.prevSync = 1060000 := by
  have hheeded : ((heed inMemory (resetAt 50)).run (twoUnseen.begun inMemory (resetAt 50))).1 =
      .ok true := by decide +kernel
  have hclock : ((heed inMemory (resetAt 50)).run
      (twoUnseen.begun inMemory (resetAt 50))).2.clock = 1060000 := by decide +kernel
  have htracked : ((heed inMemory (resetAt 50)).run
      (twoUnseen.begun inMemory (resetAt 50))).2.core.registry.contains 1 = true := by
    decide +kernel
  obtain ⟨report, hreport⟩ := Option.isSome_iff_exists.1 htracked
  obtain ⟨hsilent, htime⟩ := failed_check_silent_iff (discreet_surroundings {} 1)
    (m := resetAt 50) rfl twoUnseen
  obtain ⟨hannounced, hcounts⟩ := hsilent.2 fun hslips => by
    obtain ⟨-, _, _, -, hn, -⟩ := hslips
    cases hn
  obtain ⟨report', hreport', hprev⟩ := htime hheeded report hreport
  exact ⟨rfl, hannounced, hcounts, report', hreport', hprev.trans hclock⟩

/-- At the very end the count is recorded and announced. -/
theorem failed_check_announced :
    inMemory.Discreet ∧ (resetAt 100).failure? = some (1, ⟨.other "OSError", "reset"⟩) ∧
      ¬(announcements ((process inMemory (resetAt 100)).run twoUnseen).2.journal =
          announcements twoUnseen.journal ∧
        twoUnseen.core.registry.SameCounts
          ((process inMemory (resetAt 100)).run twoUnseen).2.core.registry) := by
  refine ⟨discreet_surroundings {} 1, rfl, fun hsilent => ?_⟩
  have hbefore : announcements twoUnseen.journal = [⟨1, 2, 2⟩] := by decide +kernel
  have hafter : announcements ((process inMemory (resetAt 100)).run twoUnseen).2.journal =
      [⟨1, 5, 3⟩, ⟨1, 2, 2⟩] := by decide +kernel
  rw [hbefore, hafter] at hsilent
  exact List.cons_ne_self _ _ hsilent.1

end Rehearsal

end MailSchedule

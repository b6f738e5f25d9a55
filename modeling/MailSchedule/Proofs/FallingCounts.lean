import MailSchedule.Proofs.Ledgers

/-!
# Counts that fall

An announcement tells how many messages are unseen and how many of them are new.  If no count that
the poller is told is negative, some messages are unseen and no more of them are new.  The number of
new ones is itself no negative number as long as the count has not fallen since the last
announcement that stands: the poller subtracts the one from the other, and a count may fall when
messages are read elsewhere.

Results:

* `Message.Natural`, `Episode.Natural`: messages and episodes that tell no negative count.
* `Surroundings.CountsNaturally`: collaborators that tell none either.
* `Surroundings.CountsNaturally.after`: no count that is remembered becomes negative.
* `announced_within_iff_not_fallen`: when the number of new messages is one.
-/

namespace MailSchedule

variable {ω : Type}

/-! ## Counts that are not negative -/

/-- No count that a message tells is negative. -/
def Message.Natural : Message → Prop
  | .checkProgress _ _ _ _ count => ∀ n ∈ count, 0 ≤ n
  | .checkComplete _ count _ => ∀ n ∈ count, 0 ≤ n
  | _ => True

theorem Snapshot.natural_message (s : Snapshot) : s.message.Natural := by
  unfold message
  split <;> exact trivial

/-- What happens tells no negative count, and the world changes within a set. -/
def Episode.Natural (I : ω → Prop) : Episode ω → Prop
  | .occurs o => o.Within I ∧ ∀ m, o = .submit m → m.Natural
  | _ => True

/-- No count of a report is negative. -/
def Report.Natural (r : Report) : Prop := 0 ≤ r.unseen ∧ 0 ≤ r.lastUnseen

namespace Registry

/-- No count of a registry is negative. -/
def Natural (r : Registry) : Prop := ∀ e ∈ r.entries, e.2.Natural

variable {r r' : Registry}

theorem natural_empty : empty.Natural := fun _ he => absurd he List.not_mem_nil

theorem Unchecked.natural (h : r.Unchecked) : r.Natural := fun e he =>
  ⟨Int.le_of_eq (h.uncounted e he).1.symm, Int.le_of_eq (h.uncounted e he).2.symm⟩

/-- Reports may be changed where they are. -/
theorem Natural.of_entries (h : r.Natural) {g : Int × Report → Report}
    (he : r'.entries = r.entries.map fun e => (e.1, g e))
    (hg : ∀ e, e.2.Natural → (g e).Natural) : r'.Natural := by
  intro e' he'
  rw [he] at he'
  obtain ⟨e, hmem, rfl⟩ := List.mem_map.1 he'
  exact hg e (h e hmem)

theorem Natural.modify (h : r.Natural) (id : Int) {f : Report → Report}
    (hf : ∀ report : Report, report.Natural → (f report).Natural) : (r.modify id f).Natural := by
  refine h.of_entries (entries_modify r id f) fun e he => ?_
  split
  · exact hf e.2 he
  · exact he

theorem Natural.addMissing (h : r.Natural) {fresh : Registry} (hfresh : fresh.Natural) :
    (r.addMissing fresh).Natural := fun e he =>
  (mem_entries_addMissing he).elim (h e) (hfresh e)

theorem Natural.restore (h : r.Natural) (pairs : List (Int × Int)) : (r.restore pairs).Natural := by
  refine h.of_entries (entries_restore r pairs) fun e he => ?_
  unfold Report.Natural
  rw [Report.fill_unseen, Report.fill_lastUnseen]
  exact he

theorem Natural.carryForward (h : r.Natural) (earlier : Registry) :
    (r.carryForward earlier).Natural := by
  refine h.of_entries (g := fun e => _) rfl fun e he => ?_
  dsimp only
  split
  · unfold Report.Natural
    rw [Report.scheduleFrom_unseen, Report.scheduleFrom_lastUnseen]
    exact he
  · exact he

theorem Natural.clearCounts (h : r.Natural) (target : Option Int) :
    (r.clearCounts target).Natural := by
  refine h.of_entries (g := fun e => _) rfl fun e he => ?_
  dsimp only
  split
  · exact ⟨Int.le_refl 0, Int.le_refl 0⟩
  · exact he

theorem Natural.checked (h : r.Natural) (id time : Int) {unseen : Option Int}
    (hunseen : ∀ n ∈ unseen, 0 ≤ n) : (r.modify id (·.checked time unseen)).Natural := by
  refine h.modify id fun report hreport => ?_
  unfold Report.checked Report.Natural
  dsimp only
  rw [Report.scheduleFrom_unseen, Report.scheduleFrom_lastUnseen]
  cases unseen with
  | none => exact hreport
  | some n => exact ⟨hunseen n rfl, hreport.2⟩

end Registry

/-! ## Collaborators that count -/

/-- Collaborators do not lead out of a set of worlds, in which the store has no negative count, and
put no message into the queue that tells one. -/
structure Surroundings.CountsNaturally (env : Surroundings ω) (I : ω → Prop) : Prop where
  respects : env.Respects fun s => I s.world ∧ ∀ m ∈ s.core.queue, m.Natural
  count : ∀ id w n, I w → (env.source.count id w).1 = .ok (some n) → 0 ≤ n

/-- The world is one of a set, and no count is negative that is remembered or waits. -/
def System.Natural (I : ω → Prop) (s : System ω) : Prop :=
  (I s.world ∧ ∀ m ∈ s.core.queue, m.Natural) ∧ s.core.registry.Natural

theorem System.Natural.published {I : ω → Prop} {s : System ω} (h : s.Natural I) (mode : LoadMode)
    {built : Registry} (hbuilt : built.Unchecked) :
    System.Natural I { s with core := s.core.published mode built } := by
  unfold Core.published
  cases mode with
  | forceReset => exact ⟨h.1, hbuilt.natural⟩
  | one id => exact ⟨h.1, h.2.addMissing hbuilt.natural⟩
  | fillIfEmpty =>
    dsimp only
    split
    · exact ⟨h.1, hbuilt.natural⟩
    · exact h

namespace Surroundings.CountsNaturally

variable {env : Surroundings ω} {I : ω → Prop} (h : env.CountsNaturally I)
include h

/-- A message that tells no negative count has none recorded. -/
theorem of_brings {m : Message} (hm : m.Natural) {n : Int}
    (hn : m.Brings env (System.Natural I) n) : 0 ≤ n := by
  cases m with
  | notifyRequested id =>
    obtain ⟨s, hs, hanswer⟩ := hn
    exact h.count id s.world n hs.1.1 hanswer
  | checkProgress id mailbox progress error count => exact hm n hn
  | checkComplete id count error => exact hm n hn
  | _ => exact hn.elim

variable (hdiscreet : env.Discreet)
include hdiscreet

theorem respects_natural : env.Respects (System.Natural I) :=
  h.respects.and (hdiscreet.respects_registry Registry.Natural)

theorem load (mode : LoadMode) : (load env mode).Keeps (System.Natural I) :=
  (h.respects_natural hdiscreet).spares.abides.load mode fun _ _ hs hbuilt =>
    hs.published mode hbuilt

theorem refresh : (refresh env).Keeps (System.Natural I) := by
  intro s hs
  obtain ⟨s', hs', ⟨e, hr⟩ | ⟨built, hbuilt, hr⟩⟩ :=
    refresh_cases (h.respects_natural hdiscreet).spares.abides hs
  · rw [hr]
    exact hs'
  · rw [hr]
    exact ⟨hs'.1, hbuilt.natural.carryForward _⟩

/-- Counts come into the registry from the message and from the store alone. -/
theorem sustains {m : Message} (hm : m.Natural) :
    env.Sustains m (System.Natural I) (System.Natural I) where
  toAbides := (h.respects_natural hdiscreet).spares.abides
  opened _ _ _ _ hs := hs
  ended _ _ _ _ _ hs := hs
  told _ _ _ _ _ _ _ hs := hs
  fill := h.load hdiscreet .fillIfEmpty
  restore _ _ _ := (h.load hdiscreet .fillIfEmpty).bind fun _ _ hs => ⟨hs.1, hs.2.restore _⟩
  refresh _ _ := h.refresh hdiscreet
  update id _ _ hbrings := (h.respects_natural hdiscreet).spares.abides.update
    (fun _ _ hs hbuilt => hs.published (.one id) hbuilt)
    fun s hs => ⟨hs.1, hs.2.checked id s.clock fun n hn => h.of_brings hm (hbrings n hn)⟩
  armWatchdog id _ _ := (h.respects_natural hdiscreet).armWatchdog (fun _ _ hs => hs) id
  disarm _ := (h.respects_natural hdiscreet).spares.abides.disarm fun _ _ hs => hs
  announce id _ := (h.respects_natural hdiscreet).announce id fun _ hs =>
    ⟨hs.1, hs.2.modify id fun _ hreport => ⟨hreport.1, hreport.1⟩⟩
  silent _ hs := hs
  rearmAfter := (h.respects_natural hdiscreet).rearm (fun _ _ hs => hs)
    (h.load hdiscreet .fillIfEmpty)

/-- Handling the next message that waits leaves no count negative. -/
theorem after_next {s : System ω} (hs : s.Natural I) :
    System.Natural I (Occurrence.next.after env s) := by
  cases hqueue : s.core.queue with
  | nil =>
    rw [after_next_nil env hqueue]
    exact hs
  | cons m rest =>
    have hwaiting := hs.1.2
    rw [hqueue] at hwaiting
    rw [after_next_cons env hqueue]
    exact (h.respects_natural hdiscreet).spares.process
      (h.sustains hdiscreet (hwaiting m List.mem_cons_self)).handle _
      ⟨⟨hs.1.1, fun m' hm' => hwaiting m' (List.mem_cons_of_mem m hm')⟩, hs.2⟩

/-- Nor does anything else that happens. -/
theorem after {e : Episode ω} (he : e.Natural I) {s : System ω} (hs : s.Natural I) :
    System.Natural I (e.after env s) := by
  have hspares := (h.respects_natural hdiscreet).spares
  have hqueued : ∀ m : Message, m.Natural → ∀ s : System ω, s.Natural I →
      System.Natural I { s with core := { s.core with queue := s.core.queue ++ [m] } } := by
    intro m hm s hs
    refine ⟨⟨hs.1.1, fun m' hm' => ?_⟩, hs.2⟩
    rcases List.mem_append.1 hm' with hm' | hm'
    · exact hs.1.2 m' hm'
    · rw [List.mem_singleton.1 hm']
      exact hm
  cases e with
  | occurs o =>
    cases o with
    | submit m => exact hspares.submit (hqueued m (he.2 m rfl)) s hs
    | wake payload =>
      exact hspares.wake (fun snapshot _ => hqueued snapshot.message snapshot.natural_message) s hs
    | resetCounts target =>
      exact hspares.resetCounts target (fun _ hs => ⟨hs.1, hs.2.clearCounts target⟩) s hs
    | next => exact h.after_next hdiscreet hs
    | elapse clock world => exact ⟨⟨he.1, hs.1.2⟩, hs.2⟩
  | close => exact ⟨⟨hs.1.1, hs.1.2⟩, Registry.natural_empty⟩
  | restart => exact ⟨⟨hs.1.1, fun _ hm => absurd hm List.not_mem_nil⟩, Registry.natural_empty⟩

theorem course {es : List (Episode ω)} (hes : ∀ e ∈ es, e.Natural I) {l : Ledger ω}
    (hl : l.system.Natural I) : (l.course env es).system.Natural I := by
  induction es generalizing l with
  | nil => exact hl
  | cons e es ih =>
    exact ih (fun p hp => hes p (List.mem_cons_of_mem e hp))
      (h.after hdiscreet (hes e List.mem_cons_self) hl)

end Surroundings.CountsNaturally

/-! ## The result -/

/-- The count that was announced last is not negative if no count is that is remembered. -/
theorem Ledger.Balanced.lastTold_kept_nonneg {l : Ledger ω} (h : l.Balanced)
    (hregistry : l.system.core.registry.Natural) (env : Surroundings ω) (e : Episode ω) (a : Int) :
    0 ≤ lastTold (l.kept env e a) := by
  unfold Ledger.kept
  split
  · exact Int.le_refl 0
  · rename_i hkept
    have hcontains : l.system.core.registry.contains a = true := by
      by_contra hno
      exact hkept (by simp [Episode.renews, hno])
    obtain ⟨report, hfind⟩ := Option.isSome_iff_exists.1 hcontains
    rw [← (h.remembered a report hfind).2]
    exact (hregistry _ (Registry.mem_of_find? hfind)).2

/-- In every course of events that begins with a new poller and in which no count is negative that
messages and the store tell, each announcement tells of at least one unseen message, and of no more
new ones than there are unseen.  The number of new messages is not negative if and only if the count
has not fallen below the one announced last since the report was made or its counts were
forgotten. -/
theorem announced_within_iff_not_fallen {env : Surroundings ω} {I : ω → Prop} (h : env.Discreet)
    (hcounts : env.CountsNaturally I) {s : System ω} (hcore : s.core = {}) (hs : I s.world)
    {es : List (Episode ω)} (hes : ∀ e ∈ es, e.Natural I) {e : Episode ω} (he : e.Natural I) :
    let l := Ledger.course env { system := s } es
    ∀ mail ∈ announcedBetween l.system (e.after env l.system),
      0 < mail.unseen ∧ mail.justFetched ≤ mail.unseen ∧
        (0 ≤ mail.justFetched ↔ lastTold (l.kept env e mail.account) ≤ mail.unseen) := by
  intro l mail hmail
  have hstart : s.Natural I := by
    unfold System.Natural
    rw [hcore]
    exact ⟨⟨hs, fun _ hm => absurd hm List.not_mem_nil⟩, Registry.natural_empty⟩
  have hbalanced : l.Balanced := h.balanced_course (Ledger.balanced_start hcore) es
  have hnatural : l.system.Natural I := hcounts.course h hes (l := { system := s }) hstart
  have hafter : System.Natural I (e.after env l.system) := hcounts.after h he hnatural
  have hlast := hbalanced.lastTold_kept_nonneg hnatural.2 env e mail.account
  have htold := h.told_ledger hbalanced e
  change Told _ _ (e.after env l.system).core.registry
    (announcements (e.after env l.system).journal) at htold
  generalize hannounced : announcements (e.after env l.system).journal = told at htold
  cases htold with
  | nothing _ =>
    rw [announcedBetween_same hannounced] at hmail
    exact absurd hmail List.not_mem_nil
  | mail mail' report hfind _ hunseen hne hnew _ =>
    rw [announcedBetween_cons hannounced] at hmail
    obtain rfl := List.mem_singleton.1 hmail
    have hnonneg : 0 ≤ report.unseen := (hafter.2 _ (Registry.mem_of_find? hfind)).1
    omega

/-! ## Eight messages, and then fewer or more -/

namespace Rehearsal

/-- Worlds whose accounts are in memory, with no negative count. -/
def CountedNaturally (w : World) : Prop := ∃ r, w.source = .roster r ∧ ∀ p ∈ r.counts, 0 ≤ p.2

/-- A roster that is asked or changed has no negative count if it is not given one. -/
theorem countedNaturally_ofSource {α : Type} {ofRoster : Roster → α × Roster}
    (ofStore : Store.Act α)
    (h : ∀ r, (∀ p ∈ r.counts, 0 ≤ p.2) → ∀ p ∈ (ofRoster r).2.counts, 0 ≤ p.2) {w : World}
    (hw : CountedNaturally w) : CountedNaturally (ofSource ofRoster ofStore w).2 := by
  obtain ⟨r, hr, hcounts⟩ := hw
  unfold ofSource
  rw [hr]
  exact ⟨_, rfl, h r hcounts⟩

theorem countsNaturally_inMemory : inMemory.CountsNaturally CountedNaturally where
  respects := by
    have hanswer : ∀ {α : Type} (reply : Reply World α),
        (∀ w, CountedNaturally w → CountedNaturally (reply w).2) →
        (answer reply).Keeps fun s => CountedNaturally s.world ∧ ∀ m ∈ s.core.queue, m.Natural :=
      fun reply hreply => .answer reply (fun _ _ hs => hs) fun s hs => ⟨hreply s.world hs.1, hs.2⟩
    have hasked : ∀ {α : Type} (ofRoster : Roster → α) (ofStore : Store.Act α) (w : World),
        CountedNaturally w → CountedNaturally (askSource ofRoster ofStore w).2 :=
      fun ofRoster ofStore w hw => countedNaturally_ofSource ofStore (fun _ hr => hr) hw
    exact {
      record := fun _ _ hs => hs
      during := fun c s hs => by
        show CountedNaturally (((surroundings {} 1 0).during c).run s).2.world ∧ ∀ m ∈
          (((surroundings {} 1 0).during c).run s).2.core.queue, m.Natural
        rw [run_during]
        exact hs
      list := hanswer _ (hasked _ _)
      get := fun _ => hanswer _ (hasked _ _)
      isSyncEnabled := fun _ => hanswer _ (hasked _ _)
      count := fun _ => hanswer _ (hasked _ _)
      resetCount := fun target => hanswer _ fun w hw => by
        refine countedNaturally_ofSource _ (fun r hr p hp => ?_) hw
        cases target with
        | none => exact absurd hp List.not_mem_nil
        | some id =>
          rcases List.mem_cons.1 hp with rfl | hp
          · exact Int.le_refl 0
          · exact hr p (List.mem_of_mem_filter hp)
      idsWithProtocol := fun _ => hanswer _ (hasked _ _)
      delete := fun id => hanswer _ fun w hw => by
        show CountedNaturally (if w.deleteRemoves = true then _ else (Except.ok (), w)).2
        split
        · exact countedNaturally_ofSource (Store.delete id)
            (show ∀ r : Roster, (∀ p ∈ r.counts, 0 ≤ p.2) →
              ∀ p ∈ ((r.find? id).isSome, r.remove id).2.counts, 0 ≤ p.2 from fun _ hr => hr) hw
        · exact hw }
  count id w n hw hn := by
    obtain ⟨r, hr, hcounts⟩ := hw
    change (askSource (·.count? id) (Store.count id) w).1 = .ok (some n) at hn
    unfold askSource ofSource at hn
    rw [hr] at hn
    have hcount : r.count? id = some n := Except.ok.inj hn
    unfold Roster.count? at hcount
    obtain ⟨-, -, rfl⟩ := Option.map_eq_some_iff.1 hcount
    cases hlookup : r.counts.lookup id with
    | none => exact Int.le_refl 0
    | some n =>
      obtain ⟨before, after, heq, -⟩ := List.lookup_eq_some_iff.1 hlookup
      exact hcounts (id, n) (by rw [heq]; simp)

/-- The end of a check reports eight messages, which are announced, and the end of the next one
reports some more or some fewer. -/
def eightAndThen (count : Int) : List (Episode World) :=
  [.occurs (.submit (.checkComplete 1 (some 8) none)), .occurs .next,
    .occurs (.submit (.checkComplete 1 (some count) none))]

theorem natural_eightAndThen {count : Int} (hcount : 0 ≤ count) :
    ∀ e ∈ eightAndThen count, e.Natural CountedNaturally := by
  have hcomplete : ∀ n : Int, 0 ≤ n → (Episode.occurs (.submit (.checkComplete 1 (some n)
      none))).Natural CountedNaturally := by
    refine fun n hn => ⟨trivial, ?_⟩
    rintro _ ⟨rfl⟩ _ ⟨rfl⟩
    exact hn
  intro e he
  simp only [eightAndThen, List.mem_cons, List.not_mem_nil, or_false] at he
  rcases he with rfl | rfl | rfl
  · exact hcomplete 8 (by decide)
  · exact ⟨trivial, nofun⟩
  · exact hcomplete count hcount

theorem countedNaturally_twoAccountsWorld : CountedNaturally twoAccountsWorld :=
  ⟨twoAccounts, rfl, fun _ hp => absurd hp List.not_mem_nil⟩

/-- Of ten messages two are new. -/
theorem announced_within_eightThenTen :
    let l := Ledger.course inMemory { system := freshPoller } (eightAndThen 10)
    announcedBetween l.system ((Episode.occurs .next).after inMemory l.system) = [⟨1, 10, 2⟩] ∧
      lastTold (l.kept inMemory (.occurs .next) 1) ≤ 10 ∧
      (0 < (10 : Int) ∧ (2 : Int) ≤ 10 ∧ 0 ≤ (2 : Int)) := by
  intro l
  have hmail : announcedBetween l.system ((Episode.occurs .next).after inMemory l.system) =
      [⟨1, 10, 2⟩] := by decide +kernel
  have hlast : lastTold (l.kept inMemory (.occurs .next) 1) ≤ 10 := by decide +kernel
  have hdiscreet : inMemory.Discreet := discreet_surroundings {} 1
  have hnatural : ∀ e ∈ eightAndThen 10, e.Natural CountedNaturally :=
    natural_eightAndThen (by decide)
  have hnext : (Episode.occurs .next).Natural CountedNaturally := ⟨trivial, nofun⟩
  have hmem : (⟨1, 10, 2⟩ : NewMail) ∈
      announcedBetween l.system ((Episode.occurs .next).after inMemory l.system) := by
    rw [hmail]
    exact List.mem_cons_self
  obtain ⟨hunseen, hle, hiff⟩ := announced_within_iff_not_fallen hdiscreet countsNaturally_inMemory
    (s := freshPoller) rfl countedNaturally_twoAccountsWorld hnatural hnext _ hmem
  exact ⟨hmail, hlast, hunseen, hle, hiff.2 hlast⟩

/-- When eight messages were announced and then there are five, minus three are announced as new. -/
theorem fewer_than_none_announced :
    inMemory.Discreet ∧ inMemory.CountsNaturally CountedNaturally ∧
      (∀ e ∈ eightAndThen 5, e.Natural CountedNaturally) ∧
      ¬∀ mail ∈ announcedBetween (Episode.course inMemory freshPoller (eightAndThen 5))
          ((Episode.occurs .next).after inMemory
            (Episode.course inMemory freshPoller (eightAndThen 5))),
        0 ≤ mail.justFetched ∧ mail.justFetched ≤ mail.unseen := by
  refine ⟨discreet_surroundings {} 1, countsNaturally_inMemory, natural_eightAndThen (by decide),
    fun hall => ?_⟩
  have hmail : announcedBetween (Episode.course inMemory freshPoller (eightAndThen 5))
      ((Episode.occurs .next).after inMemory (Episode.course inMemory freshPoller
        (eightAndThen 5))) = [⟨1, 5, -3⟩] := by decide +kernel
  rw [hmail] at hall
  have hnonneg := (hall _ List.mem_cons_self).1
  exact absurd hnonneg (by decide)

end Rehearsal

end MailSchedule

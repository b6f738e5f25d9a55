import Mathlib.Algebra.Ring.Int.Defs
import MailSchedule.Proofs.Announced
import MailSchedule.Proofs.Occurrences
import MailSchedule.Proofs.Rehearsing

/-!
# Announcements add up

Of every account it is written down what was announced of it, until its report is made anew or its
counts are forgotten.  Whatever happens to a poller, the last of these announcements tells the count
that the report remembers, and the numbers of new messages announced add up to it.

Results:

* `Episode`, `Episode.renews`: what happens to pollers, and which accounts start anew by it.
* `Ledger`, `Ledger.after`: the announcements that stand.
* `Surroundings.Discreet.told_after`: what is announced in an episode.
* `Surroundings.Discreet.balanced_after`: the announcements that stand go on adding up.
* `announcements_add_up`: all of this in every course of events.
-/

namespace MailSchedule

variable {ω : Type}

/-! ## Episodes -/

/-- What happens to pollers: something happens to the one there is, or it is closed, or a new one
takes its place. -/
inductive Episode (ω : Type)
  | occurs (o : Occurrence ω)
  | close
  | restart

/-- Whether the next message that waits has the registry rebuilt, and rebuilding will succeed. -/
def System.rebuilds (env : Surroundings ω) (s : System ω) : Bool :=
  match s.core.queue with
  | [] => false
  | m :: rest =>
    match rebuild env m with
    | none => false
    | some act =>
      (act.run (System.begun env m { s with core := { s.core with queue := rest } })).1.isOk

namespace Episode

/-- The system after an episode. -/
def after (env : Surroundings ω) (s : System ω) : Episode ω → System ω
  | occurs o => o.after env s
  | close => (MailSchedule.close.run s).2
  | restart => { s with core := {} }

/-- The system after several episodes. -/
def course (env : Surroundings ω) (s : System ω) (es : List (Episode ω)) : System ω :=
  es.foldl (after env) s

/-- Whether an episode has an account start anew that is tracked: its counts are forgotten, or its
report is made anew or given up. -/
def resets (env : Surroundings ω) (s : System ω) (e : Episode ω) (a : Int) : Bool :=
  match e with
  | occurs (.resetCounts target) => covers target a
  | occurs .next => s.rebuilds env
  | occurs _ => false
  | close => true
  | restart => true

/-- Whether an account that is tracked after an episode has started anew in it.  So does every
account that was not tracked before. -/
def renews (env : Surroundings ω) (s : System ω) (e : Episode ω) (a : Int) : Bool :=
  !s.core.registry.contains a || e.resets env s a

end Episode

/-! ## Ledgers -/

/-- The count of unseen messages that was announced last, with the latest announcement first. -/
def lastTold : List NewMail → Int
  | [] => 0
  | mail :: _ => mail.unseen

/-- The announcements made between one system and a later one, the latest first. -/
def announcedBetween (s s' : System ω) : List NewMail :=
  (announcements s'.journal).take
    ((announcements s'.journal).length - (announcements s.journal).length)

/-- A system with the announcements that stand: those of an account since its report was made or its
counts were forgotten, the latest first. -/
structure Ledger (ω : Type) where
  system : System ω
  standing : Int → List NewMail := fun _ => []

namespace Ledger

/-- What goes on standing in an episode. -/
def kept (env : Surroundings ω) (l : Ledger ω) (e : Episode ω) (a : Int) : List NewMail :=
  if e.renews env l.system a then [] else l.standing a

/-- The ledger after an episode. -/
def after (env : Surroundings ω) (l : Ledger ω) (e : Episode ω) : Ledger ω where
  system := e.after env l.system
  standing a :=
    (announcedBetween l.system (e.after env l.system)).filter (·.account = a) ++ l.kept env e a

/-- The ledger after several episodes. -/
def course (env : Surroundings ω) (l : Ledger ω) (es : List (Episode ω)) : Ledger ω :=
  es.foldl (after env) l

/-- Of each account tracked the announcement that stands last is remembered, and of every account
the numbers of new messages announced add up to its count. -/
structure Balanced (l : Ledger ω) : Prop where
  remembered : ∀ a report, l.system.core.registry.find? a = some report →
    report.account = a ∧ report.lastUnseen = lastTold (l.standing a)
  sum : ∀ a, ((l.standing a).map (·.justFetched)).sum = lastTold (l.standing a)

theorem balanced_start {s : System ω} (h : s.core = {}) :
    ({ system := s } : Ledger ω).Balanced where
  remembered a report hfind := by
    dsimp only at hfind
    rw [h] at hfind
    cases hfind
  sum _ := rfl

end Ledger

/-! ## One episode -/

section

variable {s s' : System ω}

theorem announcedBetween_same (h : announcements s'.journal = announcements s.journal) :
    announcedBetween s s' = [] := by
  unfold announcedBetween
  rw [h, Nat.sub_self, List.take_zero]

theorem announcedBetween_cons {mail : NewMail}
    (h : announcements s'.journal = mail :: announcements s.journal) :
    announcedBetween s s' = [mail] := by
  unfold announcedBetween
  rw [h, List.length_cons, Nat.add_sub_cancel_left]
  rfl

end

/-- The counts from which an episode starts. -/
def Episode.renewed (env : Surroundings ω) (s : System ω) (e : Episode ω) (b : Int → Int) :
    Int → Int := fun a => if e.renews env s a then 0 else b a

/-- Accounts that are not tracked start from zero anyway. -/
theorem Registry.Tallies.renewed_eq {s : System ω} {b : Int → Int} (h : s.core.registry.Tallies b)
    (env : Surroundings ω) (e : Episode ω) :
    e.renewed env s b = fun a => if e.resets env s a then 0 else b a := by
  funext a
  unfold Episode.renewed Episode.renews
  cases hfind : s.core.registry.find? a with
  | none =>
    rw [h.untracked a hfind, ite_self, ite_self]
  | some report =>
    rw [contains_of_find? hfind]
    rfl

/-- The counts that are covered start from zero when they are forgotten. -/
theorem Registry.Tallies.clearCounts {r : Registry} {b : Int → Int} (h : r.Tallies b)
    (target : Option Int) :
    (r.clearCounts target).Tallies fun a => if covers target a then 0 else b a := by
  refine h.of_entries (g := fun e => _) rfl (fun x report hx => ?_) fun x hx => ?_
  · obtain ⟨haccount, hlast⟩ := h.tracked x report hx
    dsimp only
    rw [haccount]
    by_cases hcovers : covers target x = true
    · rw [if_pos hcovers, if_pos hcovers]
      exact ⟨haccount, rfl⟩
    · rw [if_neg hcovers, if_neg hcovers]
      exact ⟨haccount, hlast⟩
  · rw [h.untracked x hx, ite_self]

namespace Surroundings.Discreet

variable {env : Surroundings ω} (h : env.Discreet) {s : System ω} {b : Int → Int}
  {l : List NewMail}
include h

/-- If the next message has the registry rebuilt, all counts start from zero and nothing is
announced. -/
theorem silent_next (hs : Posted (Tallied b l) s) (hrebuilds : s.rebuilds env = true) :
    Posted (Tallied (fun _ => 0) l) (Occurrence.next.after env s) := by
  unfold System.rebuilds at hrebuilds
  cases hqueue : s.core.queue with
  | nil =>
    rw [hqueue] at hrebuilds
    cases hrebuilds
  | cons m rest =>
    let taken : System ω := { s with core := { s.core with queue := rest } }
    rw [hqueue] at hrebuilds
    dsimp only at hrebuilds
    cases hm : rebuild env m with
    | none =>
      rw [hm] at hrebuilds
      cases hrebuilds
    | some act =>
      rw [hm] at hrebuilds
      have hrebuilt := h.handle_rebuild hm (h.begun (s := taken) hs m)
      rw [show (act.run (taken.begun env m)).1.isOk = true from hrebuilds] at hrebuilt
      rw [after_next_cons env hqueue]
      exact process hrebuilt

/-- Handling the next message announces one thing at most.  All counts start from zero if the
registry is rebuilt. -/
theorem told_next (hs : Posted (Tallied b l) s) :
    Posted (Told (fun a => if s.rebuilds env then 0 else b a) l) (Occurrence.next.after env s) := by
  cases hrebuilds : s.rebuilds env with
  | true => exact h.operates.silent _ (h.silent_next hs hrebuilds)
  | false =>
    cases hqueue : s.core.queue with
    | nil =>
      rw [after_next_nil env hqueue]
      exact h.operates.silent s hs
    | cons m rest =>
      let taken : System ω := { s with core := { s.core with queue := rest } }
      have hbegun : Posted (Tallied b l) (taken.begun env m) := h.begun (s := taken) hs m
      rw [after_next_cons env hqueue]
      cases hm : rebuild env m with
      | none => exact process (h.handle hm _ hbegun)
      | some act =>
        unfold System.rebuilds at hrebuilds
        rw [hqueue] at hrebuilds
        dsimp only at hrebuilds
        rw [hm] at hrebuilds
        have hrebuilt := h.operates.silent _ (h.handle_rebuild hm hbegun)
        rw [show (act.run (taken.begun env m)).1.isOk = false from hrebuilds] at hrebuilt
        exact process hrebuilt

/-- From counts that are remembered an episode leads to one announcement at most, which is true, if
those accounts count from zero that start anew. -/
theorem told_after (hs : Posted (Tallied b l) s) (e : Episode ω) :
    Posted (Told (e.renewed env s b) l) (e.after env s) := by
  rw [hs.1.renewed_eq env e]
  cases e with
  | occurs o =>
    cases o with
    | submit m => exact h.operates.silent _ ((h.spares _).submit (fun _ hs => hs) s hs)
    | wake payload => exact h.operates.silent _ ((h.spares _).wake (fun _ _ _ hs => hs) s hs)
    | resetCounts target =>
      refine h.operates.silent _ ((h.spares _).resetCounts (Q := (· = s)) target ?_ s rfl)
      rintro _ rfl
      exact ⟨hs.1.clearCounts target, hs.2⟩
    | next => exact h.told_next hs
    | elapse clock world => exact h.operates.silent _ hs
  | close => exact h.operates.silent _ ⟨Registry.tallies_empty, hs.2⟩
  | restart => exact h.operates.silent _ ⟨Registry.tallies_empty, hs.2⟩

end Surroundings.Discreet

/-! ## The result -/

/-- A balanced ledger shows the counts from which the next episode starts. -/
theorem Ledger.Balanced.tallies {l : Ledger ω} (h : l.Balanced) :
    l.system.core.registry.Tallies fun a =>
      if l.system.core.registry.contains a then lastTold (l.standing a) else 0 where
  tracked a report hfind := by
    rw [if_pos (Registry.contains_of_find? hfind)]
    exact h.remembered a report hfind
  untracked a hfind := by
    unfold Registry.contains
    rw [hfind]
    rfl

/-- So does what goes on standing in it. -/
theorem Ledger.lastTold_kept (l : Ledger ω) (env : Surroundings ω) (e : Episode ω) :
    (e.renewed env l.system fun a =>
      if l.system.core.registry.contains a then lastTold (l.standing a) else 0) =
      fun a => lastTold (l.kept env e a) := by
  funext a
  unfold Episode.renewed kept
  cases hrenews : e.renews env l.system a with
  | true => rfl
  | false =>
    have hcontains : l.system.core.registry.contains a = true := by
      unfold Episode.renews at hrenews
      rw [Bool.or_eq_false_iff, Bool.not_eq_false'] at hrenews
      exact hrenews.1
    dsimp only
    rw [hcontains]
    rfl

theorem Ledger.Balanced.sum_kept {l : Ledger ω} (h : l.Balanced) (env : Surroundings ω)
    (e : Episode ω) (a : Int) :
    ((l.kept env e a).map (·.justFetched)).sum = lastTold (l.kept env e a) := by
  unfold kept
  split
  · rfl
  · exact h.sum a

theorem Surroundings.Discreet.told_ledger {env : Surroundings ω} (h : env.Discreet) {l : Ledger ω}
    (hl : l.Balanced) (e : Episode ω) :
    Told (fun a => lastTold (l.kept env e a)) (announcements l.system.journal)
      (l.after env e).system.core.registry (announcements (l.after env e).system.journal) := by
  have htold := h.told_after (s := l.system) ⟨hl.tallies, rfl⟩ e
  rw [l.lastTold_kept env e] at htold
  exact htold

/-- Ledgers stay balanced. -/
theorem Surroundings.Discreet.balanced_after {env : Surroundings ω} (h : env.Discreet)
    {l : Ledger ω} (hl : l.Balanced) (e : Episode ω) : (l.after env e).Balanced := by
  have htold := h.told_ledger hl e
  generalize hannounced : announcements (l.after env e).system.journal = told at htold
  have hstanding : ∀ a, (l.after env e).standing a =
      (announcedBetween l.system (l.after env e).system).filter (·.account = a) ++
        l.kept env e a := fun a => rfl
  cases htold with
  | nothing htallies =>
    have hsame : ∀ a, (l.after env e).standing a = l.kept env e a := by
      intro a
      rw [hstanding, announcedBetween_same hannounced]
      rfl
    constructor
    · intro a report hfind
      rw [hsame]
      exact htallies.tracked a report hfind
    · intro a
      rw [hsame]
      exact hl.sum_kept env e a
  | mail mail report hfind hnotify hunseen hne hnew htallies =>
    have hnews : ∀ a, (l.after env e).standing a =
        if a = mail.account then mail :: l.kept env e a else l.kept env e a := by
      intro a
      rw [hstanding, announcedBetween_cons hannounced]
      by_cases ha : a = mail.account
      · simp [ha]
      · simp [ha, Ne.symm ha]
    constructor
    · intro a report hfind
      obtain ⟨haccount, hlast⟩ := htallies.tracked a report hfind
      refine ⟨haccount, hlast.trans ?_⟩
      rw [hnews]
      split
      · rfl
      · rfl
    · intro a
      rw [hnews]
      split
      · rename_i ha
        rw [List.map_cons, List.sum_cons, hl.sum_kept env e a, hnew, ha]
        exact Int.sub_add_cancel _ _
      · exact hl.sum_kept env e a

theorem Surroundings.Discreet.balanced_course {env : Surroundings ω} (h : env.Discreet)
    {l : Ledger ω} (hl : l.Balanced) (es : List (Episode ω)) : (l.course env es).Balanced := by
  induction es generalizing l with
  | nil => exact hl
  | cons e es ih => exact ih (h.balanced_after hl e)

/-- In every course of events that begins with a new poller, each report remembers the count that
was announced last since the report was made or its counts were forgotten, and the numbers of new
messages announced since then add up to it.  What is announced next, if anything is, is announced of
an account that is tracked and whose new mail is announced: its count of unseen messages, which is
not zero, and by how much it exceeds the count announced last; and the report remembers it. -/
theorem announcements_add_up {env : Surroundings ω} (h : env.Discreet) {s : System ω}
    (hcore : s.core = {}) (es : List (Episode ω)) (e : Episode ω) :
    let l := Ledger.course env { system := s } es
    let s' := e.after env l.system
    (∀ a report, l.system.core.registry.find? a = some report →
      report.lastUnseen = lastTold (l.standing a) ∧
        report.lastUnseen = ((l.standing a).map (·.justFetched)).sum) ∧
    (announcements s'.journal = announcements l.system.journal ∨
      ∃ mail report, announcements s'.journal = mail :: announcements l.system.journal ∧
        s'.core.registry.find? mail.account = some report ∧ report.notify = true ∧
        report.unseen = mail.unseen ∧ mail.unseen ≠ 0 ∧
        mail.justFetched = mail.unseen - lastTold (l.kept env e mail.account) ∧
        report.lastUnseen = mail.unseen) := by
  intro l s'
  have hbalanced : l.Balanced := h.balanced_course (Ledger.balanced_start hcore) es
  constructor
  · intro a report hfind
    have hlast := (hbalanced.remembered a report hfind).2
    exact ⟨hlast, hlast.trans (hbalanced.sum a).symm⟩
  · have htold := h.told_ledger hbalanced e
    change Told _ _ s'.core.registry (announcements s'.journal) at htold
    generalize hannounced : announcements s'.journal = told at htold ⊢
    cases htold with
    | nothing htallies => exact Or.inl rfl
    | mail mail report hfind hnotify hunseen hne hnew htallies =>
      have hlast := (htallies.tracked mail.account report hfind).2
      rw [if_pos rfl] at hlast
      exact Or.inr ⟨mail, report, rfl, hfind, hnotify, hunseen, hne, hnew, hlast⟩

/-! ## Announcements that nobody shows -/

namespace Rehearsal

theorem discreet_surroundings (setup : Setup) (limit : Nat) :
    (surroundings setup limit 0).Discreet where
  core c s := by
    rw [run_during]
    exact ⟨[], by rw [List.append_nil]⟩
  silent c s := by rw [run_during]

/-- A world in which the first account has some unseen messages, and whoever is to show an
announcement fails. -/
def speechless (unseen : Int) : World :=
  { twoAccountsWorld with
    source := .roster { twoAccounts with counts := [(1, unseen)] }
    failures := [(.showNotification, ⟨.other "RuntimeError", "no display"⟩)] }

/-- Five messages are announced, and then there are eight. -/
def fiveThenEight : List (Episode World) :=
  [.occurs (.elapse 1000000 (speechless 5)), .occurs (.submit (.notifyRequested 1)), .occurs .next,
    .occurs (.elapse 1060000 (speechless 8)), .occurs (.submit (.notifyRequested 1))]

/-- An announcement that nobody shows counts as made: of eight messages three are new then. -/
theorem announcements_add_up_fiveThenEight :
    let l := Ledger.course inMemory { system := freshPoller } fiveThenEight
    l.standing 1 = [⟨1, 5, 5⟩] ∧
      (∃ report, l.system.core.registry.find? 1 = some report ∧ report.lastUnseen = 5) ∧
      ∃ report, announcements ((Episode.occurs .next).after inMemory l.system).journal =
          [⟨1, 8, 3⟩, ⟨1, 5, 5⟩] ∧
        ((Episode.occurs .next).after inMemory l.system).core.registry.find? 1 = some report ∧
        report.notify = true ∧ report.unseen = 8 ∧ report.lastUnseen = 8 := by
  intro l
  have hstanding : l.standing 1 = [⟨1, 5, 5⟩] := by decide +kernel
  have hafter : announcements ((Episode.occurs .next).after inMemory l.system).journal =
      [⟨1, 8, 3⟩, ⟨1, 5, 5⟩] := by decide +kernel
  have hbefore : announcements l.system.journal = [⟨1, 5, 5⟩] := by decide +kernel
  have htracked : l.system.core.registry.contains 1 = true := by decide +kernel
  obtain ⟨hremembered, hnext⟩ := announcements_add_up (discreet_surroundings {} 1)
    (s := freshPoller) rfl fiveThenEight (.occurs .next)
  obtain ⟨report, hreport⟩ := Option.isSome_iff_exists.1 htracked
  refine ⟨hstanding, ⟨report, hreport, ?_⟩, ?_⟩
  · rw [(hremembered 1 report hreport).1]
    show lastTold (l.standing 1) = 5
    rw [hstanding]
    rfl
  · rcases hnext with hsame | ⟨mail, report', hmail, hfind, hnotify, hunseen, -, -, hlast⟩
    · have hlength : [(⟨1, 8, 3⟩ : NewMail), ⟨1, 5, 5⟩] = [⟨1, 5, 5⟩] :=
        hafter.symm.trans (hsame.trans hbefore)
      cases hlength
    · have heq : [(⟨1, 8, 3⟩ : NewMail), ⟨1, 5, 5⟩] = mail :: announcements l.system.journal :=
        hafter.symm.trans hmail
      cases heq
      exact ⟨report', hafter, hfind, hnotify, hunseen, hlast⟩

end Rehearsal

end MailSchedule

import MailSchedule.Proofs.Ledgers
import MailSchedule.Proofs.OpenChecks

/-!
# Arrivals announced once

Two announcements of an account follow each other, the account is tracked all the while, and its
notification is not withdrawn.  Then the second announcement should tell how many messages have
arrived since the first one.  It does, unless the accounts of a protocol were deleted in between:
this has the registry rebuilt, and rebuilding forgets what was announced although the notification
still stands.  The second announcement then counts the messages of the first one again.

Results:

* `Episode.withdraws`, `Episode.deletes`: which notifications are withdrawn, and when the accounts
  of a protocol are deleted.
* `Surroundings.Dependable.resets_eq`: accounts that are tracked start anew in these two cases.
* `Surroundings.Dependable.baseline_course`: the count that was announced last stays what it is, or
  is forgotten.
* `announced_once_iff_none_deleted`: the second announcement tells what has arrived since the first
  one if and only if no accounts were deleted by protocol in between.
-/

namespace MailSchedule

variable {ω : Type}

/-! ## Courses of episodes -/

namespace Episode

/-- Whether something holds of each episode of a course and of the system from which it starts. -/
def all (env : Surroundings ω) (p : Episode ω → System ω → Bool) :
    System ω → List (Episode ω) → Bool
  | _, [] => true
  | s, e :: es => p e s && all env p (e.after env s) es

/-- The world changes within a set. -/
def Within (I : ω → Prop) : Episode ω → Prop
  | occurs o => o.Within I
  | _ => True

/-- Whether the notification of an account is withdrawn: its counts are forgotten, all notifications
are withdrawn since the accounts may have changed, or the poller ends. -/
def withdraws (s : System ω) (a : Int) : Episode ω → Bool
  | occurs (.resetCounts target) => covers target a
  | occurs o => o.message? s = some .rescheduleRequested
  | close => true
  | restart => true

/-- Whether the accounts of a protocol are deleted. -/
def deletes (s : System ω) : Episode ω → Bool
  | occurs o =>
    match o.message? s with
    | some (.deleteProtocolRequested _) => true
    | _ => false
  | _ => false

end Episode

/-! ## Rebuilding among dependable collaborators -/

namespace Surroundings.Dependable

variable {env : Surroundings ω} {I : ω → Prop} (h : env.Dependable I)
include h

/-- The registry is rebuilt without failure. -/
theorem rebuild {m : Message} {act : Act ω Unit} (hact : rebuild env m = some act)
    {X : List Int → Option Wake → Prop} {t : Int} :
    act.Yields (Steady I (fun _ c w => X c w) t) fun _ => Steady I (fun _ c w => X c w) t := by
  cases m with
  | rescheduleRequested =>
    cases hact
    exact (h.call (c := .cancelNotification none) nofun).bind fun _ => h.refresh
  | deleteProtocolRequested protocol =>
    cases hact
    refine (h.call (c := .idsWithProtocol protocol) nofun).bind fun _ => ?_
    refine (Steady.answer (h.idsWithProtocol protocol)).bind fun ids => ?_
    exact ((h.deleteAccounts ids).mono (fun _ hs => hs.1) fun _ _ hs => hs).bind fun _ => h.refresh
  | _ => cases hact

/-- An account that is tracked starts anew if its notification is withdrawn, and if the accounts of
a protocol are deleted. -/
theorem resets_eq {s : System ω} (hs : I s.world) (e : Episode ω) (a : Int) :
    e.resets env s a = (e.withdraws s a || e.deletes s) := by
  cases e with
  | close => rfl
  | restart => rfl
  | occurs o =>
    cases o with
    | resetCounts target => exact (Bool.or_false _).symm
    | next =>
      show s.rebuilds env = _
      unfold System.rebuilds Episode.withdraws Episode.deletes Occurrence.message?
      cases s.core.queue with
      | nil => rfl
      | cons m rest =>
        have hok : ∀ act, MailSchedule.rebuild env m = some act →
            (act.run (System.begun env m
              { s with core := { s.core with queue := rest } })).1.isOk = true := by
          intro act hact
          obtain ⟨_, s', hr, -⟩ := h.rebuild hact (X := fun _ _ => True) _ (h.begun (t := s.clock)
            (s := { s with core := { s.core with queue := rest } })
            ⟨hs, Int.le_refl _, trivial⟩ m)
          rw [hr]
          rfl
        cases m with
        | rescheduleRequested => exact hok _ rfl
        | deleteProtocolRequested protocol => exact hok _ rfl
        | _ => rfl
    | _ => rfl

theorem world_after {s : System ω} (hs : I s.world) {e : Episode ω} (he : e.Within I) :
    I (e.after env s).world := by
  cases e with
  | occurs o => exact (h.after_completed he hs).1
  | close => exact hs
  | restart => exact hs

end Surroundings.Dependable

/-! ## The count that was announced last -/

section

variable {env : Surroundings ω} (h : env.Discreet) {s : System ω} {b : Int → Int}
  (hs : s.core.registry.Tallies b)
include h hs

/-- Whatever has accounts start anew that are tracked announces nothing. -/
theorem Surroundings.Discreet.silent_of_resets {e : Episode ω} {a : Int}
    (hresets : e.resets env s a = true) :
    announcements (e.after env s).journal = announcements s.journal := by
  cases e with
  | occurs o =>
    cases o with
    | next => exact (h.silent_next (l := announcements s.journal) ⟨hs, rfl⟩ hresets).2
    | resetCounts target =>
      exact (h.spares fun _ l => l = announcements s.journal).resetCounts target (fun _ hs => hs) s
        rfl
    | _ => cases hresets
  | close => rfl
  | restart => rfl

/-- An announcement tells how many messages have arrived since the count that was announced last,
and its own count is remembered. -/
theorem Surroundings.Discreet.announced_after {e : Episode ω} {mail : NewMail}
    (hmail : announcements (e.after env s).journal = mail :: announcements s.journal) :
    mail.unseen ≠ 0 ∧ mail.justFetched = mail.unseen - b mail.account ∧
      ∃ b', (e.after env s).core.registry.Tallies b' ∧ b' mail.account = mail.unseen := by
  have hresets : e.resets env s mail.account = false := by
    by_contra hno
    have hsame := h.silent_of_resets hs (Bool.not_eq_false _ ▸ hno)
    rw [hmail] at hsame
    exact List.cons_ne_self _ _ hsame
  have hrenewed : e.renewed env s b mail.account = b mail.account := by
    rw [congrFun (hs.renewed_eq env e) mail.account]
    exact if_neg (Bool.eq_false_iff.1 hresets)
  have htold := h.told_after (s := s) (l := announcements s.journal) ⟨hs, rfl⟩ e
  unfold Posted at htold
  rw [hmail] at htold
  generalize hlist : mail :: announcements s.journal = l at htold
  cases htold with
  | nothing _ => exact absurd hlist (List.cons_ne_self _ _)
  | mail mail' report _ _ _ hne hnew htallies =>
    cases hlist
    rw [hrenewed] at hnew
    exact ⟨hne, hnew, _, htallies, if_pos rfl⟩

end

/-- What an episode announces, and which counts are remembered after it: of accounts that are not
announced those from which it starts. -/
theorem Surroundings.Discreet.baseline_after {env : Surroundings ω} (h : env.Discreet)
    {s : System ω} {b : Int → Int} (hs : s.core.registry.Tallies b) (e : Episode ω) :
    ∃ b' shown, (e.after env s).core.registry.Tallies b' ∧
      announcements (e.after env s).journal = shown ++ announcements s.journal ∧
      ∀ a, (∀ mail ∈ shown, mail.account ≠ a) → b' a = e.renewed env s b a := by
  have htold := h.told_after (s := s) (l := announcements s.journal) ⟨hs, rfl⟩ e
  unfold Posted at htold
  generalize announcements (e.after env s).journal = l at htold
  cases htold with
  | nothing htallies => exact ⟨_, [], htallies, rfl, fun a _ => rfl⟩
  | mail mail report _ _ _ _ _ htallies =>
    exact ⟨_, [mail], htallies, rfl, fun a hother =>
      if_neg (hother mail List.mem_cons_self).symm⟩

namespace Surroundings.Dependable

variable {env : Surroundings ω} {I : ω → Prop} (h : env.Dependable I) (hdiscreet : env.Discreet)
include h hdiscreet

/-- While an account is tracked, is not announced and its notification is not withdrawn, the count
that was announced last stays what it is until the accounts of a protocol are deleted, and then is
forgotten.  The induction is on the episodes, with the counts at their start. -/
theorem baseline_course {es : List (Episode ω)} (hes : ∀ e ∈ es, e.Within I) {s : System ω}
    (hs : I s.world) {b : Int → Int} (hb : s.core.registry.Tallies b) :
    I (Episode.course env s es).world ∧
      ∃ b' shown, (Episode.course env s es).core.registry.Tallies b' ∧
        announcements (Episode.course env s es).journal = shown ++ announcements s.journal ∧
        ∀ a, (∀ mail ∈ shown, mail.account ≠ a) →
          Episode.all env (fun _ s => s.core.registry.contains a) s es = true →
          Episode.all env (fun e s => !e.withdraws s a) s es = true →
          b' a = if Episode.all env (fun e s => !e.deletes s) s es = true then b a else 0 := by
  induction es generalizing s b with
  | nil => exact ⟨hs, b, [], hb, rfl, fun a _ _ _ => rfl⟩
  | cons e es ih =>
    obtain ⟨b₁, shown₁, hb₁, hshown₁, hfirst⟩ := hdiscreet.baseline_after hb e
    obtain ⟨hworld, b', shown, hb', hshown, hrest⟩ :=
      ih (fun p hp => hes p (List.mem_cons_of_mem e hp))
        (h.world_after hs (hes e List.mem_cons_self)) hb₁
    refine ⟨hworld, b', shown ++ shown₁, hb', ?_, fun a hother htracked hkept => ?_⟩
    · refine hshown.trans ?_
      rw [hshown₁, List.append_assoc]
    obtain ⟨-, htracked⟩ := Bool.and_eq_true_iff.1 htracked
    obtain ⟨hstands, hkept⟩ := Bool.and_eq_true_iff.1 hkept
    rw [Bool.not_eq_true'] at hstands
    have hlater := hrest a (fun mail hmail => hother mail (List.mem_append_left _ hmail)) htracked
      hkept
    have hstart : b₁ a = if e.deletes s = true then 0 else b a := by
      rw [hfirst a fun mail hmail => hother mail (List.mem_append_right _ hmail),
        congrFun (hb.renewed_eq env e) a, h.resets_eq hs e a, hstands,
        Bool.false_or]
    unfold Episode.all
    rw [hlater, hstart]
    cases e.deletes s with
    | false => rfl
    | true => exact ite_self _

end Surroundings.Dependable

/-! ## The result -/

/-- In a course of episodes that begins with a new poller an account is announced, and announced
again later.  In between it is tracked, is not announced, and its notification is not withdrawn.
Then the second announcement tells how many messages have arrived since the first one if and only if
the accounts of no protocol were deleted in between. -/
theorem announced_once_iff_none_deleted {env : Surroundings ω} {I : ω → Prop}
    (h : env.Dependable I) (hdiscreet : env.Discreet) {s : System ω} (hs : I s.world)
    (hcore : s.core = {}) {before between : List (Episode ω)} {first second : Episode ω}
    (hbefore : ∀ e ∈ before, e.Within I) (hfirst : first.Within I)
    (hbetween : ∀ e ∈ between, e.Within I) {a u₁ j₁ u₂ j₂ : Int} {others : List NewMail} :
    let s₁ := Episode.course env s before
    let t₁ := first.after env s₁
    let s₂ := Episode.course env t₁ between
    let t₂ := second.after env s₂
    announcements t₁.journal = ⟨a, u₁, j₁⟩ :: announcements s₁.journal →
    announcements s₂.journal = others ++ announcements t₁.journal →
    (∀ mail ∈ others, mail.account ≠ a) →
    announcements t₂.journal = ⟨a, u₂, j₂⟩ :: announcements s₂.journal →
    Episode.all env (fun _ s => s.core.registry.contains a) t₁ between = true →
    Episode.all env (fun e s => !e.withdraws s a) t₁ between = true →
    (j₂ = u₂ - u₁ ↔ Episode.all env (fun e s => !e.deletes s) t₁ between = true) := by
  intro s₁ t₁ s₂ t₂ hmail₁ hothers hother hmail₂ htracked hkept
  have hstart : s.core.registry.Tallies fun _ => 0 := by
    rw [hcore]
    exact Registry.tallies_empty
  obtain ⟨hworld₁, b, _, hb, -⟩ := h.baseline_course hdiscreet hbefore hs hstart
  obtain ⟨hne, -, b₁, hb₁, hbase₁⟩ := hdiscreet.announced_after hb hmail₁
  obtain ⟨-, b₂, shown, hb₂, hshown, hrest⟩ :=
    h.baseline_course hdiscreet hbetween (h.world_after hworld₁ hfirst) hb₁
  have hsame : shown = others := List.append_cancel_right (hshown.symm.trans hothers)
  rw [hsame] at hrest
  have hbase₂ := hrest a hother htracked hkept
  obtain ⟨-, hnew, -⟩ := hdiscreet.announced_after hb₂ hmail₂
  dsimp only at hne hbase₁ hnew
  rw [hnew, hbase₂, hbase₁]
  cases Episode.all env (fun e s => !e.deletes s) t₁ between with
  | true => exact iff_of_true rfl rfl
  | false =>
    refine iff_of_false (fun hj => hne ?_) Bool.false_ne_true
    rw [if_neg Bool.false_ne_true] at hj
    omega

/-! ## Deleting accounts by protocol in between -/

namespace Rehearsal

/-- The two accounts, some messages of the first one being unseen. -/
def unseenOfFirst (unseen : Int) : World :=
  { twoAccountsWorld with source := .roster { twoAccounts with counts := [(1, unseen)] } }

theorem ofTwoAccounts_unseenOfFirst (unseen : Int) : OfTwoAccounts (unseenOfFirst unseen) :=
  ⟨⟨_, rfl, rfl, rfl⟩, rfl, rfl⟩

/-- Five messages are to be announced. -/
def fiveArrive : List (Episode World) :=
  [.occurs (.elapse 1000000 (unseenOfFirst 5)), .occurs (.submit (.notifyRequested 1))]

/-- A message is handled, and then eight messages are to be announced. -/
def thenEight (m : Message) : List (Episode World) :=
  [.occurs (.submit m), .occurs .next, .occurs (.elapse 1060000 (unseenOfFirst 8)),
    .occurs (.submit (.notifyRequested 1))]

/-- When the five messages were announced. -/
def fiveAnnounced : System World :=
  (Episode.occurs .next).after inMemory (Episode.course inMemory freshPoller fiveArrive)

/-- When a message was handled after that, and the eight messages were announced. -/
def eightAnnounced (m : Message) : System World :=
  (Episode.occurs .next).after inMemory (Episode.course inMemory fiveAnnounced (thenEight m))

theorem within_fiveArrive : ∀ e ∈ fiveArrive, e.Within OfTwoAccounts := by
  intro e he
  simp only [fiveArrive, List.mem_cons, List.not_mem_nil, or_false] at he
  rcases he with rfl | rfl
  · exact ofTwoAccounts_unseenOfFirst 5
  · exact trivial

theorem within_thenEight (m : Message) : ∀ e ∈ thenEight m, e.Within OfTwoAccounts := by
  intro e he
  simp only [thenEight, List.mem_cons, List.not_mem_nil, or_false] at he
  rcases he with rfl | rfl | rfl | rfl
  · exact trivial
  · exact trivial
  · exact ofTwoAccounts_unseenOfFirst 8
  · exact trivial

/-- Of the eight messages three are new if a check was requested in between. -/
theorem announced_once_after_check :
    announcements (eightAnnounced (.checkRequested (some 1) none)).journal =
        [⟨1, 8, 3⟩, ⟨1, 5, 5⟩] ∧
      Episode.all inMemory (fun e s => !e.deletes s) fiveAnnounced
        (thenEight (.checkRequested (some 1) none)) = true := by
  let between := thenEight (.checkRequested (some 1) none)
  have hfirst : announcements fiveAnnounced.journal =
      ⟨1, 5, 5⟩ :: announcements (Episode.course inMemory freshPoller fiveArrive).journal := by
    decide +kernel
  have hsilent : announcements (Episode.course inMemory fiveAnnounced between).journal =
      [] ++ announcements fiveAnnounced.journal := by decide +kernel
  have hsecond : announcements (eightAnnounced (.checkRequested (some 1) none)).journal =
      ⟨1, 8, 3⟩ :: announcements (Episode.course inMemory fiveAnnounced between).journal := by
    decide +kernel
  have hnext : (Episode.occurs .next).Within OfTwoAccounts := trivial
  have hiff := announced_once_iff_none_deleted dependable_inMemory (discreet_surroundings {} 1)
    ofTwoAccounts_twoAccountsWorld rfl within_fiveArrive hnext (within_thenEight _) hfirst hsilent
    (fun _ hmail => absurd hmail List.not_mem_nil) hsecond (by decide +kernel) (by decide +kernel)
  exact ⟨by decide +kernel, hiff.1 rfl⟩

/-- All eight are announced as new if the accounts of some protocol were deleted in between, even
though there are none. -/
theorem announced_again_after_delete :
    inMemory.Dependable OfTwoAccounts ∧ inMemory.Discreet ∧
      announcements fiveAnnounced.journal = [⟨1, 5, 5⟩] ∧
      Episode.all inMemory (fun _ s => s.core.registry.contains 1) fiveAnnounced
        (thenEight (.deleteProtocolRequested "eas")) = true ∧
      Episode.all inMemory (fun e s => !e.withdraws s 1) fiveAnnounced
        (thenEight (.deleteProtocolRequested "eas")) = true ∧
      ¬∀ u₂ j₂, announcements (eightAnnounced (.deleteProtocolRequested "eas")).journal =
        ⟨1, u₂, j₂⟩ :: announcements fiveAnnounced.journal → j₂ = u₂ - 5 := by
  have hfinal : announcements (eightAnnounced (.deleteProtocolRequested "eas")).journal =
      [⟨1, 8, 8⟩, ⟨1, 5, 5⟩] := by decide +kernel
  have hfirst : announcements fiveAnnounced.journal = [⟨1, 5, 5⟩] := by decide +kernel
  refine ⟨dependable_inMemory, discreet_surroundings {} 1, hfirst, by decide +kernel,
    by decide +kernel, fun hall => ?_⟩
  have hnew : (8 : Int) = 8 - 5 := hall 8 8 (by rw [hfinal, hfirst])
  exact absurd hnew (by decide)

end Rehearsal

end MailSchedule

import MailSchedule.Proofs.Dependable

/-!
# Collaborators that do not fail

If no call to the account store fails, no operation does that asks it, whatever else happens during
these calls.

Results:

* `Surroundings.Unfailing`: collaborators whom those who load may rely on.
* `Surroundings.Unfailing.load_ok`, `.update_ok`, `.refresh_ok`: operations that succeed.
-/

namespace MailSchedule

variable {ω α : Type}

/-- No call of those who load fails, the account store answers them, and its rows of live accounts
lack nothing that is needed. -/
structure Surroundings.Unfailing (env : Surroundings ω) : Prop where
  during : ∀ c s, c.Informing → ((env.during c).run s).1 = .ok ()
  list : Reply.Yields env.source.list (fun _ => True) Complete
  get : ∀ id, Reply.Yields (env.source.get id) (fun _ => True) fun row => Complete row.toList
  isSyncEnabled : ∀ email,
    Reply.Yields (env.source.isSyncEnabled email) (fun _ => True) fun _ => True

namespace Surroundings.Unfailing

variable {env : Surroundings ω} (h : env.Unfailing)
include h

theorem call {c : Call} (hc : c.Informing) :
    (env.call c).Yields (fun _ => True) fun _ _ => True :=
  .of_keeps (fun _ _ => trivial) fun _ _ => ⟨(), h.during c _ hc⟩

omit h in
theorem answer {reply : Reply ω α} {Q : α → Prop} (hreply : Reply.Yields reply (fun _ => True) Q) :
    (answer reply).Yields (fun _ => True) fun a _ => Q a := by
  intro s _
  obtain ⟨a, w, hr, -, ha⟩ := hreply s.world trivial
  exact ⟨a, _, run_answer_ok s hr, ha⟩

theorem rowsFor (mode : LoadMode) :
    (rowsFor env mode).Yields (fun _ => True) fun rows _ => Complete rows := by
  have hall : Act.Yields (do
      env.call .listAccounts
      MailSchedule.answer env.source.list) (fun _ => True) fun rows _ => Complete rows :=
    (h.call (c := .listAccounts) (Or.inl rfl)).bind fun _ => answer h.list
  cases mode with
  | fillIfEmpty => exact hall
  | forceReset => exact hall
  | one id =>
    exact (h.call (c := .getAccount id) (Or.inr (Or.inl rfl))).bind fun _ =>
      (answer (h.get id)).bind fun _ => .pure fun _ hrow => hrow

theorem buildReport {d : Account.Draft} (hinterval : d.interval.isSome) (hflags : d.flags.isSome) :
    (buildReport env d).Yields (fun _ => True) fun _ _ => True := by
  obtain ⟨interval, hinterval⟩ := env.policy.polling.intervalOfDraft_isOk hinterval
  obtain ⟨notify, hnotify⟩ := Account.Draft.notify_isOk hflags
  unfold MailSchedule.buildReport
  rw [hinterval, hnotify]
  refine Act.Yields.bind (R := fun _ _ => True) (.pure fun _ hs => hs) fun _ => ?_
  refine (h.call (c := .isSyncEnabled _) (Or.inr (Or.inr rfl))).bind fun _ => ?_
  refine (answer (h.isSyncEnabled _)).bind fun _ => ?_
  exact Act.Yields.bind (R := fun _ _ => True) (.pure fun _ hs => hs) fun _ => .pure fun _ hs => hs

theorem buildReports {rows : List Account.Draft} (hrows : Complete rows) (built : Registry) :
    (buildReports env built rows).Yields (fun _ => True) fun _ _ => True := by
  induction rows generalizing built with
  | nil => exact .pure fun _ hs => hs
  | cons d rest ih =>
    have ih := ih fun x hx => hrows x (List.mem_cons_of_mem d hx)
    refine .ite (fun hd => ?_) fun _ => ih built
    obtain ⟨hinterval, hflags⟩ := hrows d List.mem_cons_self hd
    exact (h.buildReport hinterval hflags).bind fun _ => ih _

theorem load_ok (mode : LoadMode) (s : System ω) : ((load env mode).run s).1 = .ok () := by
  unfold load
  rw [Act.run_bind, run_registry]
  dsimp only
  by_cases hneeded : mode.isNeeded s.core.registry = true
  · obtain ⟨rows, s₁, hr, hrows⟩ := h.rowsFor mode s trivial
    obtain ⟨s₂, -, hnote⟩ := note_if (fun _ _ _ => trivial) env.policy.polling.oneMinute
      .oneMinuteRefresh (P := fun _ => True) (s := s₁) trivial
    obtain ⟨built, s₃, hr', -⟩ := h.buildReports hrows .empty s₂ trivial
    rw [if_pos hneeded, Act.run_bind, hr]
    dsimp only
    rw [hnote, Act.run_bind, hr']
    exact congrArg Prod.fst (run_publish mode built s₃)
  · rw [if_neg hneeded]
    rfl

theorem update_ok (id : Int) (unseen : Option Int) (s : System ω) :
    ∃ report, ((update env id unseen).run s).1 = .ok report := by
  have hload := h.load_ok (.one id) s
  rw [run_update]
  rcases hr : (load env (.one id)).run s with ⟨r, s'⟩
  rw [hr] at hload
  obtain rfl : r = .ok () := hload
  exact ⟨_, rfl⟩

theorem refresh_ok (s : System ω) : ((refresh env).run s).1 = .ok () := by
  have hload := h.load_ok .forceReset
    { s with core := { s.core with keepsakes := none :: s.core.keepsakes } }
  rw [run_refresh]
  rcases hr : (load env .forceReset).run _ with ⟨r, s'⟩
  rw [hr] at hload
  obtain rfl : r = .ok () := hload
  rfl

end Surroundings.Unfailing

end MailSchedule

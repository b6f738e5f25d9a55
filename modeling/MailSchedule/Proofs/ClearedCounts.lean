import MailSchedule.Proofs.Announced
import MailSchedule.Proofs.CallsMade
import MailSchedule.Proofs.Occurrences
import MailSchedule.Proofs.Rehearsing
import MailSchedule.Proofs.Requests
import MailSchedule.Proofs.Rows
import MailSchedule.Store.Source

/-!
# Counts that are forgotten

A count of unseen messages is kept in two places, the report of its account and the row of the
account in the store, and it is shown in a third one.  Forgetting the counts of one account, or of
all, clears the three together.  The two places need not have the same accounts: what matters in
each of them is which accounts the target covers.

A request to announce an account reads the count back from the store.  So nothing is announced of
an account whose count was forgotten until somebody sets a count in the store, whatever messages
have told the poller in the meantime.

Results:

* `Store.Cleared`: a store in which covered accounts have no messages counted.
* `Store.Cleared.after`: it stays so until a count is set.
* `Surroundings.Persists`: accounts that are kept in a database.
* `reset_clears`: what forgetting counts comes to.
-/

namespace MailSchedule

variable {ω : Type}

theorem covers_eq_all (target : Option Int) (id : Int) :
    covers target id = target.all (· = id) := by
  cases target with
  | none => rfl
  | some t => simp [covers, eq_comm]

/-! ## Cleared stores -/

namespace Store

/-- A store in good order, in which the accounts that a target covers have no messages counted. -/
structure Cleared (target : Option Int) (s : Store) : Prop where
  sound : s.Sound
  zero : ∀ rows, s.saved.accounts = some rows →
    ∀ r ∈ rows, covers target r.account.id = true → r.count = 0

/-- Whether an operation sets a count other than to zero. -/
def Operation.setsCount : Operation → Bool
  | .ask (.setCount ..) => true
  | _ => false

/-- A store may become another one without anyone setting a count. -/
def Develops (s s' : Store) : Prop :=
  ∃ ops : List Operation, (∀ o ∈ ops, o.setsCount = false) ∧ s' = s.after ops

/-- What is made of an answer has no part in what becomes of the store. -/
theorem Act.snd_run_map {α β : Type} (f : α → β) (act : Act α) (s : Store) :
    ((f <$> act).run s).2 = (act.run s).2 := by
  rw [Act.run_map]
  rcases act.run s with ⟨_ | _, _⟩ <;> rfl

theorem Develops.refl (s : Store) : s.Develops s := ⟨[], by simp, rfl⟩

/-- A row that is put has the count of an earlier row with its number, or none. -/
theorem count_of_mem_putRow {a : Account} {rows : List Row} {r : Row} (h : r ∈ putRow a rows) :
    r.count = 0 ∨ ∃ old ∈ rows, old.account.id = r.account.id ∧ old.count = r.count := by
  fun_induction putRow a rows with
  | case1 =>
    obtain rfl := List.mem_singleton.mp h
    exact .inl rfl
  | case2 old rest hid =>
    rcases List.mem_cons.mp h with rfl | h
    · exact .inr ⟨old, List.mem_cons_self, hid, rfl⟩
    · exact .inr ⟨r, List.mem_cons_of_mem _ h, rfl, rfl⟩
  | case3 old rest hid hlt =>
    rcases List.mem_cons.mp h with rfl | h
    · exact .inl rfl
    · exact .inr ⟨r, h, rfl, rfl⟩
  | case4 old rest hid hlt ih =>
    rcases List.mem_cons.mp h with rfl | h
    · exact .inr ⟨r, List.mem_cons_self, rfl, rfl⟩
    · refine (ih h).imp_right ?_
      rintro ⟨old', hmem, hsame⟩
      exact ⟨old', List.mem_cons_of_mem _ hmem, hsame⟩

theorem count_of_mem_setCounts {target : Option Int} {rows : List Row} {r : Row}
    (h : r ∈ setCounts target 0 rows) :
    r.count = 0 ∨ ∃ old ∈ rows, old.account.id = r.account.id ∧ old.count = r.count := by
  rw [setCounts_eq_map] at h
  obtain ⟨old, hmem, rfl⟩ := List.mem_map.1 h
  split
  · exact .inl rfl
  · exact .inr ⟨old, hmem, rfl, rfl⟩

/-- A request that sets no count gives none to any row. -/
theorem Request.count_of_mem_rowsAfter {request : Request}
    (hrequest : (Operation.ask request).setsCount = false) {rows : List Row} {r : Row}
    (h : r ∈ request.rowsAfter rows) :
    r.count = 0 ∨ ∃ old ∈ rows, old.account.id = r.account.id ∧ old.count = r.count := by
  cases request with
  | upsert d =>
    cases hd : complete d with
    | ok a =>
      simp only [rowsAfter, hd, Except.toOption, Option.map_some, Option.getD_some] at h
      exact count_of_mem_putRow h
    | error column =>
      simp only [rowsAfter, hd, Except.toOption, Option.map_none, Option.getD_none] at h
      exact .inr ⟨r, h, rfl, rfl⟩
  | delete id => exact .inr ⟨r, (List.mem_filter.1 h).1, rfl, rfl⟩
  | setCount id n => cases hrequest
  | resetCount target => exact count_of_mem_setCounts h
  | _ => exact .inr ⟨r, h, rfl, rfl⟩

namespace Cleared

variable {target : Option Int} {s : Store} (h : s.Cleared target)
include h

/-- Until a count is set, covered accounts have none. -/
theorem ask {r : Request} (hcounts : (Operation.ask r).setsCount = false) :
    Cleared target (r.act.run s).2 := by
  have hsound : Sound (r.act.run s).2 := h.sound.step (.ask r)
  refine ⟨hsound, ?_⟩
  cases hc : s.connection with
  | none =>
    rw [r.run_notConnected hc]
    exact h.zero
  | some c =>
    have hs := h.sound.connection c hc
    cases hfate : r.fate s.locked with
    | rejected =>
      obtain ⟨-, e, c', -, -, -, hrun⟩ := Request.run_rejected hc hs hfate
      rw [hrun]
      exact h.zero
    | refused f =>
      obtain ⟨c', -, hrun⟩ := Request.run_refused hc hs hfate
      rw [hrun]
      exact h.zero
    | done =>
      obtain ⟨rows, switches, ht⟩ := hs.holding
      obtain ⟨c', -, -, -, -, hrun⟩ := Request.run_done hc hs ht hfate
      rw [hrun]
      intro rows' hrows' row hrow hcovers
      obtain rfl : r.rowsAfter rows = rows' := Option.some.inj hrows'
      rcases Request.count_of_mem_rowsAfter hcounts hrow with hzero | ⟨old, hmem, hid, hcount⟩
      · exact hzero
      · rw [← hcount]
        refine h.zero rows ?_ old hmem ?_
        · rw [ht]
          rfl
        · rw [hid]
          exact hcovers

theorem step {o : Operation} (ho : o.setsCount = false) : Cleared target (o.act.run s).2 := by
  cases o with
  | ask request => exact h.ask ho
  | close => exact ⟨h.sound.step .close, h.zero⟩
  | connect =>
    refine ⟨h.sound.step .connect, ?_⟩
    rw [show Operation.connect.act.run s = _ from h.sound.run_connect]
    intro rows hrows r hr hcovers
    cases hsaved : s.saved.accounts with
    | none =>
      have hnil : rows = [] := by simpa [Tables.createMissing, hsaved] using hrows.symm
      rw [hnil] at hr
      cases hr
    | some before =>
      have hsame : before = rows := by simpa [Tables.createMissing, hsaved] using hrows
      exact h.zero rows (hsame ▸ hsaved) r hr hcovers

theorem after {ops : List Operation} (hops : ∀ o ∈ ops, o.setsCount = false) :
    Cleared target (s.after ops) := by
  induction ops generalizing s with
  | nil => exact h
  | cons o ops ih =>
    exact ih (h.step (hops o List.mem_cons_self)) fun o' ho' => hops o' (List.mem_cons_of_mem _ ho')

theorem develops {s' : Store} (hs' : s.Develops s') : Cleared target s' := by
  obtain ⟨ops, hops, rfl⟩ := hs'
  exact h.after hops

/-- The count of a covered account is none, if it is known at all. -/
theorem count {id n : Int} (hid : covers target id = true)
    (hn : ((Store.count id).run s).1 = .ok (some n)) : n = 0 := by
  have hrun : ((Request.count id).act.run s).1 = .ok (some n) := hn
  cases hc : s.connection with
  | none =>
    rw [(Request.count id).run_notConnected hc] at hrun
    cases hrun
  | some c =>
    have hs := h.sound.connection c hc
    cases hfate : (Request.count id).fate s.locked with
    | rejected =>
      obtain ⟨-, e, c', -, -, -, hfails⟩ := Request.run_rejected hc hs hfate
      rw [hfails] at hrun
      cases hrun
    | refused f =>
      obtain ⟨c', -, hfails⟩ := Request.run_refused hc hs hfate
      rw [hfails] at hrun
      cases hrun
    | done =>
      obtain ⟨rows, switches, ht⟩ := hs.holding
      obtain ⟨c', -, -, -, -, hdone⟩ := Request.run_done hc hs ht hfate
      rw [hdone] at hrun
      have hreply : (row? rows id).map (·.count) = some n := Except.ok.inj hrun
      obtain ⟨r, hr, rfl⟩ := Option.map_eq_some_iff.1 hreply
      have hrow : r.account.id = id := by simpa using List.find?_some hr
      refine h.zero rows ?_ r (List.mem_of_find?_eq_some hr) ?_
      · rw [ht]
        rfl
      · rw [hrow]
        exact hid

end Cleared

/-- The rows after the counts of some accounts were cleared. -/
theorem setCounts_zero_eq (target : Option Int) (rows : List Row) :
    setCounts target 0 rows =
      rows.map fun r => if covers target r.account.id then { r with count := 0 } else r := by
  rw [setCounts_eq_map]
  simp only [covers_eq_all]

/-- On an open connection, and unless another connection holds the database, the counts of the
accounts that a target covers are cleared, and nothing else happens to the tables. -/
theorem run_resetCount {s : Store} (h : s.Sound) (hopen : s.connection.isSome)
    (hunlocked : s.locked = false) {target : Option Int} (hfits : ∀ id ∈ target, fits id = true) :
    ∃ rows switches, s.saved = .holding rows switches ∧
      ((resetCount target).run s).1 = .ok () ∧
      ((resetCount target).run s).2.saved = .holding (rows.map fun r =>
        if covers target r.account.id then { r with count := 0 } else r) switches ∧
      Cleared target ((resetCount target).run s).2 := by
  obtain ⟨c, hc⟩ := Option.isSome_iff_exists.mp hopen
  have hs := h.connection c hc
  obtain ⟨rows, switches, ht⟩ := hs.holding
  have hfate : (Request.resetCount target).fate s.locked = .done := by
    rw [Request.fate_eq_done]
    refine ⟨?_, fun _ => hunlocked, rfl⟩
    cases target with
    | none => rfl
    | some id =>
      have hid : fits id = true := hfits id rfl
      simp [Request.problem?, Request.parameters, firstProblem?, Parameter.problem?, hid]
  obtain ⟨c', -, -, -, -, hrun⟩ := Request.run_done hc hs ht hfate
  have hreset : (resetCount target).run s = _ := hrun
  have hsound : Sound ((resetCount target).run s).2 := h.step (.ask (.resetCount target))
  have hsaved : ((resetCount target).run s).2.saved = .holding (rows.map fun r =>
      if covers target r.account.id then { r with count := 0 } else r) switches := by
    rw [hreset]
    show Tables.holding (setCounts target 0 rows) switches = _
    rw [setCounts_zero_eq]
  refine ⟨rows, switches, ht, by rw [hreset], hsaved, hsound, ?_⟩
  intro rows' hrows' r hr hcovers
  rw [hsaved] at hrows'
  obtain rfl := Option.some.inj hrows'
  obtain ⟨old, -, rfl⟩ := List.mem_map.1 hr
  split
  · rfl
  · rename_i hnot
    rw [if_neg hnot] at hcovers
    exact absurd hcovers hnot

end Store

/-! ## Accounts in a database -/

/-- In the worlds of a set, an answer is that of the store which the world holds, and what becomes
of the store is up to the store as well. -/
def Reply.From {α : Type} (reply : Reply ω α) (I : ω → Prop) (store : ω → Store)
    (act : Reply Store α) : Prop :=
  ∀ w, I w → (reply w).1 = (act (store w)).1 ∧ store (reply w).2 = (act (store w)).2 ∧ I (reply w).2

/-- In the worlds of a set the accounts are kept in the account store.  Collaborators may use the
store, but they set no counts in it, and while a notification is withdrawn, or the persisted counts
are about to be cleared, they do not use it and do not fail.  They leave the poller alone, and
neither announce new mail nor have a notification withdrawn on their own. -/
structure Surroundings.Persists (env : Surroundings ω) (I : ω → Prop) (store : ω → Store) :
    Prop where
  list : Reply.From env.source.list I store Store.source.list
  get : ∀ id, Reply.From (env.source.get id) I store (Store.source.get id)
  isSyncEnabled : ∀ email,
    Reply.From (env.source.isSyncEnabled email) I store (Store.source.isSyncEnabled email)
  count : ∀ id, Reply.From (env.source.count id) I store (Store.source.count id)
  resetCount : ∀ target,
    Reply.From (env.source.resetCount target) I store (Store.source.resetCount target)
  idsWithProtocol : ∀ protocol,
    Reply.From (env.source.idsWithProtocol protocol) I store (Store.source.idsWithProtocol protocol)
  delete : ∀ id w, I w →
    I (env.checker.delete id w).2 ∧ (store w).Develops (store (env.checker.delete id w).2)
  during : ∀ c s, I s.world → I ((env.during c).run s).2.world ∧
    (store s.world).Develops (store ((env.during c).run s).2.world)
  withdraws : ∀ c s, c.kind = .cancelNotification ∨ c.kind = .resetNewMessageCount → I s.world →
    ((env.during c).run s).1 = .ok () ∧
      store ((env.during c).run s).2.world = store s.world
  staysOut : env.StaysOut
  tacit : env.Tacit .cancelNotification
  silent : ∀ c s, announcements ((env.during c).run s).2.journal = announcements s.journal

/-- The world is one of a set, and covered accounts have no messages counted in its store. -/
def Forgotten (I : ω → Prop) (store : ω → Store) (target : Option Int) (w : ω) : Prop :=
  I w ∧ (store w).Cleared target

namespace Surroundings.Persists

variable {env : Surroundings ω} {I : ω → Prop} {store : ω → Store} (h : env.Persists I store)
include h

theorem discreet : env.Discreet where
  core c s := (h.staysOut c s).core
  silent := h.silent

omit h in
/-- What the store is asked for keeps the counts of covered accounts cleared, if it does so to the
store. -/
theorem forgotten_answer {α : Type} {reply : Reply ω α} {act : Reply Store α}
    {target : Option Int} (hreply : Reply.From reply I store act)
    (hact : ∀ s, s.Cleared target → Store.Cleared target (act s).2) :
    (answer reply).Keeps fun s => Forgotten I store target s.world :=
  .answer reply (fun _ _ hs => hs) fun s hs => by
    obtain ⟨-, hstore, hI⟩ := hreply s.world hs.1
    refine ⟨hI, ?_⟩
    rw [hstore]
    exact hact _ hs.2

/-- Counts that were forgotten stay so, whatever the poller is used for. -/
theorem upholds_forgotten (target : Option Int) :
    env.Upholds fun s => Forgotten I store target s.world where
  record _ _ hs := hs
  during c s hs := by
    obtain ⟨hI, hstore⟩ := h.during c s hs.1
    exact ⟨hI, hs.2.develops hstore⟩
  list := forgotten_answer h.list fun s hs => by
    show Store.Cleared target (((·.map Account.draft) <$> Store.list).run s).2
    rw [Store.Act.snd_run_map]
    exact hs.ask (r := .list) rfl
  get id := forgotten_answer (h.get id) fun s hs => by
    show Store.Cleared target (((·.map Account.draft) <$> Store.get id).run s).2
    rw [Store.Act.snd_run_map]
    exact hs.ask (r := .get id) rfl
  isSyncEnabled email := forgotten_answer (h.isSyncEnabled email) fun _ hs =>
    hs.ask (r := .isSyncEnabled email) rfl
  count id := forgotten_answer (h.count id) fun _ hs => hs.ask (r := .count id) rfl
  resetCount other := forgotten_answer (h.resetCount other) fun _ hs =>
    hs.ask (r := .resetCount other) rfl
  idsWithProtocol protocol := forgotten_answer (h.idsWithProtocol protocol) fun _ hs =>
    hs.ask (r := .idsWithProtocol protocol) rfl
  delete id := .answer _ (fun _ _ hs => hs) fun s hs => by
    obtain ⟨hI, hstore⟩ := h.delete id s.world hs.1
    exact ⟨hI, hs.2.develops hstore⟩
  aside _ _ hs _ := hs
  timer _ _ hs := hs
  published _ _ _ hs _ := hs
  carried _ _ _ hs _ := hs
  restored _ _ hs := hs
  checked _ _ _ hs := hs
  announced _ _ hs := hs
  countsCleared _ _ hs := hs
  cleared _ hs := hs

/-- They stay so in a course of events in which nobody sets a count from outside. -/
theorem forgotten_course {target : Option Int} {os : List (Occurrence ω)}
    (hos : ∀ o ∈ os, o.Within (Forgotten I store target)) {s : System ω}
    (hs : Forgotten I store target s.world) :
    Forgotten I store target (Occurrence.course env s os).world := by
  induction os generalizing s with
  | nil => exact hs
  | cons o os ih =>
    refine ih (fun o' ho' => hos o' (List.mem_cons_of_mem _ ho')) ?_
    have hupholds := h.upholds_forgotten target
    cases o with
    | submit m => exact hupholds.submit m s hs
    | wake payload => exact hupholds.wake payload s hs
    | resetCounts other => exact hupholds.resetCounts other s hs
    | next => exact hupholds.drain 1 s hs
    | elapse clock world => exact hos _ List.mem_cons_self

/-! ### Requests to announce -/

omit h in
/-- There is nothing to announce of an account that has just been recorded with no messages. -/
theorem newMail?_checkedNow (id : Int) (s : System ω) :
    (s.checkedNow id (some 0)).core.registry.newMail? id = none := by
  unfold Registry.newMail?
  rw [System.find?_checkedNow]
  cases s.core.registry.find? id with
  | none => rfl
  | some report =>
    have hunseen : (report.checked s.clock (some 0)).unseen = 0 := rfl
    simp [hunseen]

/-- Recording that no messages are unseen, and announcing what there is, announces nothing. -/
theorem record_none_keeps (id : Int) (l : List NewMail) {rest : Act ω Unit}
    (hrest : rest.Keeps fun s => announcements s.journal = l) :
    Act.Keeps (do
        if (← update env id (some 0)).isSome then
          let _ ← announce env id
          rest
        else rest)
      fun s => announcements s.journal = l := by
  have hspares := h.discreet.spares fun _ l' => l' = l
  have hoverlooks : env.Overlooks fun s => announcements s.journal = l :=
    { hspares.abides with tracked := fun _ _ _ hs => hs }
  intro s hs
  have hupdated := hoverlooks.update id (some 0) s hs
  rw [Act.run_bind]
  have hrun := run_update env id (some 0) s
  rcases hload : (load env (.one id)).run s with ⟨_ | _, s'⟩
  · rw [hload] at hrun
    rw [hrun] at hupdated ⊢
    exact hupdated
  · rw [hload] at hrun
    rw [hrun] at hupdated ⊢
    dsimp only at hupdated ⊢
    split
    · unfold announce
      simp only [Act.run_bind, run_registry, newMail?_checkedNow, Act.run_pure]
      exact hrest _ hupdated
    · exact hrest _ hupdated

/-- A request to announce an account of which no messages are counted in the store announces
nothing, whatever the poller knows about it. -/
theorem handle_notify_silent {target : Option Int} {id : Int} (hid : covers target id = true)
    {s : System ω} (hs : Forgotten I store target s.world) :
    announcements ((handle env (.notifyRequested id)).run s).2.journal = announcements s.journal := by
  have hspares := h.discreet.spares fun _ l => l = announcements s.journal
  have hoverlooks : env.Overlooks fun s' => announcements s'.journal = announcements s.journal :=
    { hspares.abides with tracked := fun _ _ _ hs => hs }
  have hrearm : (rearm env).Keeps fun s' => announcements s'.journal = announcements s.journal :=
    hspares.abides.rearm (fun _ _ => h.discreet.call (fun _ l => l = _) nofun) (fun _ _ hs => hs)
      (hoverlooks.load .fillIfEmpty)
  have hrest : Act.Keeps (do let _ ← rearm env)
      fun s' => announcements s'.journal = announcements s.journal := hrearm.bind fun _ => .pure _
  show announcements ((handleNotify env id).run s).2.journal = _
  unfold handleNotify
  have hcalled := h.discreet.call (fun _ l => l = announcements s.journal)
    (c := .newMessageCount id) nofun s rfl
  have hforgotten := (h.upholds_forgotten target).toRespects.call (.newMessageCount id) s hs
  rw [Act.run_bind]
  rcases hcall : (env.call (.newMessageCount id)).run s with ⟨_ | _, s₁⟩
  · rw [hcall] at hcalled
    exact hcalled
  rw [hcall] at hcalled hforgotten
  have hanswered := hspares.count id s₁ hcalled
  have hanswer := run_answer_fst s₁ (env.source.count id)
  dsimp only
  rw [Act.run_bind]
  rcases hr : (answer (env.source.count id)).run s₁ with ⟨_ | count, s₂⟩
  · rw [hr] at hanswered
    exact hanswered
  rw [hr] at hanswered hanswer
  cases count with
  | none => exact hrest s₂ hanswered
  | some n =>
    -- The count that is announced is the one that the store has, so there is none.
    have hzero : n = 0 := by
      rw [(h.count id s₁.world hforgotten.1).1] at hanswer
      refine hforgotten.2.count hid ?_
      rcases hcount : (Store.count id).run (store s₁.world) with ⟨_ | found, w⟩
      · simp [Store.source, Store.Act.reply, hcount, Except.mapError] at hanswer
      · simpa [Store.source, Store.Act.reply, hcount, Except.mapError] using hanswer.symm
    subst hzero
    exact h.record_none_keeps id _ hrest s₂ hanswered

/-- So it is handled in silence. -/
theorem process_notify_silent {target : Option Int} {id : Int} (hid : covers target id = true)
    {s : System ω} (hs : Forgotten I store target s.world) :
    announcements ((process env (.notifyRequested id)).run s).2.journal =
      announcements s.journal := by
  have hbegun : Forgotten I store target (s.begun env (.notifyRequested id)).world :=
    (h.upholds_forgotten target).toRespects.spares.reconcile s hs
  have hsilent := h.discreet.begun (R := fun _ l => l = announcements s.journal) rfl
    (.notifyRequested id)
  exact Surroundings.Discreet.process (R := fun _ l => l = announcements s.journal)
    ((h.handle_notify_silent hid hbegun).trans hsilent)

/-! ### Forgetting counts -/

theorem run_withdrawing {c : Call}
    (hc : c.kind = .cancelNotification ∨ c.kind = .resetNewMessageCount) {s : System ω}
    (hs : I s.world) : ∃ s', (env.call c).run s = (.ok (), s') ∧ I s'.world ∧
      store s'.world = store s.world ∧ Untouched s s' := by
  obtain ⟨hok, hstore⟩ := h.withdraws c { s with journal := .called c :: s.journal } hc hs
  refine ⟨((env.call c).run s).2, Prod.ext hok rfl, ?_, hstore, h.staysOut.call c s⟩
  exact (h.during c { s with journal := .called c :: s.journal } hs).1

/-- The counts are cleared in the reports and in the store, and a notification is withdrawn in
between. -/
theorem run_resetCounts {target : Option Int} (hfits : ∀ id ∈ target, Store.fits id = true)
    {s : System ω} (hs : I s.world) (hsound : (store s.world).Sound)
    (hopen : (store s.world).connection.isSome) (hunlocked : (store s.world).locked = false) :
    ∃ rows switches s', (store s.world).saved = .holding rows switches ∧
      (resetCounts env target).run s = (.ok (), s') ∧
      Untouched { s with core := { s.core with
        registry := s.core.registry.clearCounts target } } s' ∧
      (store s'.world).saved = .holding (rows.map fun r =>
        if covers target r.account.id then { r with count := 0 } else r) switches ∧
      callsOf .cancelNotification s'.journal =
        .cancelNotification target :: callsOf .cancelNotification s.journal ∧
      Forgotten I store target s'.world := by
  obtain ⟨rows, switches, hrows, hok, hsaved, hcleared⟩ :=
    Store.run_resetCount hsound hopen hunlocked hfits
  obtain ⟨s₁, hwithdraw, hworld₁, hstore₁, huntouched₁⟩ :=
    h.run_withdrawing (c := .cancelNotification target) (.inl rfl)
      (s := { s with core := { s.core with registry := s.core.registry.clearCounts target } }) hs
  obtain ⟨s₂, hask, hworld₂, hstore₂, huntouched₂⟩ :=
    h.run_withdrawing (c := .resetNewMessageCount target) (.inr rfl) hworld₁
  obtain ⟨hresult, hstore₃, hworld₃⟩ := h.resetCount target s₂.world hworld₂
  have hsame : store s₂.world = store s.world := hstore₂.trans hstore₁
  rw [hsame] at hresult hstore₃
  have hreply : env.source.resetCount target s₂.world =
      (.ok (), (env.source.resetCount target s₂.world).2) := by
    refine Prod.ext (hresult.trans ?_) rfl
    show ((Store.resetCount target).run (store s.world)).1.mapError _ = _
    rw [hok]
    rfl
  have hcalls₁ := h.tacit.called (c := .cancelNotification target) rfl
    { s with core := { s.core with registry := s.core.registry.clearCounts target } }
  rw [hwithdraw] at hcalls₁
  have hcalls₂ := h.tacit.call_keeps _ (c := .resetNewMessageCount target) nofun s₁ rfl
  rw [hask] at hcalls₂
  refine ⟨rows, switches, { s₂ with world := (env.source.resetCount target s₂.world).2 }, hrows, ?_,
    ?_, ?_, hcalls₂.trans hcalls₁, hworld₃, ?_⟩
  · unfold resetCounts
    rw [Act.run_bind, run_modifyRegistry]
    dsimp only
    rw [Act.run_bind, hwithdraw]
    dsimp only
    rw [Act.run_bind, hask]
    exact run_answer_ok s₂ hreply
  · exact ⟨(huntouched₁.trans huntouched₂).core, (huntouched₁.trans huntouched₂).timer⟩
  · dsimp only
    rw [hstore₃]
    exact hsaved
  · dsimp only
    rw [hstore₃]
    exact hcleared

end Surroundings.Persists

/-- Forgetting counts does not fail on an open connection to a database that nobody else holds, if
the number of the account, where one is given, fits into the database.

Every report of an account that the target covers has both counts zero afterwards, every row of such
an account has its count zero, and one notification has been withdrawn, for this very target.  All
other reports and rows are as they were, and so is whatever else is in the covered ones: schedules,
intervals, settings.  The poller keeps what else it remembers, and its wake timer.

Whenever a request to announce a covered account is handled in a course of events later on, nothing
is announced, unless a count has been set in the store from outside. -/
theorem reset_clears {env : Surroundings ω} {I : ω → Prop} {store : ω → Store}
    (h : env.Persists I store) {target : Option Int} (hfits : ∀ id ∈ target, Store.fits id = true)
    {s : System ω} (hs : I s.world) (hsound : (store s.world).Sound)
    (hopen : (store s.world).connection.isSome) (hunlocked : (store s.world).locked = false) :
    ∃ rows switches s', (store s.world).saved = .holding rows switches ∧
      (resetCounts env target).run s = (.ok (), s') ∧
      s'.core.registry.entries = s.core.registry.entries.map (fun e => (e.1,
        if covers target e.2.account then { e.2 with unseen := 0, lastUnseen := 0 } else e.2)) ∧
      (∃ ms, s'.core = { s.core with
        registry := s'.core.registry, queue := s.core.queue ++ ms }) ∧
      s'.timer = s.timer ∧
      (store s'.world).saved = .holding (rows.map fun r =>
        if covers target r.account.id then { r with count := 0 } else r) switches ∧
      callsOf .cancelNotification s'.journal =
        .cancelNotification target :: callsOf .cancelNotification s.journal ∧
      ∀ os, (∀ o ∈ os, o.Within (Forgotten I store target)) → ∀ (o : Occurrence ω) (id : Int),
        covers target id = true →
        o.message? (Occurrence.course env s' os) = some (.notifyRequested id) →
        announcements (o.after env (Occurrence.course env s' os)).journal =
          announcements (Occurrence.course env s' os).journal := by
  obtain ⟨rows, switches, s', hrows, hrun, huntouched, hsaved, hcalls, hforgotten⟩ :=
    h.run_resetCounts hfits hs hsound hopen hunlocked
  obtain ⟨ms, hcore⟩ := huntouched.core
  refine ⟨rows, switches, s', hrows, hrun, ?_, ⟨ms, ?_⟩, huntouched.timer, hsaved, hcalls, ?_⟩
  · rw [huntouched.registry]
    rfl
  · rw [hcore]
  · intro os hos o id hid hmessage
    have hlater := h.forgotten_course hos hforgotten
    generalize Occurrence.course env s' os = moment at hlater hmessage
    cases o with
    | next =>
      obtain ⟨rest, hqueue⟩ := List.head?_eq_some_iff.1 hmessage
      rw [after_next_cons env hqueue]
      exact h.process_notify_silent hid hlater
    | _ => cases hmessage

namespace Rehearsal

/-- The store of the world. -/
def World.store (w : World) : Store :=
  match w.source with
  | .roster _ => {}
  | .store s => s

/-- The accounts are kept in a store, and no call fails. -/
structure Stored (w : World) : Prop where
  failures : w.failures = []
  store : ∃ s, w.source = .store s

/-- What the source of the world answers is what its store answers. -/
theorem Stored.from_ofSource {α : Type} (ofRoster : Roster → α × Roster) (ofStore : Store.Act α) :
    Reply.From (ofSource ofRoster ofStore) Stored World.store ofStore.reply := by
  intro w hw
  obtain ⟨s, hs⟩ := hw.store
  unfold ofSource World.store
  rw [hs]
  exact ⟨rfl, rfl, hw.failures, _, rfl⟩

theorem Stored.delete {w : World} (h : Stored w) (id : Int) :
    Stored (worldChecker.delete id w).2 ∧
      w.store.Develops (worldChecker.delete id w).2.store := by
  by_cases hremoves : w.deleteRemoves = true
  · obtain ⟨-, hstore, hstored⟩ := Stored.from_ofSource
      (fun r => ((r.find? id).isSome, r.remove id)) (Store.delete id) w h
    have hdelete : (worldChecker.delete id w).2 = (removeAccount id w).2 := by
      unfold worldChecker
      simp only [hremoves, if_true]
    rw [hdelete]
    exact ⟨hstored, [.ask (.delete id)], by simp [Store.Operation.setsCount], hstore⟩
  · have hkept : (worldChecker.delete id w).2 = w := by
      unfold worldChecker
      simp only [hremoves, Bool.false_eq_true, if_false]
    rw [hkept]
    exact ⟨h, .refl _⟩

theorem persists_inMemory : inMemory.Persists Stored World.store where
  list := Stored.from_ofSource _ _
  get _ := Stored.from_ofSource _ _
  isSyncEnabled _ := Stored.from_ofSource _ _
  count _ := Stored.from_ofSource _ _
  resetCount _ := Stored.from_ofSource _ _
  idsWithProtocol _ := Stored.from_ofSource _ _
  delete id _ hw := hw.delete id
  during c s hs := by
    show Stored (((surroundings {} 1 0).during c).run s).2.world ∧
      s.world.store.Develops (((surroundings {} 1 0).during c).run s).2.world.store
    rw [run_during]
    exact ⟨hs, .refl _⟩
  withdraws c s _ hs := by
    show (((surroundings {} 1 0).during c).run s).1 = .ok () ∧
      (((surroundings {} 1 0).during c).run s).2.world.store = s.world.store
    rw [run_during, hs.failures]
    exact ⟨rfl, rfl⟩
  staysOut := staysOut_surroundings {} 1
  tacit c s := by
    show callsOf _ (((surroundings {} 1 0).during c).run s).2.journal = _
    rw [run_during]
  silent c s := by
    show announcements (((surroundings {} 1 0).during c).run s).2.journal = _
    rw [run_during]

/-- A store with three accounts, each with messages counted. -/
def countedStore : Store := Store.after {} [
  .connect,
  .ask (.upsert ⟨1, some "a@example.org", some 1, some 2, some 15, some 1, some "imap"⟩),
  .ask (.upsert ⟨2, some "b@example.org", some 3, some 4, some 60, some 1, some "imap"⟩),
  .ask (.upsert ⟨3, some "c@example.org", some 5, some 6, some 60, some 1, some "pop3"⟩),
  .ask (.setCount 1 4), .ask (.setCount 2 3), .ask (.setCount 3 7)]

/-- A poller that tracks two of them, and one that is not in the store. -/
def countingPoller : System World where
  core := { registry := ⟨[
    (1, { account := 1, interval := 15, prevSync := 500000, nextSync := 1400000, enabled := true,
          notify := true, unseen := 6, lastUnseen := 2 }),
    (2, { account := 2, interval := 60, enabled := true, notify := true,
          unseen := 3, lastUnseen := 3 }),
    (9, { account := 9, interval := -1, notify := true, unseen := 1 })]⟩ }
  clock := 1000000
  world := { source := .store countedStore }

/-- The counts of the first account are forgotten in both places, those of the others in neither,
and a request to announce it is handled in silence. -/
theorem reset_clears_countingPoller : Stored countingPoller.world ∧
    countingPoller.world.store.Sound ∧ (∀ id ∈ some (1 : Int), Store.fits id = true) ∧
    ∃ s' : System World, (resetCounts inMemory (some 1)).run countingPoller = (.ok (), s') ∧
      s'.core.registry.reports.map (fun r => (r.account, r.unseen, r.lastUnseen)) =
        [(1, 0, 0), (2, 3, 3), (9, 1, 0)] ∧
      (s'.world.store.saved.accounts.getD []).map (fun r => (r.account.id, r.count)) =
        [(1, 0), (2, 3), (3, 7)] ∧
      callsOf .cancelNotification s'.journal = [.cancelNotification (some 1)] ∧
      announcements (Occurrence.course inMemory s' [.submit (.notifyRequested 1), .next]).journal =
        [] := by
  have hworld : Stored countingPoller.world := ⟨rfl, countedStore, rfl⟩
  have hsound : countingPoller.world.store.Sound := by
    unfold World.store countingPoller
    exact Store.sound_fresh.after _
  have hfits : ∀ id ∈ some (1 : Int), Store.fits id = true := by decide +kernel
  have hopen : countingPoller.world.store.connection.isSome = true := by decide +kernel
  have hunlocked : countingPoller.world.store.locked = false := by decide +kernel
  refine ⟨hworld, hsound, hfits, ?_⟩
  obtain ⟨-, -, s', -, hr, -, -, -, -, hcalls, hsilent⟩ :=
    reset_clears persists_inMemory hfits hworld hsound hopen hunlocked
  have hstate : ((resetCounts inMemory (some 1)).run countingPoller).2 = s' := by rw [hr]
  refine ⟨s', hr, ?_, ?_, hcalls, ?_⟩
  · rw [← hstate]
    decide +kernel
  · rw [← hstate]
    decide +kernel
  · have hquiet := hsilent [.submit (.notifyRequested 1)] (by simp [Occurrence.Within]) .next 1
      (by decide) (by rw [← hstate]; decide +kernel)
    refine hquiet.trans ?_
    rw [← hstate]
    decide +kernel

end Rehearsal

end MailSchedule

import MailSchedule.Proofs.Announced
import MailSchedule.Proofs.Rebuilding

/-!
# The ends of two checks commute

When the checks of two accounts end, it is left to chance which end the poller hears of first.  It
makes no difference.  The end of a check changes the report of its own account, and it announces
what is new there, which depends on that report and on what was announced of the account before.
The wake timer is set twice.  What it is set to first depends on the order, because one of the two
accounts has not been recorded then; but what it is set to last depends on the registry alone.

Results:

* `Standing`: where a poller stands, apart from the messages that wait.
* `Standing.ended`: where a poller stands after a check has ended.
* `Surroundings.Prompt.process_complete`: handling the end of a check leads there.
* `Standing.registry_ended_comm` and the like: the ends of two checks, in either order.
* `completions_commute`: what this means for a poller that handles both ends.
-/

namespace MailSchedule

variable {ω : Type}

/-! ## Reports and registries -/

/-- What there is to announce about an account depends on its report alone. -/
theorem Registry.newMail?_congr {r r' : Registry} {id : Int} (h : r.find? id = r'.find? id) :
    r.newMail? id = r'.newMail? id := by
  unfold newMail?
  rw [h]

/-- A report at the end of a check, whose new mail may have been announced. -/
def Report.ended (time : Int) (counted : Option Int) (shown : Bool) (r : Report) : Report :=
  let r := r.checked time counted
  if shown then { r with lastUnseen := r.unseen } else r

/-- A report that was recorded and then announced, if there was anything to announce. -/
theorem Registry.modify_ended (r : Registry) (id time : Int) (counted : Option Int)
    (shown : Bool) :
    (if shown then (r.modify id (·.checked time counted)).modify id fun report =>
        { report with lastUnseen := report.unseen }
      else r.modify id (·.checked time counted)) = r.modify id (·.ended time counted shown) := by
  cases shown with
  | true =>
    rw [if_pos rfl, modify_modify]
    rfl
  | false => rfl

namespace Report

variable (time : Int) (counted : Option Int) (shown : Bool) (r : Report)

theorem ended_account : (r.ended time counted shown).account = r.account := by
  cases shown <;> exact r.scheduleFrom_account time

theorem ended_interval : (r.ended time counted shown).interval = r.interval := by
  cases shown <;> exact r.scheduleFrom_interval time

theorem ended_prevSync : (r.ended time counted shown).prevSync = time := by
  cases shown <;> exact r.checked_prevSync time counted

end Report

/-- If the wake can be written once a check of an account that is tracked has ended, it can be
written when another check has ended at the same time. -/
theorem Registry.Writable.modify_ended {r : Registry} {a b time : Int} {counted counted' : Option Int}
    {shown shown' : Bool} (ha : a ∈ r.ids)
    (h : (r.modify a (·.ended time counted shown)).Writable) :
    ((r.modify a (·.ended time counted shown)).modify b (·.ended time counted' shown')).Writable := by
  refine h.modify b (Report.ended_account _ _ _) (Report.ended_interval _ _ _) fun hread report => ?_
  obtain ⟨old, hold⟩ := Option.isSome_iff_exists.1 ((mem_ids_iff r a).1 ha)
  have hfind : (r.modify a (·.ended time counted shown)).find? a =
      some (old.ended time counted shown) := by
    rw [find?_modify, if_pos rfl, hold]
    rfl
  have htime := (hread _ (List.mem_map_of_mem (List.mem_map_of_mem (mem_of_find? hfind)))).2
  rw [Report.ended_prevSync]
  rwa [Report.ended_prevSync] at htime

/-! ## Where a poller stands -/

/-- What can be told of a poller apart from the messages that wait: what it tracks, which checks
have ended and which counts were announced while they were under way, its wake timer, the time, and
the announcements made, the latest first. -/
structure Standing where
  registry : Registry
  completed : List Int
  announced : List (Int × Int)
  timer : Option Wake
  clock : Int
  mails : List NewMail

/-- Where the poller of a system stands. -/
def System.standing (s : System ω) : Standing where
  registry := s.core.registry
  completed := s.core.completed
  announced := s.core.announced
  timer := s.timer
  clock := s.clock
  mails := announcements s.journal

/-- The count that is recorded at the end of a check.  One of a check that has failed is not. -/
def countAtEnd (count : Option Int) (error : Option Fault) : Option Int :=
  if error.isSome then none else count

namespace Standing

/-- What the end of a check announces once it is recorded: what is new of the account, if its count
is positive and is not the one that was announced while the check was under way. -/
def mailAtEnd (p : Standing) (id : Int) (counted : Option Int) : Option NewMail :=
  if counted.any fun n => 0 < n && p.announced.lookup id != some n then
    (p.registry.modify id (·.checked p.clock counted)).newMail? id
  else none

/-- Two pollers stand alike, but for the order in which checks have ended, and that in which
different accounts were announced. -/
structure Agrees (p q : Standing) : Prop where
  registry : p.registry = q.registry
  completed : ∀ x, x ∈ p.completed ↔ x ∈ q.completed
  announced : p.announced = q.announced
  timer : p.timer = q.timer
  mails : ∀ x, p.mails.filter (·.account = x) = q.mails.filter (·.account = x)

/-- Where a poller stands after an account was recorded as checked and announced, if there was
anything to announce, and the wake timer was set, if the wake can be written. -/
def recorded (p : Standing) (id : Int) (counted : Option Int) (mail : Option NewMail) : Standing :=
  let registry := p.registry.modify id (·.ended p.clock counted mail.isSome)
  { p with
    registry
    timer := registry.timerAt p.clock p.timer
    mails := mail.toList ++ p.mails }

/-- Where a poller stands after the check of an account has ended. -/
def ended (p : Standing) (id : Int) (counted : Option Int) : Standing :=
  let marked : Standing := { p with
    completed := p.completed.insert id
    announced := p.announced.filter (·.1 ≠ id) }
  marked.recorded id counted (p.mailAtEnd id counted)

end Standing

/-! ## Collaborators that answer at once -/

/-- In the worlds of a set no call fails or takes time, and nothing that happens during one leads
out of the set, concerns the poller, but for messages put into its queue, or announces anything. -/
structure Surroundings.Prompt (env : Surroundings ω) (I : ω → Prop) : Prop where
  staysOut : env.StaysOut
  silent : ∀ c s, announcements ((env.during c).run s).2.journal = announcements s.journal
  time : ∀ t, env.KeepsTime (· = t)
  during : ∀ c s, I s.world → I ((env.during c).run s).2.world
  succeeds : ∀ c s, I s.world → ((env.during c).run s).1 = .ok ()

/-- The world is one of a set, and the poller stands where it is said to. -/
def Stands (I : ω → Prop) (p : Standing) (s : System ω) : Prop := I s.world ∧ s.standing = p

/-- An entry that is no announcement changes nothing. -/
theorem Stands.record {I : ω → Prop} {p : Standing} {e : Event}
    (he : ∀ c, e = .called c → c.kind ≠ .showNotification) :
    Act.Yields (record e) (Stands I p) fun _ => Stands I p := by
  rintro s ⟨hworld, rfl⟩
  refine ⟨(), _, run_record s e, hworld, ?_⟩
  unfold System.standing
  rw [announcements_cons he]

namespace Surroundings.Prompt

variable {env : Surroundings ω} {I : ω → Prop} (h : env.Prompt I) {p : Standing}
include h

/-- A call adds itself to what was announced, if it is an announcement, and changes nothing else. -/
theorem run_call (c : Call) {s : System ω} (hs : I s.world) :
    ∃ s', (env.call c).run s = (.ok (), s') ∧ I s'.world ∧
      s'.standing = { s.standing with mails := announcements (.called c :: s.journal) } := by
  let made : System ω := { s with journal := .called c :: s.journal }
  obtain ⟨⟨ms, hcore⟩, htimer⟩ := h.staysOut c made
  have hclock : ((env.during c).run made).2.clock = made.clock := h.time made.clock c made rfl
  refine ⟨((env.during c).run made).2, Prod.ext (h.succeeds c made hs) rfl, h.during c made hs, ?_⟩
  unfold System.standing
  rw [hcore, htimer, hclock, h.silent c made]

theorem call {c : Call} (hc : c.kind ≠ .showNotification) :
    (env.call c).Yields (Stands I p) fun _ => Stands I p := by
  rintro s ⟨hworld, rfl⟩
  obtain ⟨s', hr, hworld', hstanding⟩ := h.run_call c hworld
  refine ⟨(), s', hr, hworld', hstanding.trans ?_⟩
  rw [announcements_cons (by rintro _ ⟨rfl⟩; exact hc)]
  rfl

/-- The wake timer is set as it is to be. -/
theorem point (w : Option Wake) :
    (point env w).Yields (Stands I p) fun _ => Stands I { p with timer := w } := by
  have hset : (setTimer w : Act ω Unit).Yields (Stands I p) fun _ =>
      Stands I { p with timer := w } := by
    rintro s ⟨hworld, rfl⟩
    exact ⟨(), _, rfl, hworld, rfl⟩
  cases w with
  | none => exact (h.call (c := .cancelTimer) nofun).bind fun _ => hset
  | some w => exact (h.call (c := .arm w.time w.payload) nofun).bind fun _ => hset

/-- Where something is tracked, rearming sets the wake timer for it, if the wake can be written. -/
theorem rearm (hids : p.registry.ids ≠ []) : Act.Leads (do let _ ← MailSchedule.rearm env)
    (Stands I p) (Stands I { p with timer := p.registry.timerAt p.clock p.timer }) := by
  refine Act.Leads.bind ?_ (fun _ hs => hs) fun _ _ hs => hs
  rintro s ⟨hworld, rfl⟩
  obtain ⟨_, s', hr, hs'⟩ := h.point (s.core.registry.wakeAt s.clock) s ⟨hworld, rfl⟩
  rw [run_rearm env hids]
  show Stands I { s.standing with timer := s.core.registry.timerAt s.clock s.timer } _
  by_cases hwritable : s.core.registry.Writable
  · rw [hwritable.timerAt, if_pos hwritable, Act.run_bind, hr]
    exact hs'
  · rw [Registry.timerAt_of_not_writable hwritable, if_neg hwritable]
    exact ⟨hworld, rfl⟩

omit h in
/-- A check of an account that is tracked is recorded in its report. -/
theorem update {id : Int} (hid : id ∈ p.registry.ids) (unseen : Option Int) :
    (update env id unseen).Yields (Stands I p) fun _ =>
      Stands I { p with registry := p.registry.modify id (·.checked p.clock unseen) } := by
  rintro s ⟨hworld, rfl⟩
  obtain ⟨report, hr⟩ := run_update_of_mem env unseen hid
  exact ⟨report, _, hr, hworld, rfl⟩

/-- What there is to announce is announced, and that is remembered. -/
theorem announce (id : Int) : (announce env id).Yields (Stands I p) fun _ =>
    Stands I { p with
      registry :=
        if (p.registry.newMail? id).isSome then
          p.registry.modify id fun r => { r with lastUnseen := r.unseen }
        else p.registry
      mails := (p.registry.newMail? id).toList ++ p.mails } := by
  rintro s ⟨hworld, rfl⟩
  unfold MailSchedule.announce
  rw [Act.run_bind, run_registry]
  dsimp only
  cases hmail : s.core.registry.newMail? id with
  | none =>
    refine ⟨none, s, rfl, hworld, ?_⟩
    simp [System.standing, hmail]
  | some mail =>
    dsimp only
    let noted : System ω := { s with core := { s.core with
      registry := s.core.registry.modify id fun r => { r with lastUnseen := r.unseen } } }
    obtain ⟨s', hr, hworld', hstanding⟩ :=
      h.run_call (.showNotification mail.account mail.unseen mail.justFetched) (s := noted) hworld
    refine ⟨some mail, s', ?_, hworld', hstanding.trans ?_⟩
    · rw [Act.run_bind, run_modifyRegistry]
      dsimp only
      rw [Act.run_bind, hr]
      rfl
    · simp [System.standing, hmail, announcements, noted]

/-- The end of a check is recorded and announced under a condition, and the wake timer is set. -/
theorem recordEnd {id : Int} (hid : id ∈ p.registry.ids) (counted : Option Int) (news : Bool) :
    Act.Leads (do
      let _ ← MailSchedule.update env id counted
      if news then do
        let _ ← MailSchedule.announce env id
        let _ ← MailSchedule.rearm env
      else do let _ ← MailSchedule.rearm env) (Stands I p)
        (Stands I (p.recorded id counted (if news then
          (p.registry.modify id (·.checked p.clock counted)).newMail? id else none))) := by
  have hnonempty : ∀ f, (p.registry.modify id f).ids ≠ [] := by
    intro f hnil
    rw [Registry.ids_modify] at hnil
    rw [hnil] at hid
    cases hid
  refine (update hid counted).bind_leads fun _ => ?_
  cases news with
  | false => exact h.rearm (hnonempty _)
  | true =>
    have hannounced := h.announce
      (p := { p with registry := p.registry.modify id (·.checked p.clock counted) }) id
    dsimp only at hannounced
    rw [Registry.modify_ended] at hannounced
    exact hannounced.bind_leads fun _ => h.rearm (hnonempty _)

/-- Handling the end of a check of an account that is tracked leads where it is said to. -/
theorem handleComplete {id : Int} (hid : id ∈ p.registry.ids) (count : Option Int)
    (error : Option Fault) : (handleComplete env id count error).Leads (Stands I p)
      (Stands I (p.ended id (countAtEnd count error))) := by
  rintro s ⟨hworld, rfl⟩
  let marked : System ω := { s with core := s.core.endCheck id }
  have hmarked : Stands I marked.standing marked := ⟨hworld, rfl⟩
  have hmem : id ∈ marked.standing.registry.ids := hid
  have hids : marked.core.registry.ids ≠ [] := List.ne_nil_of_mem hid
  -- Something is tracked, so nothing is loaded.
  have hfilled : ∀ act : Act ω Unit, Act.run (do load env .fillIfEmpty; act) marked =
      act.run marked := by
    intro act
    rw [Act.run_bind, load_fillIfEmpty_of_ids env hids]
  cases error with
  | some e =>
    have hstart : (MailSchedule.handleComplete env id count (some e)).run s = Act.run (do
        load env .fillIfEmpty
        note (.checkFailed id e)
        let _ ← MailSchedule.update env id none
        let _ ← MailSchedule.rearm env) marked := rfl
    have hnote : (note (.checkFailed id e)).Yields (Stands I marked.standing) fun _ =>
        Stands I marked.standing := Stands.record nofun
    rw [hstart, hfilled]
    exact (hnote.bind_leads fun _ => h.recordEnd hmem none false) marked hmarked
  | none =>
    cases count with
    | none =>
      have hstart : (MailSchedule.handleComplete env id none none).run s = Act.run (do
          load env .fillIfEmpty
          let _ ← MailSchedule.update env id none
          let _ ← MailSchedule.rearm env) marked := rfl
      rw [hstart, hfilled]
      exact h.recordEnd hmem none false marked hmarked
    | some n =>
      have hstart : (MailSchedule.handleComplete env id (some n) none).run s = Act.run (do
          load env .fillIfEmpty
          let _ ← MailSchedule.update env id (some n)
          if 0 < n && s.core.announced.lookup id != some n then do
            let _ ← MailSchedule.announce env id
            let _ ← MailSchedule.rearm env
          else do let _ ← MailSchedule.rearm env) marked := rfl
      rw [hstart, hfilled]
      exact h.recordEnd hmem (some n) _ marked hmarked

/-- So does handling the message about it. -/
theorem process_complete {id : Int} (hid : id ∈ p.registry.ids) (count : Option Int)
    (error : Option Fault) :
    (process env (.checkComplete id count error)).Yields (Stands I p) fun _ =>
      Stands I (p.ended id (countAtEnd count error)) := by
  let m : Message := .checkComplete id count error
  have hreconcile : (reconcile env).Yields (Stands I p) fun _ => Stands I p := by
    have hcall := h.call (p := p) (c := .reconcile) nofun
    unfold reconcile
    exact .ite (fun _ => hcall.unhandled _) fun _ => .pure fun _ hs => hs
  have hbegan : (record (.began m)).Yields (Stands I p) fun _ => Stands I p :=
    Stands.record nofun
  have hhandled := Act.Yields.tryCatch (h.handleComplete hid count error)
    fun e => Stands.record (e := .noted (failureNotice m e)) nofun
  exact hreconcile.bind fun _ => hbegan.bind fun _ => hhandled.bind fun _ =>
    Stands.record (e := .ended m) nofun

end Surroundings.Prompt

/-! ## The ends of two checks -/

namespace Standing

variable {p : Standing} {a b : Int} (h : a ≠ b) (counted counted' : Option Int)

theorem account_of_mailAtEnd {mail : NewMail} (hmail : mail ∈ p.mailAtEnd a counted) :
    mail.account = a := by
  unfold mailAtEnd at hmail
  split at hmail
  · obtain ⟨report, -, -, -, rfl⟩ := Registry.newMail?_eq_some hmail
    rfl
  · cases hmail

include h

/-- What the end of a check announces does not depend on whether the check of another account has
ended before. -/
theorem mailAtEnd_ended : (p.ended a counted).mailAtEnd b counted' = p.mailAtEnd b counted' := by
  have hlookup : (p.announced.filter (·.1 ≠ a)).lookup b = p.announced.lookup b := by
    rw [lookup_filter_ne, if_neg h.symm]
  unfold mailAtEnd
  show (if counted'.any fun n => 0 < n && (p.announced.filter (·.1 ≠ a)).lookup b != some n then
    _ else none) = _
  rw [hlookup]
  split
  · apply Registry.newMail?_congr
    show Registry.find? (Registry.modify (Registry.modify p.registry a _) b _) b = _
    simp [Registry.find?_modify, h.symm]
    rfl
  · rfl

theorem registry_ended_comm : ((p.ended a counted).ended b counted').registry =
    ((p.ended b counted').ended a counted).registry := by
  show Registry.modify (Registry.modify p.registry a _) b
      (·.ended p.clock counted' ((p.ended a counted).mailAtEnd b counted').isSome) =
    Registry.modify (Registry.modify p.registry b _) a
      (·.ended p.clock counted ((p.ended b counted').mailAtEnd a counted).isSome)
  rw [mailAtEnd_ended h, mailAtEnd_ended h.symm]
  exact Registry.modify_comm _ h _ _

/-- Announcements of different accounts may change places. -/
theorem mails_ended_comm (x : Int) :
    ((p.ended a counted).ended b counted').mails.filter (·.account = x) =
      ((p.ended b counted').ended a counted).mails.filter (·.account = x) := by
  have hother : ∀ {id : Int} {c : Option Int}, id ≠ x →
      (p.mailAtEnd id c).toList.filter (·.account = x) = [] := by
    intro id c hid
    apply List.filter_eq_nil_iff.2
    intro mail hmail
    have haccount := account_of_mailAtEnd c (Option.mem_toList.1 hmail)
    simp [haccount, hid]
  show List.filter _ (((p.ended a counted).mailAtEnd b counted').toList ++
      ((p.mailAtEnd a counted).toList ++ p.mails)) =
    List.filter _ (((p.ended b counted').mailAtEnd a counted).toList ++
      ((p.mailAtEnd b counted').toList ++ p.mails))
  rw [mailAtEnd_ended h, mailAtEnd_ended h.symm]
  simp only [List.filter_append]
  by_cases ha : a = x
  · have hb : b ≠ x := by
      rw [← ha]
      exact h.symm
    simp [hother hb]
  · simp [hother ha]

omit h in
/-- When the checks of two accounts have ended, the wake timer is set for the registry, or was set
neither time. -/
theorem timer_ended_ended (ha : a ∈ p.registry.ids) :
    ((p.ended a counted).ended b counted').timer =
      ((p.ended a counted).ended b counted').registry.timerAt p.clock p.timer :=
  Registry.timerAt_timerAt (fun hone => Registry.Writable.modify_ended ha hone) ..

/-- The order in which the checks of two accounts end makes no difference. -/
theorem ended_comm (ha : a ∈ p.registry.ids) (hb : b ∈ p.registry.ids) :
    ((p.ended a counted).ended b counted').Agrees ((p.ended b counted').ended a counted) where
  registry := registry_ended_comm h counted counted'
  completed x := by
    show x ∈ (p.completed.insert a).insert b ↔ x ∈ (p.completed.insert b).insert a
    simp only [List.mem_insert_iff]
    exact or_left_comm
  announced := by
    show (p.announced.filter (·.1 ≠ a)).filter (·.1 ≠ b) =
      (p.announced.filter (·.1 ≠ b)).filter (·.1 ≠ a)
    rw [List.filter_filter, List.filter_filter]
    apply List.filter_congr
    intro e _
    exact Bool.and_comm ..
  timer := by
    rw [timer_ended_ended counted counted' ha, timer_ended_ended counted' counted hb,
      registry_ended_comm h counted counted']
  mails := mails_ended_comm h counted counted'

end Standing

/-- If no call fails or takes time, it makes no difference in which order the ends of the checks of
two accounts are handled that are tracked, whatever they report.  The registry is the same, with the
same accounts in the same order, and so is what is remembered of checks that have ended or are under
way.  The wake timer is set for that registry, if the wake can be written, and the announcements of
each account are the same, in the same order. -/
theorem completions_commute {env : Surroundings ω} {I : ω → Prop} (h : env.Prompt I)
    {s : System ω} (hs : I s.world) {a b : Int} (hne : a ≠ b) (ha : a ∈ s.core.registry.ids)
    (hb : b ∈ s.core.registry.ids) (count count' : Option Int) (error error' : Option Fault) :
    ∃ s₁ s₂,
      Act.run (do
        process env (.checkComplete a count error)
        process env (.checkComplete b count' error')) s = (.ok (), s₁) ∧
      Act.run (do
        process env (.checkComplete b count' error')
        process env (.checkComplete a count error)) s = (.ok (), s₂) ∧
      s₁.standing.Agrees s₂.standing ∧
      s₁.timer = s₁.core.registry.timerAt s.clock s.timer := by
  have hids : ∀ {id c}, (s.standing.ended id c).registry.ids = s.core.registry.ids :=
    Registry.ids_modify ..
  have hab := (h.process_complete (p := s.standing) ha count error).bind fun _ =>
    h.process_complete (hids ▸ hb) count' error'
  have hba := (h.process_complete (p := s.standing) hb count' error').bind fun _ =>
    h.process_complete (hids ▸ ha) count error
  obtain ⟨_, s₁, hr₁, -, hstanding₁⟩ := hab s ⟨hs, rfl⟩
  obtain ⟨_, s₂, hr₂, -, hstanding₂⟩ := hba s ⟨hs, rfl⟩
  refine ⟨s₁, s₂, hr₁, hr₂, ?_, ?_⟩
  · rw [hstanding₁, hstanding₂]
    exact Standing.ended_comm hne _ _ ha hb
  · show s₁.standing.timer = s₁.standing.registry.timerAt s.clock s.standing.timer
    rw [hstanding₁]
    exact Standing.timer_ended_ended _ _ ha

namespace Rehearsal

theorem prompt_inMemory : inMemory.Prompt OfTwoAccounts where
  staysOut := staysOut_surroundings {} 1
  silent c s := by
    show announcements (((surroundings {} 1 0).during c).run s).2.journal = _
    rw [run_during]
  time t := keepsTime_surroundings {} 1 (· = t)
  during := fixed_inMemory.during
  succeeds c s hs := by
    show (((surroundings {} 1 0).during c).run s).1 = .ok ()
    rw [run_during, hs.failures]
    rfl

/-- A poller whose checks of two accounts are under way. -/
def twoChecking : System World := { freshPoller with
  core := {
    registry := ⟨[(1, .resumed 1 15 true true 500000), (2, .resumed 2 60 true true 400000)]⟩
    announced := [(2, 3)] } }

/-- Both ends are announced, one before the other in either order, and the timer is set alike. -/
theorem completions_commute_twoChecking : ∃ s₁ s₂,
    Act.run (do
      process inMemory (.checkComplete 1 (some 5) none)
      process inMemory (.checkComplete 2 (some 4) none)) twoChecking = (.ok (), s₁) ∧
    Act.run (do
      process inMemory (.checkComplete 2 (some 4) none)
      process inMemory (.checkComplete 1 (some 5) none)) twoChecking = (.ok (), s₂) ∧
    announcements s₁.journal = [⟨2, 4, 4⟩, ⟨1, 5, 5⟩] ∧
    announcements s₂.journal = [⟨1, 5, 5⟩, ⟨2, 4, 4⟩] ∧
    s₁.core.registry = s₂.core.registry ∧ s₁.timer = s₂.timer ∧
    s₁.timer = s₁.core.registry.timerAt 1000000 none := by
  have hworld : OfTwoAccounts twoChecking.world := ofTwoAccounts_twoAccountsWorld
  obtain ⟨s₁, s₂, hr₁, hr₂, hagrees, htimer⟩ := completions_commute prompt_inMemory hworld
    (a := 1) (b := 2) (by decide) (by decide) (by decide) (some 5) (some 4) none none
  refine ⟨s₁, s₂, hr₁, hr₂, ?_, ?_, hagrees.registry, hagrees.timer, htimer⟩
  · rw [← show (Act.run _ twoChecking).2 = s₁ from congrArg Prod.snd hr₁]
    decide +kernel
  · rw [← show (Act.run _ twoChecking).2 = s₂ from congrArg Prod.snd hr₂]
    decide +kernel

end Rehearsal

end MailSchedule

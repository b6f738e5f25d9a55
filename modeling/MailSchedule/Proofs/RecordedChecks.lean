import MailSchedule.Proofs.ListedAccounts

/-!
# Recording a check

A check is recorded in the report of its account, which is loaded first if the account is not
tracked.  The answer is the report as it is then.  There is none exactly if the account is not
tracked and is not live either, and then nothing has changed.  No other report is concerned.

Results:

* `Report.checked_eq`: a report after a check.
* `System.checkReading`: what the clock reads when a check is recorded.
* `Registry.Recorded`: a registry in which a check of one account was recorded.
* `update_exact`: what recording a check comes to.
-/

namespace MailSchedule

variable {ω : Type}

/-! ## Reports and registries -/

/-- A check at a time that is one sets the time of the last check, moves the next one of an account
that is scheduled, and sets the count if one is given. -/
theorem Report.checked_eq (r : Report) {time : Int} (h : time ≠ neverChecked)
    (unseen : Option Int) : r.checked time unseen = { r with
      prevSync := time
      nextSync := if 0 < r.interval then time + r.interval * minute else r.nextSync
      unseen := unseen.getD r.unseen } := by
  unfold checked scheduleFrom
  by_cases hscheduled : 0 < r.interval
  · simp [hscheduled, h]
  · simp [hscheduled]

namespace Registry

/-- A check of an account was recorded at a certain time, with a count if one was given.  The report
before it is that of the registry or a new one.  An account that was not tracked has become the last
one, and whatever else was tracked is as it was. -/
structure Recorded (id time : Int) (unseen : Option Int) (before after : Report)
    (r r' : Registry) : Prop where
  checked : after = { before with
    prevSync := time
    nextSync := if 0 < before.interval then time + before.interval * minute else before.nextSync
    unseen := unseen.getD before.unseen }
  ids : r'.ids = if id ∈ r.ids then r.ids else r.ids ++ [id]
  found : r'.find? id = some after
  others : ∀ x ≠ id, r'.find? x = r.find? x

/-- A report that is put at the end is found there. -/
theorem find?_append_new {r : Registry} {id : Int} (h : id ∉ r.ids) (report : Report) (x : Int) :
    find? ⟨r.entries ++ [(id, report)]⟩ x = if x = id then some report else r.find? x := by
  rw [← find?_put]
  show List.lookup x (r.entries ++ [(id, report)]) = List.lookup x (r.put id report).entries
  rw [entries_put_new h]

variable {r : Registry} {id time : Int}

/-- A check of an account that is tracked. -/
theorem recorded_modify {before : Report} (h : r.find? id = some before)
    (htime : time ≠ neverChecked) (unseen : Option Int) : ∃ after, Recorded id time unseen before after r
      (r.modify id (·.checked time unseen)) := by
  refine ⟨before.checked time unseen, before.checked_eq htime unseen, ?_, ?_, fun x hx => ?_⟩
  · rw [ids_modify, if_pos (mem_ids_of_mem (mem_of_find? h))]
  · rw [find?_modify, if_pos rfl, h]
    rfl
  · rw [find?_modify, if_neg hx]

/-- A check of an account that was not tracked before. -/
theorem recorded_append (h : id ∉ r.ids) (before : Report) (htime : time ≠ neverChecked)
    (unseen : Option Int) : ∃ after, Recorded id time unseen before after r
      (modify ⟨r.entries ++ [(id, before)]⟩ id (·.checked time unseen)) := by
  refine ⟨before.checked time unseen, before.checked_eq htime unseen, ?_, ?_, fun x hx => ?_⟩
  · rw [ids_modify, if_neg h]
    simp [ids]
  · rw [find?_modify, if_pos rfl, find?_append_new h, if_pos rfl]
    rfl
  · rw [find?_modify, if_neg hx, find?_append_new h, if_neg hx]

end Registry

/-! ## Recording a check -/

/-- What the clock reads when a check of an account is recorded: the store may have been asked
before. -/
def System.checkReading (env : Surroundings ω) (id : Int) (s : System ω) : Int :=
  ((load env (.one id)).run s).2.clock

/-- Among collaborators that take no time the clock reads what it read before. -/
theorem System.checkReading_eq_clock {env : Surroundings ω} (h : env.StaysOut)
    (htime : ∀ t, env.KeepsTime (· = t)) (id : Int) (s : System ω) :
    s.checkReading env id = s.clock :=
  h.clock_load htime (.one id) s

/-- Once the account is loaded, its check is recorded at the time that the clock reads then. -/
theorem run_update_of_load {env : Surroundings ω} {id : Int} {s loaded : System ω}
    (h : (load env (.one id)).run s = (.ok (), loaded)) (unseen : Option Int) :
    (update env id unseen).run s =
      (.ok ((loaded.core.registry.modify id (·.checked (s.checkReading env id) unseen)).find? id),
        { loaded with core := { loaded.core with
          registry :=
            loaded.core.registry.modify id (·.checked (s.checkReading env id) unseen) } }) := by
  have hreading : s.checkReading env id = loaded.clock := by
    unfold System.checkReading
    rw [h]
  rw [run_update, h, hreading]
  rfl

/-- If no call fails, recording a check has no answer exactly if the account is not tracked and the
store has no live row of it, and in that case nothing has changed.  Otherwise the answer is the
report of the account, which is loaded if it was not tracked: its last check is now, its next one an
interval later if it is scheduled, and its count is the one given, if there is one, which may be
zero.  The other accounts, their order and whatever else the poller remembers are as they were. -/
theorem update_exact {env : Surroundings ω} {I : ω → Prop} {row : Int → Option Account.Draft}
    {enabled : Text → Bool} (h : env.LooksUp I row enabled) {s : System ω} (hs : I s.world)
    (id : Int) (unseen : Option Int) (hnow : 1 ≤ s.checkReading env id) :
    ∃ answer s', (update env id unseen).run s = (.ok answer, s') ∧ I s'.world ∧
      (answer = none ↔ id ∉ s.core.registry.ids ∧ ∀ d ∈ row id, d.isWellFormed = false) ∧
      (answer = none → Untouched s s') ∧
      ∀ after ∈ answer, ∃ before,
        (s.core.registry.find? id = some before ∨ id ∉ s.core.registry.ids ∧
          ∃ d ∈ row id, d.isWellFormed = true ∧
            before = d.newReport env.policy.polling enabled) ∧
        Registry.Recorded id (s.checkReading env id) unseen before after s.core.registry
          s'.core.registry ∧
        Untouched s { s' with core := { s'.core with registry := s.core.registry } } := by
  have htime : s.checkReading env id ≠ neverChecked := by
    unfold neverChecked
    omega
  by_cases hid : id ∈ s.core.registry.ids
  · -- The account is tracked.
    have hr := run_update_of_load (load_one_of_mem env hid) unseen
    obtain ⟨before, hbefore⟩ := Option.isSome_iff_exists.1 ((Registry.mem_ids_iff _ id).1 hid)
    obtain ⟨after, hrecorded⟩ := Registry.recorded_modify hbefore htime unseen
    rw [hrecorded.found] at hr
    refine ⟨_, _, hr, hs, ⟨nofun, fun hnew => absurd hid hnew.1⟩, nofun, ?_⟩
    rintro _ ⟨rfl⟩
    exact ⟨before, .inl hbefore, hrecorded, Untouched.refl s⟩
  · obtain ⟨loaded, ⟨hworld, huntouched⟩, hload⟩ := h.run_load_one hs hid
    have hr := run_update_of_load hload unseen
    by_cases hlive : ∃ d ∈ row id, d.isWellFormed = true
    · -- The account becomes the last one.
      obtain ⟨d, hd, hlive⟩ := hlive
      obtain rfl := h.id id d hd
      rw [Option.mem_def.1 hd, Option.toList_some,
        PollingRules.newEntries_of_isWellFormed _ _ hlive] at hr
      obtain ⟨after, hrecorded⟩ :=
        Registry.recorded_append hid (d.newReport env.policy.polling enabled) htime unseen
      rw [hrecorded.found] at hr
      refine ⟨_, _, hr, hworld, ⟨nofun, fun hnew => ?_⟩, nofun, ?_⟩
      · rw [hnew.2 d hd] at hlive
        cases hlive
      · rintro _ ⟨rfl⟩
        refine ⟨_, .inr ⟨hid, d, hd, hlive, rfl⟩, hrecorded, ?_⟩
        rw [← huntouched.registry]
        exact huntouched
    · -- There is no such account.
      have horphan : ∀ d ∈ row id, d.isWellFormed = false := by
        intro d hd
        exact Bool.eq_false_iff.2 fun hd' => hlive ⟨d, hd, hd'⟩
      rw [PollingRules.newEntries_of_orphans _ _ fun d hd => horphan d (Option.mem_toList.1 hd),
        List.append_nil, Registry.modify_of_not_mem hid,
        (Registry.find?_eq_none_iff s.core.registry id).2 hid] at hr
      refine ⟨none, _, hr, hworld, ⟨fun _ => ⟨hid, horphan⟩, fun _ => rfl⟩, fun _ => ?_, nofun⟩
      rw [← huntouched.registry]
      exact huntouched

namespace Rehearsal

/-- An account that is not tracked is loaded when its check is recorded, with a count that may be
zero.  A leftover of a failed setup is not loaded. -/
theorem update_exact_oddPoller : ∃ s' s'',
    (update minutely 3 (some 0)).run oddPoller =
      (.ok (some (.resumed 3 1 false false 1000000)), s') ∧
    s'.core.registry.ids = [9, 3] ∧
    s'.core.registry.find? 9 = some (.resumed 9 15 true true 500000) ∧
    (update minutely 1 (some 7)).run oddPoller = (.ok none, s'') ∧
    s''.core.registry = oddPoller.core.registry := by
  have hreading : ∀ id, oddPoller.checkReading minutely id = 1000000 := fun id =>
    System.checkReading_eq_clock (staysOut_surroundings _ 1)
      (fun _ => keepsTime_surroundings _ 1 _) id oddPoller
  have hnow : ∀ id, 1 ≤ oddPoller.checkReading minutely id := by
    intro id
    rw [hreading]
    decide
  have hstore := catalogues_minutely.looksUp
  obtain ⟨answer, s', hr, -, hnone, -, hsome⟩ := update_exact hstore rfl 3 (some 0) (hnow 3)
  obtain ⟨answer', s'', hr', -, hnone', hsame, -⟩ := update_exact hstore rfl 1 (some 7) (hnow 1)
  obtain ⟨after, rfl⟩ : ∃ after, answer = some after := by
    refine Option.ne_none_iff_exists'.1 fun hanswer => ?_
    have horphan := (hnone.1 hanswer).2 _ rfl
    revert horphan
    decide +kernel
  obtain ⟨before, hbefore | ⟨-, d, hd, -, rfl⟩, hrecorded, -⟩ := hsome after rfl
  · have huntracked : oddPoller.core.registry.find? 3 = none := by decide
    rw [huntracked] at hbefore
    cases hbefore
  · cases hd
    have hafter := hrecorded.checked
    rw [hreading] at hafter
    have hleftover : answer' = none := by
      refine hnone'.2 ⟨by decide, ?_⟩
      rintro _ ⟨rfl⟩
      decide +kernel
    subst hafter hleftover
    exact ⟨s', s'', hr, hrecorded.ids, hrecorded.others 9 (by decide), hr',
      (hsame rfl).registry⟩

end Rehearsal

end MailSchedule

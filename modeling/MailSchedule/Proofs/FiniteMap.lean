import MailSchedule.Proofs.Requests
import MailSchedule.Proofs.Rows
import Mathlib.Data.List.DropRight

/-!
# The store as a finite map

Whatever is asked of a store that has been opened, its answers are those of a finite map from
numbers to accounts, with a count beside each of them, and of a second one from addresses to
switches.  What the maps hold is told by the history of the requests alone: for each number the
account that was put last, for each address the switch that was set last.

A number starts anew with the request that inserts its account, and ends with the one that deletes
it.  Putting an account again in between keeps the count.  A request that the database does not take
leaves no trace in the maps.

Results:

* `lastPut`, `lastCount`, `lastSwitch`: what the maps hold, read off the history.
* `Request.row?_rowsAfter`, `Request.lookup_switchesAfter`: what one request does to the tables.
* `answers_of_history`: the answers of the store after any requests.
-/

namespace MailSchedule.Store

/-! ## Histories -/

namespace Request

/-- Whether the database takes a request: all its values can be handed over and none is missing. -/
def isTaken (r : Request) : Bool := r.problem?.isNone && r.missing?.isNone

/-- The account that a request puts under a number. -/
def putAt? (id : Int) (r : Request) : Option Account := r.puts?.filter fun a => a.id = id

/-- The count that a request gives to a number. -/
def countAt? (id : Int) : Request → Option Int
  | .setCount i n => if i = id then some n else none
  | .resetCount (some i) => if i = id then some 0 else none
  | .resetCount none => some 0
  | _ => none

/-- The switch that a request sets for an address. -/
def switchAt? (email : Text) : Request → Option Bool
  | .setSync e on => if e = email then some on else none
  | _ => none

/-- A request that puts an account gives no count. -/
theorem countAt?_of_putAt? {id : Int} {r : Request} {a : Account} (h : r.putAt? id = some a) :
    r.countAt? id = none := by
  cases r with
  | upsert d => rfl
  | _ => cases h

end Request

/-- The requests of a history since the account with a number was inserted, the newest first and the
insertion last.  There are none if there is no such account. -/
def since (id : Int) (rs : List Request) : List Request :=
  ((rs.filter (·.isTaken)).reverse.takeWhile (· ≠ .delete id)).rdropWhile fun r =>
    (r.putAt? id).isNone

/-- The account put last under a number, unless it has been deleted since. -/
def lastPut (id : Int) (rs : List Request) : Option Account :=
  (since id rs).findSome? (·.putAt? id)

/-- The count given last to a number since its account was inserted, which is zero at first. -/
def lastCount (id : Int) (rs : List Request) : Option Int :=
  (lastPut id rs).map fun _ => ((since id rs).findSome? (·.countAt? id)).getD 0

/-- The switch set last for an address. -/
def lastSwitch (email : Text) (rs : List Request) : Option Bool :=
  (rs.filter (·.isTaken)).reverse.findSome? (·.switchAt? email)

section Histories

variable (id : Int) (rs : List Request) {r : Request}

theorem since_append_of_not_taken (h : r.isTaken = false) : since id (rs ++ [r]) = since id rs := by
  simp [since, List.filter_append, h]

/-- What one request does to the history of a number. -/
theorem since_append (h : r.isTaken = true) :
    since id (rs ++ [r]) =
      if r = .delete id then []
      else if since id rs = [] then (if (r.putAt? id).isSome then [r] else [])
      else r :: since id rs := by
  unfold since
  rw [List.filter_append, List.filter_singleton, h]
  simp only [Bool.cond_true, List.reverse_append, List.reverse_singleton, List.singleton_append]
  by_cases hd : r = .delete id
  · simp [hd]
  · rw [List.takeWhile_cons_of_pos (by simpa using hd), if_neg hd, List.rdropWhile,
      List.reverse_cons, List.dropWhile_append]
    simp only [List.isEmpty_iff, List.rdropWhile, List.reverse_eq_nil_iff]
    split
    · cases hp : r.putAt? id <;> simp [hp]
    · simp

theorem lastPut_append_of_not_taken (h : r.isTaken = false) :
    lastPut id (rs ++ [r]) = lastPut id rs := by
  unfold lastPut
  rw [since_append_of_not_taken id rs h]

theorem lastCount_append_of_not_taken (h : r.isTaken = false) :
    lastCount id (rs ++ [r]) = lastCount id rs := by
  unfold lastCount
  rw [lastPut_append_of_not_taken id rs h, since_append_of_not_taken id rs h]

/-- There is an account with a number as long as its history goes on. -/
theorem lastPut_eq_none_iff : lastPut id rs = none ↔ since id rs = [] := by
  induction rs using List.reverseRecOn with
  | nil => simp [lastPut, since]
  | append_singleton rs r ih =>
    cases ht : r.isTaken with
    | false => rw [lastPut_append_of_not_taken id rs ht, since_append_of_not_taken id rs ht, ih]
    | true =>
      unfold lastPut at ih ⊢
      rw [since_append id rs ht]
      split_ifs with hd hs hp
      · simp
      · simp [Option.isSome_iff_ne_none.mp hp]
      · simp
      · cases hp : r.putAt? id <;> simp [hp, ih, hs]

theorem lastPut_append (h : r.isTaken = true) :
    lastPut id (rs ++ [r]) =
      if r = .delete id then none else (r.putAt? id).or (lastPut id rs) := by
  by_cases hs : since id rs = []
  · have hn := (lastPut_eq_none_iff id rs).mpr hs
    rw [hn]
    unfold lastPut
    rw [since_append id rs h, if_pos hs]
    split_ifs with hd hp
    · rfl
    · cases hp' : r.putAt? id <;> simp [hp']
    · simp [Option.not_isSome_iff_eq_none.mp hp]
  · unfold lastPut
    rw [since_append id rs h, if_neg hs]
    split_ifs with hd
    · rfl
    · cases hp : r.putAt? id <;> simp [hp]

/-- What one request does to the count of a number: putting an account that is there keeps it. -/
theorem lastCount_append (h : r.isTaken = true) :
    lastCount id (rs ++ [r]) =
      if r = .delete id then none
      else if (r.putAt? id).isSome then some ((lastCount id rs).getD 0)
      else (lastCount id rs).map fun n => (r.countAt? id).getD n := by
  unfold lastCount
  rw [lastPut_append id rs h]
  by_cases hd : r = .delete id
  · simp [hd]
  rw [if_neg hd, if_neg hd, since_append id rs h, if_neg hd]
  by_cases hs : since id rs = []
  · rw [if_pos hs, (lastPut_eq_none_iff id rs).mpr hs]
    cases hp : r.putAt? id with
    | none => rfl
    | some a => simp [Request.countAt?_of_putAt? hp]
  · obtain ⟨b, hb⟩ := Option.ne_none_iff_exists'.mp (mt (lastPut_eq_none_iff id rs).mp hs)
    rw [if_neg hs, hb]
    cases hp : r.putAt? id with
    | none => cases hc : r.countAt? id <;> simp [hc]
    | some a => simp [Request.countAt?_of_putAt? hp]

theorem lastSwitch_append (email : Text) (h : r.isTaken = true) :
    lastSwitch email (rs ++ [r]) = (r.switchAt? email).or (lastSwitch email rs) := by
  unfold lastSwitch
  rw [List.filter_append, List.filter_singleton, h]
  cases hs : r.switchAt? email <;> simp [hs]

end Histories

/-! ## What one request does to the tables -/

namespace Request

variable {r : Request} {rows : List Row}

theorem complete_of_isTaken {d : Account.Draft} (h : (upsert d).isTaken = true) :
    ∃ a, complete d = .ok a := by
  cases hd : complete d with
  | ok a => exact ⟨a, rfl⟩
  | error column => simp [isTaken, missing?, hd] at h

theorem id_of_complete {d : Account.Draft} {a : Account} (h : complete d = .ok a) :
    a.id = d.id := by
  unfold complete at h
  split at h <;> cases h
  rfl

theorem fits_of_isTaken {d : Account.Draft} (h : (upsert d).isTaken = true) :
    fits d.id = true := by
  by_contra hid
  simp [isTaken, problem?, parameters, draftParameters, firstProblem?, Parameter.problem?, hid] at h

theorem rowsAfter_upsert {d : Account.Draft} {a : Account} (h : complete d = .ok a)
    (rows : List Row) : (upsert d).rowsAfter rows = putRow a rows := by
  simp [rowsAfter, h, Except.toOption]

theorem putAt?_upsert {d : Account.Draft} {a : Account} (h : complete d = .ok a) (id : Int) :
    (upsert d).putAt? id = if a.id = id then some a else none := by
  simp [putAt?, puts?, h, Except.toOption, Option.filter]

/-- Every request keeps the rows in order. -/
theorem sorted_rowsAfter (h : Sorted rows) (ht : r.isTaken = true) : Sorted (r.rowsAfter rows) := by
  cases r with
  | upsert d =>
    obtain ⟨a, hd⟩ := complete_of_isTaken ht
    rw [rowsAfter_upsert hd]
    exact h.putRow a
  | delete id => exact h.filter _
  | setCount id n => exact h.setCounts (some id) n
  | resetCount target => exact h.setCounts target 0
  | _ => exact h

/-- What a request does to the row with a number. -/
theorem row?_rowsAfter (h : Sorted rows) (ht : r.isTaken = true) (id : Int) :
    row? (r.rowsAfter rows) id =
      if r = .delete id then none
      else ((r.putAt? id).map fun a =>
          { account := a, count := ((row? rows id).map (·.count)).getD 0 : Row }).or
        ((row? rows id).map fun row => { row with count := (r.countAt? id).getD row.count }) := by
  cases r with
  | upsert d =>
    obtain ⟨a, hd⟩ := complete_of_isTaken ht
    rw [rowsAfter_upsert hd, h.row?_putRow, putAt?_upsert hd]
    by_cases ha : a.id = id <;> simp [ha, countAt?]
  | delete i =>
    rw [rowsAfter, row?_filter_ne]
    by_cases hi : i = id <;> simp [hi, putAt?, puts?, countAt?]
  | setCount i n =>
    rw [rowsAfter, row?_setCounts]
    by_cases hi : i = id <;> simp [hi, putAt?, puts?, countAt?]
  | resetCount target =>
    rw [rowsAfter, row?_setCounts]
    cases target with
    | none => simp [putAt?, puts?, countAt?]
    | some i => by_cases hi : i = id <;> simp [hi, putAt?, puts?, countAt?]
  | _ => simp [rowsAfter, putAt?, puts?, countAt?]

theorem lookup_switchesAfter (r : Request) (switches : List (Text × Bool)) (email : Text) :
    (r.switchesAfter switches).lookup email =
      (r.switchAt? email).or (switches.lookup email) := by
  cases r with
  | setSync e on =>
    rw [switchesAfter, lookup_putSwitch, switchAt?]
    split_ifs <;> rfl
  | _ => rfl

end Request

/-! ## The tables and the history -/

/-- Tables that hold what a history says. -/
structure Reflects (rs : List Request) (rows : List Row) (switches : List (Text × Bool)) :
    Prop where
  sorted : Sorted rows
  account : ∀ id, (row? rows id).map (·.account) = lastPut id rs
  count : ∀ id, (row? rows id).map (·.count) = lastCount id rs
  switch : ∀ email, switches.lookup email = lastSwitch email rs

namespace Reflects

variable {rs : List Request} {rows : List Row} {switches : List (Text × Bool)} {r : Request}

theorem nil : Reflects [] [] [] := ⟨.nil, fun _ => rfl, fun _ => rfl, fun _ => rfl⟩

/-- A request that is not taken is not part of the history. -/
theorem append_of_not_taken (h : Reflects rs rows switches) (hr : r.isTaken = false) :
    Reflects (rs ++ [r]) rows switches := by
  refine ⟨h.sorted, fun id => ?_, fun id => ?_, fun email => ?_⟩
  · rw [lastPut_append_of_not_taken id rs hr]
    exact h.account id
  · rw [lastCount_append_of_not_taken id rs hr]
    exact h.count id
  · rw [h.switch]
    unfold lastSwitch
    simp [hr]

/-- A request that is taken does to the tables what it adds to the history. -/
theorem append (h : Reflects rs rows switches) (hr : r.isTaken = true) :
    Reflects (rs ++ [r]) (r.rowsAfter rows) (r.switchesAfter switches) := by
  refine ⟨r.sorted_rowsAfter h.sorted hr, fun id => ?_, fun id => ?_, fun email => ?_⟩
  · rw [r.row?_rowsAfter h.sorted hr, lastPut_append id rs hr, ← h.account id]
    split_ifs
    · rfl
    · cases r.putAt? id <;> cases row? rows id <;> rfl
  · rw [r.row?_rowsAfter h.sorted hr, lastCount_append id rs hr, ← h.count id]
    split_ifs with hd hp
    · rfl
    · obtain ⟨a, ha⟩ := Option.isSome_iff_exists.mp hp
      simp [ha]
    · rw [Option.not_isSome_iff_eq_none.mp hp]
      cases row? rows id <;> rfl
  · rw [r.lookup_switchesAfter, lastSwitch_append rs email hr, ← h.switch email]

end Reflects

/-! ## The answers of an opened store -/

/-- A store that has just been opened on a database that did not exist. -/
def opened : Store := Store.after {} [.connect]

/-- An open store whose tables hold what a history says, and which no other connection holds. -/
structure Mirrors (rs : List Request) (s : Store) : Prop where
  sound : s.Sound
  unlocked : s.locked = false
  isOpen : s.connection.isSome
  tables : ∃ rows switches, s.saved = .holding rows switches ∧ Reflects rs rows switches

namespace Mirrors

variable {rs : List Request} {s : Store}

theorem opened : Mirrors [] opened :=
  ⟨sound_fresh.after [.connect], rfl, rfl, [], [], rfl, .nil⟩

theorem fate_eq_done_iff (h : Mirrors rs s) (r : Request) :
    r.fate s.locked = .done ↔ r.isTaken = true := by
  rw [h.unlocked, Request.fate_eq_done]
  simp [Request.isTaken]

/-- A request that the database takes is carried out, and nothing else. -/
theorem run_taken (h : Mirrors rs s) {r : Request} (hr : r.isTaken = true)
    {rows : List Row} {switches : List (Text × Bool)} (ht : s.saved = .holding rows switches) :
    ∃ c', r.act.run s = (.ok (r.reply rows switches), { s with
      saved := .holding (r.rowsAfter rows) (r.switchesAfter switches)
      connection := some c' }) := by
  obtain ⟨c, hc⟩ := Option.isSome_iff_exists.mp h.isOpen
  obtain ⟨c', -, -, -, -, hrun⟩ :=
    Request.run_done hc (h.sound.connection c hc) ht ((h.fate_eq_done_iff r).mpr hr)
  exact ⟨c', hrun⟩

/-- A request that the database does not take fails and changes nothing that is saved. -/
theorem run_not_taken (h : Mirrors rs s) {r : Request} (hr : r.isTaken = false) :
    ∃ e c', r.act.run s = (.error e, { s with connection := some c' }) := by
  obtain ⟨c, hc⟩ := Option.isSome_iff_exists.mp h.isOpen
  have hs := h.sound.connection c hc
  cases hf : r.fate s.locked with
  | rejected =>
    obtain ⟨-, e, c', -, -, -, hrun⟩ := Request.run_rejected hc hs hf
    exact ⟨e, c', hrun⟩
  | refused f =>
    obtain ⟨c', -, hrun⟩ := Request.run_refused hc hs hf
    exact ⟨_, _, hrun⟩
  | done => rw [(h.fate_eq_done_iff r).mp hf] at hr; cases hr

/-- The store goes on to hold what the history says. -/
theorem step (h : Mirrors rs s) (r : Request) : Mirrors (rs ++ [r]) (r.act.run s).2 := by
  have hsound : Sound (r.act.run s).2 := h.sound.step (.ask r)
  obtain ⟨rows, switches, ht, hm⟩ := h.tables
  cases hr : r.isTaken with
  | true =>
    obtain ⟨c', hrun⟩ := h.run_taken hr ht
    rw [hrun] at hsound ⊢
    exact ⟨hsound, h.unlocked, rfl, _, _, rfl, hm.append hr⟩
  | false =>
    obtain ⟨e, c', hrun⟩ := h.run_not_taken hr
    rw [hrun] at hsound ⊢
    exact ⟨hsound, h.unlocked, rfl, rows, switches, ht, hm.append_of_not_taken hr⟩

/-- After any requests an opened store holds what their history says. -/
theorem after_opened (rs : List Request) : Mirrors rs (Store.opened.after (rs.map .ask)) := by
  induction rs using List.reverseRecOn with
  | nil => exact opened
  | append_singleton rs r ih =>
    rw [List.map_append, after_append]
    exact ih.step r

end Mirrors

namespace Request

theorem isTaken_of_number {id : Int} (h : fits id = true) :
    (get id).isTaken = true ∧ (count id).isTaken = true ∧ (delete id).isTaken = true := by
  simp [isTaken, problem?, parameters, firstProblem?, Parameter.problem?, missing?, h]

theorem isTaken_of_text {t : Text} (h : t.octets.isOk = true) :
    (isSyncEnabled t).isTaken = true ∧ (idsWithProtocol t).isTaken = true := by
  cases ht : t.octets with
  | error u => simp [ht, Except.isOk, Except.toBool] at h
  | ok octets =>
    simp [isTaken, problem?, parameters, firstProblem?, Parameter.problem?, missing?, ht]

end Request

theorem Sorted.accounts {rows : List Row} (h : Sorted rows) :
    (rows.map (·.account)).Pairwise fun a b => a.id < b.id :=
  List.pairwise_map.mpr h

theorem Reflects.mem_accounts {rs : List Request} {rows : List Row}
    {switches : List (Text × Bool)} (h : Reflects rs rows switches) (a : Account) :
    a ∈ rows.map (·.account) ↔ lastPut a.id rs = some a := by
  rw [List.mem_map, ← h.account a.id, Option.map_eq_some_iff]
  constructor
  · rintro ⟨row, hrow, rfl⟩
    exact ⟨row, (h.sorted.mem_iff row).mp hrow, rfl⟩
  · rintro ⟨row, hrow, ha⟩
    refine ⟨row, (h.sorted.mem_iff row).mpr ?_, ha⟩
    rw [ha]
    exact hrow

/-- Putting an account again keeps the count of its number. -/
theorem lastCount_put_again (rs : List Request) {d : Account.Draft}
    (h : (Request.upsert d).isTaken = true) :
    lastCount d.id (rs ++ [.upsert d]) = some ((lastCount d.id rs).getD 0) := by
  obtain ⟨a, ha⟩ := Request.complete_of_isTaken h
  rw [lastCount_append d.id rs h, if_neg (by simp), if_pos]
  rw [Request.putAt?_upsert ha, if_pos (Request.id_of_complete ha)]
  rfl

/-- An account that is put after it was deleted starts from zero. -/
theorem lastCount_put_anew (rs : List Request) {d : Account.Draft}
    (h : (Request.upsert d).isTaken = true) :
    lastCount d.id (rs ++ [.delete d.id, .upsert d]) = some 0 := by
  rw [← List.singleton_append, ← List.append_assoc, lastCount_put_again _ h,
    lastCount_append d.id rs (Request.isTaken_of_number (Request.fits_of_isTaken h)).2.2,
    if_pos rfl]
  rfl

/-- The store is a finite map.  After any requests to a store that has been opened, the requests
that succeed are those that the database takes.  The accounts are listed in increasing order of
their numbers, and they are the ones last put under a number that has not been deleted since; every
other view agrees with the list.  An account has the count that its number was given last since it
was inserted, or zero: putting it again keeps the count, putting it after it was deleted does not.
Deleting tells whether there was an account, and an address has the switch that it was given last,
whatever the accounts are. -/
theorem answers_of_history (rs : List Request) :
    let s := opened.after (rs.map .ask)
    (∀ r : Request, (r.act.run s).1.isOk = r.isTaken) ∧
    (∃ accounts, (list.run s).1 = .ok accounts ∧
      accounts.Pairwise (fun a b => a.id < b.id) ∧
      (∀ a, a ∈ accounts ↔ lastPut a.id rs = some a) ∧
      ∀ protocol : Text, protocol.octets.isOk = true →
        ((idsWithProtocol protocol).run s).1 =
          .ok ((accounts.filter fun a => a.protocol = protocol).map (·.id))) ∧
    (∀ id, fits id = true →
      ((get id).run s).1 = .ok (lastPut id rs) ∧
      ((count id).run s).1 = .ok (lastCount id rs) ∧
      ((delete id).run s).1 = .ok (lastPut id rs).isSome) ∧
    (∀ email : Text, email.octets.isOk = true →
      ((isSyncEnabled email).run s).1 = .ok ((lastSwitch email rs).getD true)) ∧
    ∀ d : Account.Draft, (Request.upsert d).isTaken = true →
      lastCount d.id (rs ++ [.upsert d]) = some ((lastCount d.id rs).getD 0) ∧
      lastCount d.id (rs ++ [.delete d.id, .upsert d]) = some 0 := by
  intro s
  have h : Mirrors rs s := .after_opened rs
  obtain ⟨rows, switches, ht, hm⟩ := h.tables
  have answer (r : Request) (hr : r.isTaken = true) :
      (r.act.run s).1 = .ok (r.reply rows switches) := by
    obtain ⟨c', hrun⟩ := h.run_taken hr ht
    rw [hrun]
  refine ⟨fun r => ?_, ⟨rows.map Row.account, answer .list rfl, hm.sorted.accounts,
    hm.mem_accounts, fun protocol hp => ?_⟩, fun id hid => ⟨?_, ?_, ?_⟩, fun email he => ?_,
    fun d hd => ⟨lastCount_put_again rs hd, lastCount_put_anew rs hd⟩⟩
  · cases hr : r.isTaken with
    | true => rw [answer r hr]; rfl
    | false =>
      obtain ⟨e, c', hrun⟩ := h.run_not_taken hr
      rw [hrun]
      rfl
  · rw [List.filter_map, List.map_map]
    exact answer _ (Request.isTaken_of_text hp).2
  · rw [← hm.account id]
    exact answer _ (Request.isTaken_of_number hid).1
  · rw [← hm.count id]
    exact answer _ (Request.isTaken_of_number hid).2.1
  · rw [← hm.account id, Option.isSome_map]
    exact answer _ (Request.isTaken_of_number hid).2.2
  · rw [← hm.switch email]
    exact answer _ (Request.isTaken_of_text he).1

/-- A history in which the first account is put twice, with a count in between, and the second one
is deleted. -/
def putTwice : List Request := [
  .upsert { id := 2, email := some "b@example.org" },
  .upsert { id := 1, email := some "a@example.org" },
  .setCount 1 5,
  .setSync "b@example.org" false,
  .upsert { id := 1, email := some "a@example.org", interval := some 15 },
  .delete 2]

/-- The account that was put twice has the configuration of the second time and has kept its count.
The other one is gone, but the switch of its address is not. -/
theorem answers_of_history_putTwice :
    let s := opened.after (putTwice.map .ask)
    ((get 1).run s).1 = .ok (some { id := 1, email := "a@example.org", interval := 15 }) ∧
    ((count 1).run s).1 = .ok (some 5) ∧
    ((delete 2).run s).1 = .ok false ∧
    ((isSyncEnabled "b@example.org").run s).1 = .ok false := by
  intro s
  obtain ⟨-, -, hnumber, htext, -⟩ := answers_of_history putTwice
  obtain ⟨hget, hcount, -⟩ := hnumber 1 (by decide +kernel)
  obtain ⟨-, -, hdelete⟩ := hnumber 2 (by decide +kernel)
  have hswitch := htext "b@example.org" (by decide +kernel)
  have hput : lastPut 1 putTwice =
      some { id := 1, email := "a@example.org", interval := 15 } := by decide +kernel
  have hcounted : lastCount 1 putTwice = some 5 := by decide +kernel
  have hdeleted : lastPut 2 putTwice = none := by decide +kernel
  have hset : lastSwitch "b@example.org" putTwice = some false := by decide +kernel
  rw [hput] at hget
  rw [hcounted] at hcount
  rw [hdeleted] at hdelete
  rw [hset] at hswitch
  exact ⟨hget, hcount, hdelete, hswitch⟩

end MailSchedule.Store

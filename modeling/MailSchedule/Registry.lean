import MailSchedule.Report
import MailSchedule.Snapshot.Basic

/-!
# The registry

The accounts tracked, each with its report, in the order in which they came to be tracked.

Results:

* `find?`, `put`, `putNew`, `modify`: reading and changing the report kept under a number.
* `carryForward`: takes the times of checks over from an earlier registry.
* `restore`: fills in times of checks where none is known.
* `mem_ids_iff`: the numbers with a report are those tracked.
-/

namespace MailSchedule

/-- Reports under the numbers of their accounts. -/
structure Registry where
  entries : List (Int × Report) := []
  deriving DecidableEq, Repr, Inhabited

namespace Registry

/-- The registry that tracks nothing. -/
def empty : Registry := {}

/-- The numbers tracked, in order. -/
def ids (r : Registry) : List Int := r.entries.map (·.1)

/-- The reports, in order. -/
def reports (r : Registry) : List Report := r.entries.map (·.2)

/-- Whether nothing is tracked. -/
def isEmpty (r : Registry) : Bool := r.entries.isEmpty

/-- How many accounts are tracked. -/
def size (r : Registry) : Nat := r.entries.length

/-- The report kept under a number. -/
def find? (r : Registry) (id : Int) : Option Report := r.entries.lookup id

/-- Whether a number is tracked. -/
def contains (r : Registry) (id : Int) : Bool := (r.find? id).isSome

/-- Changes every report. -/
def map (f : Report → Report) (r : Registry) : Registry :=
  ⟨r.entries.map fun e => (e.1, f e.2)⟩

/-- Changes the report kept under a number. -/
def modify (r : Registry) (id : Int) (f : Report → Report) : Registry :=
  ⟨r.entries.map fun e => if e.1 = id then (e.1, f e.2) else e⟩

/-- Keeps a report under a number; a number that is tracked keeps its place. -/
def put (r : Registry) (id : Int) (report : Report) : Registry :=
  if r.contains id then r.modify id fun _ => report else ⟨r.entries ++ [(id, report)]⟩

/-- Keeps a report under a number that is not tracked. -/
def putNew (r : Registry) (id : Int) (report : Report) : Registry :=
  if r.contains id then r else ⟨r.entries ++ [(id, report)]⟩

/-- Adds the reports of another registry for numbers that are not tracked. -/
def addMissing (r fresh : Registry) : Registry :=
  fresh.entries.foldl (fun acc e => acc.putNew e.1 e.2) r

/-- The part of a registry with the given numbers. -/
def restrict (r : Registry) (ids : List Int) : Registry :=
  ⟨r.entries.filter fun e => ids.contains e.1⟩

/-- Takes the times of checks over from an earlier registry, for accounts tracked in both. -/
def carryForward (r earlier : Registry) : Registry :=
  r.map fun report =>
    match earlier.find? report.account with
    | some old => report.scheduleFrom old.prevSync
    | none => report

/-- Fills in one time of a check, if none is known. -/
def restoreOne (r : Registry) (pair : Int × Int) : Registry :=
  r.modify pair.1 fun report =>
    if report.prevSync = neverChecked then report.scheduleFrom pair.2 else report

/-- Fills in times of checks where none is known, in the order given. -/
def restore (r : Registry) (pairs : List (Int × Int)) : Registry :=
  pairs.foldl restoreOne r

/-- The times of the last checks, in order. -/
def prevSyncTimes (r : Registry) : List (Int × Int) :=
  r.reports.map fun report => (report.account, report.prevSync)

/-! ## Numbers tracked -/

theorem mem_ids_iff (r : Registry) (id : Int) : id ∈ r.ids ↔ r.contains id = true := by
  obtain ⟨es⟩ := r
  induction es with
  | nil => simp [ids, contains, find?]
  | cons e es ih =>
    simp only [ids, contains, find?, List.map_cons, List.mem_cons] at ih ⊢
    by_cases h : id = e.1 <;> simp_all

@[simp]
theorem ids_map (f : Report → Report) (r : Registry) : (r.map f).ids = r.ids := by
  simp [ids, map, Function.comp_def]

@[simp]
theorem ids_modify (r : Registry) (id : Int) (f : Report → Report) :
    (r.modify id f).ids = r.ids := by
  simp only [ids, modify, List.map_map]
  exact List.map_congr_left fun e _ => by by_cases h : e.1 = id <;> simp [h]

@[simp]
theorem ids_restoreOne (r : Registry) (pair : Int × Int) : (r.restoreOne pair).ids = r.ids :=
  ids_modify ..

@[simp]
theorem ids_restore (r : Registry) (pairs : List (Int × Int)) : (r.restore pairs).ids = r.ids := by
  induction pairs generalizing r with
  | nil => rfl
  | cons p ps ih => exact (ih (r.restoreOne p)).trans (ids_restoreOne r p)

end Registry

end MailSchedule

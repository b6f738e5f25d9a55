import MailSchedule.Journal
import MailSchedule.Selection

/-!
# The poller and its surroundings

The state of a poller together with what it works on, and the actions on it.  An action may fail,
and what it has done before it fails stays done.

Collaborators are described by their answers, which depend on the world they live in, and by what
happens while they are being called: anything at all, including further use of the poller.

Results:

* `Core`: what the poller itself remembers.
* `System`: the poller, the wake timer, the clock, the journal and the world.
* `Surroundings`: the collaborators and the rules that the poller follows.
* `Surroundings.call`: making a call.
* `Act.run_bind`, `Act.run_tryCatch`: how actions follow each other and how faults are handled.
-/

namespace MailSchedule

/-! ## State -/

/-- A registry as it is to be remembered: while nothing is kept it is the current one. -/
abbrev Keepsake := Option Registry

/-- Remembers a registry that is about to be given up, if none is remembered yet. -/
def Keepsake.settle (given : Registry) : Keepsake → Keepsake
  | none => some given
  | some r => some r

/-- What the poller remembers. -/
structure Core where
  registry : Registry := {}
  /-- Registries that rebuilding operations still under way have begun from, the latest first. -/
  keepsakes : List Keepsake := []
  /-- Messages that wait, the next one first. -/
  queue : List Message := []
  closed : Bool := false
  /-- Accounts whose check has reported its end since its watchdog was armed. -/
  completed : List Int := []
  /-- Counts already announced while a check was under way. -/
  announced : List (Int × Int) := []
  deriving DecidableEq, Repr

/-- Gives up the registry for another one. -/
def Core.replaceRegistry (c : Core) (r : Registry) : Core :=
  { c with registry := r, keepsakes := c.keepsakes.map (Keepsake.settle c.registry) }

/-- What the wake timer holds: a time, and octets for whoever is woken. -/
structure Wake where
  time : Int
  payload : Payload
  deriving DecidableEq, Repr

/-- The poller with its wake timer, the clock, the journal and the world. -/
structure System (ω : Type) where
  core : Core := {}
  timer : Option Wake := none
  clock : Int
  /-- The latest entry first. -/
  journal : List Event := []
  world : ω

/-- What is done with a system: a result or a fault, and the system afterwards in either case. -/
abbrev Act (ω α : Type) := ExceptT Fault (StateM (System ω)) α

/-- Runs an action. -/
def Act.run {ω α : Type} (act : Act ω α) (s : System ω) : Except Fault α × System ω :=
  StateT.run (ExceptT.run act) s

/-! ## Runs of actions -/

namespace Act

variable {ω α β : Type}

@[simp]
theorem run_pure (a : α) (s : System ω) : Act.run (pure a) s = (.ok a, s) := rfl

@[simp]
theorem run_throw (e : Fault) (s : System ω) :
    Act.run (throw e : Act ω α) s = (.error e, s) := rfl

@[simp]
theorem run_get (s : System ω) : Act.run get s = (.ok s, s) := rfl

@[simp]
theorem run_modify (f : System ω → System ω) (s : System ω) :
    Act.run (modify f) s = (.ok (), f s) := rfl

/-- What comes second sees the system that the first part leaves, unless that part fails. -/
theorem run_bind (act : Act ω α) (next : α → Act ω β) (s : System ω) :
    Act.run (act >>= next) s =
      match Act.run act s with
      | (.ok a, s) => Act.run (next a) s
      | (.error e, s) => (.error e, s) := by
  simp only [Act.run, ExceptT.run_bind, StateT.run_bind]
  generalize StateT.run (ExceptT.run act) s = r
  obtain ⟨r, s⟩ := r
  cases r <;> rfl

theorem run_map (f : α → β) (act : Act ω α) (s : System ω) :
    Act.run (f <$> act) s =
      match Act.run act s with
      | (.ok a, s) => (.ok (f a), s)
      | (.error e, s) => (.error e, s) := by
  rw [← bind_pure_comp, run_bind]
  rfl

/-- A fault is handled on the system that the failed part leaves. -/
theorem run_tryCatch (act : Act ω α) (handle : Fault → Act ω α) (s : System ω) :
    Act.run (tryCatch act handle) s =
      match Act.run act s with
      | (.ok a, s) => (.ok a, s)
      | (.error e, s) => Act.run (handle e) s := by
  change StateT.run (ExceptT.run (ExceptT.tryCatch act handle)) s = _
  simp only [Act.run, ExceptT.run, ExceptT.tryCatch, ExceptT.mk, StateT.run_bind]
  generalize StateT.run act s = r
  obtain ⟨r, s⟩ := r
  cases r <;> rfl

end Act

/-! ## Surroundings -/

/-- What a collaborator answers in a world: a result or a fault, and the world afterwards in either
case. -/
abbrev Reply (ω α : Type) := ω → Except Fault α × ω

/-- Answers of the account store. -/
structure AccountSource (ω : Type) where
  list : Reply ω (List Account.Draft)
  get : Int → Reply ω (Option Account.Draft)
  isSyncEnabled : Text → Reply ω Bool
  count : Int → Reply ω (Option Int)
  /-- Sets the count of one account, or of all, to zero. -/
  resetCount : Option Int → Reply ω Unit
  idsWithProtocol : Text → Reply ω (List Int)

/-- Answers of the component that checks mail. -/
structure Checker (ω : Type) where
  inbox : Int → ω → Option Int
  delete : Int → Reply ω Unit

/-- The rules that a poller follows. -/
structure Policy where
  polling : PollingRules := {}
  /-- Milliseconds after which a check that reports nothing is given up. -/
  watchdogDelay : Int := 600000
  /-- Whether background data is enabled, if nobody else knows. -/
  backgroundData : Bool := true
  deriving DecidableEq, Repr

/-- The collaborators of a poller and the rules that it follows. -/
structure Surroundings (ω : Type) where
  policy : Policy
  source : AccountSource ω
  checker : Checker ω
  /-- Whether accounts are reconciled before each message. -/
  reconciles : Bool
  /-- Whoever knows whether background data is enabled. -/
  backgroundData : Option (ω → Bool)
  /-- What happens during a call, before it answers. -/
  during : Call → Act ω Unit

/-! ## Elementary actions -/

section

variable {ω α : Type}

/-- Writes an entry into the journal. -/
def record (e : Event) : Act ω Unit := modify fun s => { s with journal := e :: s.journal }

/-- Writes a line into the log. -/
def note (n : Notice) : Act ω Unit := record (.noted n)

/-- What the poller remembers. -/
def core : Act ω Core := return (← get).core

/-- The accounts tracked. -/
def registry : Act ω Registry := return (← core).registry

/-- The time. -/
def now : Act ω Int := return (← get).clock

/-- Changes what the poller remembers. -/
def modifyCore (f : Core → Core) : Act ω Unit := modify fun s => { s with core := f s.core }

/-- Changes reports of the accounts tracked. -/
def modifyRegistry (f : Registry → Registry) : Act ω Unit :=
  modifyCore fun c => { c with registry := f c.registry }

/-- Gives up the accounts tracked for others. -/
def replaceRegistry (r : Registry) : Act ω Unit := modifyCore (·.replaceRegistry r)

/-- Sets the wake timer. -/
def setTimer (w : Option Wake) : Act ω Unit := modify fun s => { s with timer := w }

/-- A result that may be a fault. -/
def resultOf (r : Except Fault α) : Act ω α :=
  match r with
  | .ok a => pure a
  | .error e => throw e

/-- Has a collaborator answer.  The account store writes a line into the log about what it
refuses. -/
def answer (reply : Reply ω α) : Act ω α := do
  let (r, w) := reply (← get).world
  modify fun s => { s with world := w }
  match r with
  | .ok a => return a
  | .error e => do
    if e.kind = .store then note (.storeFailed e)
    throw e

/-- Makes a call: it is recorded, and then happens what happens during it. -/
def Surroundings.call (env : Surroundings ω) (c : Call) : Act ω Unit := do
  record (.called c)
  env.during c

end

end MailSchedule

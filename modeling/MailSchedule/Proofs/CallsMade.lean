import MailSchedule.Proofs.Loading

/-!
# Calls of a kind

The journal tells which calls of a kind were made.  As long as collaborators make none of that kind
on their own, these are the calls that the poller makes itself, and what it does without making one
leaves them as they are.

Results:

* `callsOf`: the calls of a kind among events.
* `Surroundings.Tacit`: collaborators that make no call of a kind on their own.
* `Surroundings.Tacit.refresh_keeps`, `.rearm_keeps`, `.begun`: operations that make none.
-/

namespace MailSchedule

variable {ω : Type}

/-- The calls of a kind among events, in order. -/
def callsOf (kind : Call.Kind) (events : List Event) : List Call :=
  (calls events).filter (·.kind = kind)

theorem callsOf_cons {kind : Call.Kind} {e : Event} (h : ∀ c, e = .called c → c.kind ≠ kind)
    (events : List Event) : callsOf kind (e :: events) = callsOf kind events := by
  unfold callsOf calls
  cases e with
  | called c =>
    have hc : c.kind ≠ kind := h c rfl
    simp [hc]
  | _ => rfl

theorem callsOf_called {kind : Call.Kind} {c : Call} (h : c.kind = kind) (events : List Event) :
    callsOf kind (.called c :: events) = c :: callsOf kind events := by
  unfold callsOf calls
  simp [h]

theorem callsOf_reverse (kind : Call.Kind) (events : List Event) :
    callsOf kind events.reverse = (callsOf kind events).reverse := by
  unfold callsOf calls
  rw [List.filterMap_reverse, List.filter_reverse]

/-- While they are being called, collaborators make no call of a kind on their own. -/
def Surroundings.Tacit (env : Surroundings ω) (kind : Call.Kind) : Prop :=
  ∀ c s, callsOf kind ((env.during c).run s).2.journal = callsOf kind s.journal

namespace Surroundings.Tacit

variable {env : Surroundings ω} {kind : Call.Kind} (h : env.Tacit kind) (made : List Call)
include h

theorem called {c : Call} (hc : c.kind = kind) (s : System ω) :
    callsOf kind ((env.call c).run s).2.journal = c :: callsOf kind s.journal := by
  rw [run_call, h c, callsOf_called hc]

theorem call_keeps {c : Call} (hc : c.kind ≠ kind) :
    (env.call c).Keeps fun s => callsOf kind s.journal = made := by
  intro s hs
  rw [run_call, h c, callsOf_cons (by rintro _ ⟨rfl⟩; exact hc)]
  exact hs

omit h in
theorem note_keeps (n : Notice) :
    Act.Keeps (note n) fun s : System ω => callsOf kind s.journal = made := by
  intro s hs
  rw [run_note, callsOf_cons (by simp)]
  exact hs

omit h in
theorem answer_keeps {α : Type} (reply : Reply ω α) :
    (answer reply).Keeps fun s => callsOf kind s.journal = made :=
  .answer reply (note_keeps made) fun _ hs => hs

theorem informs (hkind : ∀ c : Call, c.Informing → c.kind ≠ kind) :
    env.Informs fun s => callsOf kind s.journal = made where
  note := note_keeps made
  call c hc := h.call_keeps made (hkind c hc)
  list := answer_keeps made _
  get _ := answer_keeps made _
  isSyncEnabled _ := answer_keeps made _

theorem refresh_keeps (hkind : ∀ c : Call, c.Informing → c.kind ≠ kind) :
    (refresh env).Keeps fun s => callsOf kind s.journal = made := by
  intro s hs
  have hload := (h.informs made hkind).load .forceReset (fun _ _ hs _ => hs)
    { s with core := { s.core with keepsakes := none :: s.core.keepsakes } } hs
  rw [run_refresh]
  revert hload
  rcases (load env .forceReset).run _ with ⟨r, s'⟩
  intro hload
  cases r with
  | ok _ => exact hload
  | error e => exact hload

theorem rearm_keeps (hkind : ∀ c : Call, c.Informing → c.kind ≠ kind) (harm : kind ≠ .arm)
    (hcancel : kind ≠ .cancelTimer) :
    (rearm env).Keeps fun s => callsOf kind s.journal = made := by
  have hload := (h.informs made hkind).load .fillIfEmpty fun _ _ hs _ => hs
  have hselect : Act.Keeps pickNext fun s : System ω => callsOf kind s.journal = made :=
    Act.Keeps.registry.bind fun _ => Act.Keeps.now.bind fun _ => .pure _
  have hset : ∀ time payload, (arm env time payload).Keeps fun s => callsOf kind s.journal = made :=
    Act.Keeps.arm (fun _ _ => h.call_keeps made harm.symm) fun _ _ hs => hs
  have hdisarm : (disarm env).Keeps fun s => callsOf kind s.journal = made :=
    (h.call_keeps made (c := .cancelTimer) hcancel.symm).bind fun _ => fun _ hs => hs
  refine hload.bind fun _ => hselect.bind fun selection => ?_
  cases selection.account with
  | none => exact hdisarm.bind fun _ => .pure _
  | some id =>
    exact (Act.Keeps.registry.bind fun _ => .pure _).bind fun _ =>
      (Act.Keeps.resultOf _).bind fun _ => (hset _ _).bind fun _ => .pure _

/-- Before the handler of a message starts accounts are reconciled, and no other call is made. -/
theorem begun (hkind : kind ≠ .reconcile) (m : Message) (s : System ω) :
    callsOf kind (s.begun env m).journal = callsOf kind s.journal := by
  have hreconcile : (reconcile env).Keeps fun s' => callsOf kind s'.journal = callsOf kind s.journal :=
    .ite ((h.call_keeps _ (c := .reconcile) hkind.symm).tryCatch fun _ => note_keeps _ _) (.pure _)
  show callsOf kind (.began m :: _) = _
  rw [callsOf_cons (by simp)]
  exact hreconcile s rfl

end Surroundings.Tacit

end MailSchedule

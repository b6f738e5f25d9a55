import MailSchedule.Proofs.Reading
import MailSchedule.Proofs.Rehearsing

/-!
# Payloads that nobody foresaw

Whatever octets the wake timer comes back with, a poller that is open goes on: it puts the message
of the payload into its queue, or that of the bare snapshot if the payload cannot be read.  There
are two exceptions.  An integer with too many digits, and accounts that are a value without entries
where a list is wanted, are faults of other kinds than an unreadable payload is.  They go to whoever
has woken the poller, and no message enters the queue.

Results:

* `Snapshot.entries_eq_error_iff`, `Snapshot.ofDocument_eq_noEntries_iff`: which documents have
  accounts without entries.
* `Snapshot.Unforeseen`, `Snapshot.unforeseen_iff`: the payloads that are no snapshots for one of
  the two reasons.
* `wake_unless_unforeseen`: what becomes of every payload.
-/

namespace MailSchedule

open MailSchedule.Decimal (Binary64)

/-- A value that counts as true and has no entries. -/
inductive Json.Value.Single : Value → Prop
  | bool : Single (.bool true)
  | int {i : Int} (h : i ≠ 0) : Single (.int i)
  | real {x : Binary64} (h : x.isZero = false) : Single (.real x)

namespace Snapshot

open MailSchedule.Json (Value)

/-! ## Kinds of fault -/

/-- A payload that cannot be read is one thing, an unforeseen problem another. -/
theorem DecodeError.fault_cases (e : DecodeError) :
    (e.fault.kind = .payload ∧ e.fault.isOwn = true) ∨
      (e.fault.kind ≠ .payload ∧ e.fault.isOwn = false ∧
        ((∃ n, e = .notDocument (.longInteger n)) ∨ ∃ v, e = .noEntries v)) := by
  cases e with
  | notText f => exact Or.inl ⟨rfl, rfl⟩
  | notDocument e =>
    cases e with
    | malformed problem before => exact Or.inl ⟨rfl, rfl⟩
    | longInteger n => exact Or.inr ⟨nofun, rfl, Or.inl ⟨n, rfl⟩⟩
  | notObject => exact Or.inl ⟨rfl, rfl⟩
  | invalidAccount v => exact Or.inl ⟨rfl, rfl⟩
  | invalidEntry v => exact Or.inl ⟨rfl, rfl⟩
  | noEntries v => exact Or.inr ⟨nofun, rfl, Or.inr ⟨v, rfl⟩⟩

/-! ## Parts of a document -/

theorem entries_eq_error_iff {v : Value} {e : DecodeError} :
    entries v = .error e ↔ v.Single ∧ e = .noEntries v := by
  constructor
  · intro h
    unfold entries at h
    split at h
    · rename_i hv
      cases v with
      | null => cases hv
      | bool b =>
        cases b with
        | false => cases hv
        | true =>
          cases h
          exact ⟨.bool, rfl⟩
      | int i =>
        cases h
        have hi : i ≠ 0 := by simpa [Value.holds] using hv
        exact ⟨.int hi, rfl⟩
      | real x =>
        cases h
        have hx : x.isZero = false := by simpa [Value.holds] using hv
        exact ⟨.real hx, rfl⟩
      | string cs => cases h
      | array vs => cases h
      | object ms => cases h
    · cases h
  · rintro ⟨hv, rfl⟩
    have hholds : v.holds = true := by
      cases hv with
      | bool => rfl
      | int hi => simpa [Value.holds] using hi
      | real hx => simpa [Value.holds] using hx
    unfold entries
    rw [if_pos hholds]
    cases hv <;> rfl

theorem readAccount_eq_error {v : Value} {e : DecodeError} (h : readAccount v = .error e) :
    e = .invalidAccount v := by
  cases v <;> cases h <;> rfl

theorem readAccount_isOk_iff {v : Value} :
    (∃ account, readAccount v = .ok account) ↔ ∃ i, v = .int i := by
  constructor
  · rintro ⟨account, h⟩
    cases v with
    | int i => exact ⟨i, rfl⟩
    | _ => cases h
  · rintro ⟨i, rfl⟩
    exact ⟨_, rfl⟩

theorem readEntry_eq_error {v : Value} {e : DecodeError} (h : readEntry v = .error e) :
    e = .invalidEntry v := by
  unfold readEntry at h
  split at h
  · cases h
  · cases h
    rfl

theorem mapM_readEntry_eq_error {vs : List Value} {e : DecodeError}
    (h : vs.mapM readEntry = .error e) : ∃ v, e = .invalidEntry v := by
  induction vs with
  | nil => cases h
  | cons v vs ih =>
    rw [List.mapM_cons] at h
    rcases bind_eq_error_iff.1 h with hv | ⟨p, -, h⟩
    · exact ⟨v, readEntry_eq_error hv⟩
    · rcases bind_eq_error_iff.1 h with hvs | ⟨ps, -, h⟩
      · exact ih hvs
      · cases h

/-! ## Documents -/

/-- Accounts without entries are noticed if the document is an object whose account, if there is
one, is an integer. -/
theorem ofDocument_eq_noEntries_iff {d v : Value} :
    ofDocument d = .error (.noEntries v) ↔
      ∃ ms, d = .object ms ∧ (∀ w ∈ Value.member? "account" ms, ∃ i, w = .int i) ∧
        Value.member? "accounts" ms = some v ∧ v.Single := by
  constructor
  · intro h
    cases d with
    | object ms =>
      refine ⟨ms, rfl, ?_⟩
      rcases bind_eq_error_iff.1 h with h | ⟨account, haccount, h⟩
      · cases readAccount_eq_error h
      rcases bind_eq_error_iff.1 h with h | ⟨listed, -, h⟩
      · obtain ⟨hv, heq⟩ := entries_eq_error_iff.1 h
        constructor
        · intro w hw
          rw [Option.mem_def.1 hw] at haccount
          exact readAccount_isOk_iff.1 ⟨account, haccount⟩
        · -- `null` stands for accounts that are missing, and it has entries
          cases hmember : Value.member? "accounts" ms with
          | none =>
            rw [hmember] at hv
            cases hv
          | some w =>
            rw [hmember] at hv heq
            cases heq
            exact ⟨rfl, hv⟩
      · rcases bind_eq_error_iff.1 h with h | ⟨pairs, -, h⟩
        · obtain ⟨w, hw⟩ := mapM_readEntry_eq_error h
          cases hw
        · cases h
    | _ => cases h
  · rintro ⟨ms, rfl, haccount, hmember, hv⟩
    have hint : ∃ i, (Value.member? "account" ms).getD (.int noAccount) = .int i := by
      cases hw : Value.member? "account" ms with
      | none => exact ⟨noAccount, rfl⟩
      | some w => exact haccount w hw
    obtain ⟨account, hread⟩ := readAccount_isOk_iff.2 hint
    refine bind_eq_error_iff.2 (Or.inr ⟨account, hread, bind_eq_error_iff.2 (Or.inl ?_)⟩)
    rw [hmember]
    exact entries_eq_error_iff.2 ⟨hv, rfl⟩

theorem ofDocument_ne_notDocument (d : Value) (e : Json.DocumentError) :
    ofDocument d ≠ .error (.notDocument e) := by
  intro h
  cases d with
  | object ms =>
    rcases bind_eq_error_iff.1 h with h | ⟨account, -, h⟩
    · cases readAccount_eq_error h
    rcases bind_eq_error_iff.1 h with h | ⟨listed, -, h⟩
    · cases (entries_eq_error_iff.1 h).2
    rcases bind_eq_error_iff.1 h with h | ⟨pairs, -, h⟩
    · obtain ⟨v, hv⟩ := mapM_readEntry_eq_error h
      cases hv
    · cases h
  | _ => cases h

/-! ## Payloads -/

/-- A payload that is no snapshot for a reason that nobody foresaw. -/
inductive Unforeseen (p : Payload) : Prop
  /-- The reader stops at an integer with too many digits. -/
  | longInteger {text : List Char} {n : Nat} (htext : Text.Utf8.decode p = .ok text)
      (hlong : Json.readDocument text = .error (.longInteger n))
  /-- The accounts are a value without entries, and nothing else is wrong before them. -/
  | noEntries {text : List Char} {ms : List (Text × Value)} {v : Value}
      (htext : Text.Utf8.decode p = .ok text) (hread : Json.readDocument text = .ok (.object ms))
      (haccount : ∀ w ∈ Value.member? "account" ms, ∃ i, w = .int i)
      (hmember : Value.member? "accounts" ms = some v) (hv : v.Single)

theorem readPayload_eq_ok_iff {p : Payload} {d : Value} :
    readPayload p = .ok d ↔
      ∃ text, Text.Utf8.decode p = .ok text ∧ Json.readDocument text = .ok d := by
  constructor
  · intro h
    obtain ⟨text, htext, h⟩ := exists_of_bind_ok h
    exact ⟨text, mapError_eq_ok_iff.1 htext, mapError_eq_ok_iff.1 h⟩
  · rintro ⟨text, htext, hread⟩
    unfold readPayload
    rw [mapError_eq_ok_iff.2 htext]
    exact mapError_eq_ok_iff.2 hread

theorem readPayload_eq_error_iff {p : Payload} {e : DecodeError} :
    readPayload p = .error e ↔
      (∃ f, Text.Utf8.decode p = .error f ∧ DecodeError.notText f = e) ∨
        ∃ text, Text.Utf8.decode p = .ok text ∧
          ∃ f, Json.readDocument text = .error f ∧ DecodeError.notDocument f = e := by
  unfold readPayload
  rw [bind_eq_error_iff, mapError_eq_error_iff]
  simp only [mapError_eq_ok_iff, mapError_eq_error_iff]

/-- A payload of some octets is no snapshot for what is wrong with its document, or with its
text. -/
theorem decode_eq_error_iff {p : Payload} (hp : p ≠ []) {e : DecodeError} :
    decode (some p) = .error e ↔
      readPayload p = .error e ∨ ∃ d, readPayload p = .ok d ∧ ofDocument d = .error e := by
  cases p with
  | nil => exact absurd rfl hp
  | cons b bs => exact bind_eq_error_iff

/-- No octets are no text of a document. -/
theorem Unforeseen.ne_nil {p : Payload} (h : Unforeseen p) : p ≠ [] := by
  rintro rfl
  cases h with
  | longInteger htext hlong =>
    cases htext
    cases hlong
  | noEntries htext hread =>
    cases htext
    cases hread

/-- A payload is unforeseen exactly if the problem with it is not of the kind expected. -/
theorem unforeseen_iff {p : Payload} :
    Unforeseen p ↔ ∃ e, decode (some p) = .error e ∧ e.fault.isOwn = false := by
  constructor
  · intro h
    have hp := h.ne_nil
    cases h with
    | @longInteger text n htext hlong =>
      have hpayload : readPayload p = .error (.notDocument (.longInteger n)) :=
        readPayload_eq_error_iff.2 (Or.inr ⟨text, htext, _, hlong, rfl⟩)
      exact ⟨_, (decode_eq_error_iff hp).2 (Or.inl hpayload), rfl⟩
    | @noEntries text ms v htext hread haccount hmember hv =>
      have hpayload : readPayload p = .ok (.object ms) :=
        readPayload_eq_ok_iff.2 ⟨text, htext, hread⟩
      have hdocument : ofDocument (.object ms) = .error (.noEntries v) :=
        ofDocument_eq_noEntries_iff.2 ⟨ms, rfl, haccount, hmember, hv⟩
      exact ⟨_, (decode_eq_error_iff hp).2 (Or.inr ⟨_, hpayload, hdocument⟩), rfl⟩
  · rintro ⟨e, h, hown⟩
    have hp : p ≠ [] := by
      rintro rfl
      cases h
    rcases e.fault_cases with ⟨-, hown'⟩ | ⟨-, -, ⟨n, rfl⟩ | ⟨v, rfl⟩⟩
    · rw [hown'] at hown
      cases hown
    · rcases (decode_eq_error_iff hp).1 h with h | ⟨d, -, h⟩
      · rcases readPayload_eq_error_iff.1 h with ⟨f, -, hf⟩ | ⟨text, htext, f, hlong, hf⟩
        · cases hf
        · cases hf
          exact .longInteger htext hlong
      · exact absurd h (ofDocument_ne_notDocument d _)
    · rcases (decode_eq_error_iff hp).1 h with h | ⟨d, hpayload, h⟩
      · rcases readPayload_eq_error_iff.1 h with ⟨f, -, hf⟩ | ⟨text, -, f, -, hf⟩
        · cases hf
        · cases hf
      · obtain ⟨text, htext, hread⟩ := readPayload_eq_ok_iff.1 hpayload
        obtain ⟨ms, rfl, haccount, hmember, hv⟩ := ofDocument_eq_noEntries_iff.1 h
        exact .noEntries htext hread haccount hmember hv

end Snapshot

/-! ## Being woken -/

variable {ω : Type}

/-- A poller that is open takes every message. -/
theorem run_submit {s : System ω} (hopen : s.core.closed = false) (m : Message) :
    (submit m).run s =
      (.ok (), { s with core := { s.core with queue := s.core.queue ++ [m] } }) := by
  unfold submit
  rw [Act.run_bind, run_core]
  dsimp only
  rw [if_neg (by rw [hopen]; exact Bool.false_ne_true)]
  rfl

/-- The message of a snapshot that is read enters the queue. -/
theorem run_wake_ok {s : System ω} (hopen : s.core.closed = false) {payload : Option Payload}
    {saved : Snapshot} (h : Snapshot.decode payload = .ok saved) :
    (wake payload).run s = (.ok (), { s with
      core := { s.core with queue := s.core.queue ++ [saved.message] } }) := by
  unfold wake
  rw [h]
  exact run_submit hopen saved.message

/-- A payload that cannot be read is noted, and counts as the bare snapshot. -/
theorem run_wake_unreadable {s : System ω} (hopen : s.core.closed = false)
    {payload : Option Payload} {e : Snapshot.DecodeError} (h : Snapshot.decode payload = .error e)
    (hown : e.fault.isOwn = true) :
    (wake payload).run s = (.ok (), { s with
      core := { s.core with queue := s.core.queue ++ [.checkRequested none (some {})] }
      journal := .noted (.undecodablePayload e.fault) :: s.journal }) := by
  have hsubmit := run_submit (s := { s with
    journal := .noted (.undecodablePayload e.fault) :: s.journal }) hopen
    (.checkRequested none (some {}))
  unfold wake
  rw [h]
  dsimp only
  rw [if_pos hown, Act.run_bind, run_note]
  exact hsubmit

/-- A fault that is not expected goes to the caller. -/
theorem run_wake_unforeseen (s : System ω) {payload : Option Payload} {e : Snapshot.DecodeError}
    (h : Snapshot.decode payload = .error e) (hown : e.fault.isOwn = false) :
    (wake payload).run s = (.error e.fault, s) := by
  unfold wake
  rw [h]
  dsimp only
  rw [if_neg (by rw [hown]; exact Bool.false_ne_true)]
  rfl

/-- An open poller that is woken puts one message into its queue: that of the payload, or that of
the bare snapshot if the payload cannot be read.  Only a payload with an integer that has too many
digits, or with accounts that are a value without entries, is a fault of another kind; it goes to
the caller and changes nothing. -/
theorem wake_unless_unforeseen (payload : Option Payload) {s : System ω}
    (hopen : s.core.closed = false) :
    ((∀ p ∈ payload, ¬ Snapshot.Unforeseen p) →
      (∃ saved, Snapshot.decode payload = .ok saved ∧
        (wake payload).run s = (.ok (), { s with
          core := { s.core with queue := s.core.queue ++ [saved.message] } })) ∨
      ∃ e, Snapshot.decode payload = .error e ∧ e.fault.kind = .payload ∧
        (wake payload).run s = (.ok (), { s with
          core := { s.core with queue := s.core.queue ++ [.checkRequested none (some {})] }
          journal := .noted (.undecodablePayload e.fault) :: s.journal })) ∧
    ∀ p ∈ payload, Snapshot.Unforeseen p →
      (∃ e, Snapshot.decode payload = .error e ∧ e.fault.kind ≠ .payload ∧
        (wake payload).run s = (.error e.fault, s)) ∧
      ∃ text, Text.Utf8.decode p = .ok text ∧
        ((∃ n, Json.maxDigits < n ∧ Json.HasRun n text) ∨
          ∃ ms v, Json.readDocument text = .ok (.object ms) ∧
            Json.Value.member? "accounts" ms = some v ∧ v.Single) := by
  constructor
  · intro hforeseen
    cases hdecode : Snapshot.decode payload with
    | ok saved => exact Or.inl ⟨saved, rfl, run_wake_ok hopen hdecode⟩
    | error e =>
      rcases e.fault_cases with ⟨hkind, hown⟩ | ⟨-, hown, -⟩
      · exact Or.inr ⟨e, rfl, hkind, run_wake_unreadable hopen hdecode hown⟩
      · cases payload with
        | none => cases hdecode
        | some p => exact absurd (Snapshot.unforeseen_iff.2 ⟨e, hdecode, hown⟩) (hforeseen p rfl)
  · intro p hp hunforeseen
    cases Option.mem_def.1 hp
    constructor
    · obtain ⟨e, hdecode, hown⟩ := Snapshot.unforeseen_iff.1 hunforeseen
      have hkind : e.fault.kind ≠ .payload := by
        rcases e.fault_cases with ⟨-, hown'⟩ | ⟨hkind, -, -⟩
        · rw [hown'] at hown
          cases hown
        · exact hkind
      exact ⟨e, hdecode, hkind, run_wake_unforeseen s hdecode hown⟩
    · cases hunforeseen with
      | @longInteger text n htext hlong =>
        exact ⟨text, htext, Or.inl ⟨n, Json.exists_long_run hlong⟩⟩
      | @noEntries text ms v htext hread haccount hmember hv =>
        exact ⟨text, htext, Or.inr ⟨ms, v, hread, hmember, hv⟩⟩

/-! ## Two payloads that are no snapshots -/

namespace Rehearsal

/-- A document that is no object. -/
def arrayPayload : Payload := Text.Utf8.encodeAscii "[]".toList

/-- A document whose accounts are a number. -/
def numberPayload : Payload := Text.Utf8.encodeAscii "\x7b\"accounts\":1\x7d".toList

/-- Whether reading ends with a fault of a kind that is the poller's own. -/
def failsOwn (payload : Payload) : Option Bool :=
  match Snapshot.decode (some payload) with
  | .ok _ => none
  | .error e => some e.fault.isOwn

/-- A document that is no object is put into the queue as the bare snapshot. -/
theorem wake_unless_unforeseen_array :
    ((wake (some arrayPayload)).run freshPoller).1 = .ok () ∧
      ((wake (some arrayPayload)).run freshPoller).2.core.queue =
        [.checkRequested none (some {})] := by
  have hown : failsOwn arrayPayload = some true := by decide +kernel
  unfold failsOwn at hown
  have hforeseen : ∀ p ∈ some arrayPayload, ¬ Snapshot.Unforeseen p := by
    rintro p ⟨⟩ h
    obtain ⟨e, hdecode, he⟩ := Snapshot.unforeseen_iff.1 h
    rw [hdecode] at hown
    rw [Option.some.inj hown] at he
    cases he
  rcases (wake_unless_unforeseen (some arrayPayload) (s := freshPoller) rfl).1 hforeseen with
    ⟨saved, hdecode, -⟩ | ⟨e, -, -, hrun⟩
  · rw [hdecode] at hown
    cases hown
  · rw [hrun]
    exact ⟨rfl, rfl⟩

/-- Accounts that are a number are neither read nor refused as unreadable, and whoever wakes the
poller with them meets a fault. -/
theorem wake_raises_number :
    (¬ ∀ payload : Option Payload, (∃ saved, Snapshot.decode payload = .ok saved) ∨
      ∃ e, Snapshot.decode payload = .error e ∧ e.fault.kind = .payload) ∧
    ¬ ∀ (payload : Option Payload) (s : System World), s.core.closed = false →
      ((wake payload).run s).1 = .ok () := by
  have hother : failsOwn numberPayload = some false := by decide +kernel
  unfold failsOwn at hother
  cases hdecode : Snapshot.decode (some numberPayload) with
  | ok saved =>
    rw [hdecode] at hother
    cases hother
  | error e =>
    rw [hdecode] at hother
    have hown : e.fault.isOwn = false := Option.some.inj hother
    constructor
    · intro hall
      rcases hall (some numberPayload) with ⟨saved, hsaved⟩ | ⟨e', he', hkind⟩
      · rw [hdecode] at hsaved
        cases hsaved
      · rw [hdecode] at he'
        cases he'
        unfold Fault.isOwn at hown
        rw [hkind] at hown
        cases hown
    · intro hall
      have hrun := hall (some numberPayload) freshPoller rfl
      rw [run_wake_unforeseen freshPoller hdecode hown] at hrun
      cases hrun

end Rehearsal

end MailSchedule

import MailSchedule.Proofs.Reading
import MailSchedule.Proofs.Unambiguous

/-!
# There and back

Snapshots come back from their payloads, and whatever was read from a payload is written and read
again without change.  The number that stands for no account is the one thing that does not come
back; it never comes out of a payload either.

Results:

* `Snapshot.ofDocument_readable`, `Snapshot.readable_of_decode`: what is read has integers that are
  read again, and does not name the number that stands for no account.
* `Snapshot.payload_round_trip`: both ways, and what follows for snapshots with one payload.
-/

namespace MailSchedule.Snapshot

open MailSchedule.Json (Value)

/-! ## Parts of a document -/

theorem readable_member {ms : List (Text × Value)} (h : ∀ m ∈ ms, m.2.Readable) (name : String)
    (default : Value) (hdefault : default.Readable) :
    ((Value.member? name ms).getD default).Readable := by
  unfold Value.member?
  cases hfind : ms.find? fun m => m.1 = Text.ofString name with
  | none => exact hdefault
  | some m => exact h m (List.mem_of_find?_eq_some hfind)

theorem readable_readAccount {v : Value} (hv : v.Readable) {account : Option Int}
    (h : readAccount v = .ok account) :
    (∀ id ∈ account, Json.Readable id) ∧ account ≠ some noAccount := by
  unfold readAccount at h
  split at h
  · rename_i i
    cases hv with
    | int hi =>
      by_cases hid : i = noAccount
      · rw [if_pos hid] at h
        cases h
        exact ⟨nofun, nofun⟩
      · rw [if_neg hid] at h
        cases h
        refine ⟨fun id hmem => ?_, fun heq => hid (Option.some.inj heq)⟩
        cases hmem
        exact hi
  · cases h

theorem readable_entries {v : Value} (hv : v.Readable) {vs : List Value} (h : entries v = .ok vs) :
    ∀ w ∈ vs, w.Readable := by
  unfold entries at h
  split at h
  · split at h
    · cases h
      cases hv with
      | array hvs => exact hvs
    · cases h
      intro w hw
      obtain ⟨c, -, rfl⟩ := List.mem_map.1 hw
      exact .string _
    · cases h
      intro w hw
      obtain ⟨m, -, rfl⟩ := List.mem_map.1 hw
      exact .string _
    · cases h
  · cases h
    exact nofun

theorem readable_readEntry {v : Value} (hv : v.Readable) {p : Int × Int}
    (h : readEntry v = .ok p) : Json.Readable p.1 ∧ Json.Readable p.2 := by
  unfold readEntry at h
  split at h
  · cases h
    cases hv with
    | array hvs =>
      cases hvs _ List.mem_cons_self with
      | int hid =>
        cases hvs _ (List.mem_cons_of_mem _ List.mem_cons_self) with
        | int hprev => exact ⟨hid, hprev⟩
  · cases h

theorem readable_mapM_readEntry {vs : List Value} (hvs : ∀ v ∈ vs, v.Readable)
    {pairs : List (Int × Int)} (h : vs.mapM readEntry = .ok pairs) :
    ∀ p ∈ pairs, Json.Readable p.1 ∧ Json.Readable p.2 := by
  induction vs generalizing pairs with
  | nil =>
    cases h
    exact nofun
  | cons v vs ih =>
    rw [List.mapM_cons] at h
    obtain ⟨p, hp, h⟩ := exists_of_bind_ok h
    obtain ⟨ps, hps, h⟩ := exists_of_bind_ok h
    cases h
    exact List.forall_mem_cons.2 ⟨readable_readEntry (hvs v List.mem_cons_self) hp,
      ih (fun w hw => hvs w (List.mem_cons_of_mem v hw)) hps⟩

/-! ## Snapshots that are read -/

/-- The snapshot of a document has the integers of the document. -/
theorem ofDocument_readable {d : Value} (hd : d.Readable) {s : Snapshot}
    (h : ofDocument d = .ok s) : s.Readable ∧ s.account ≠ some noAccount := by
  cases hd with
  | @object ms hms =>
    have haccount := readable_member hms "account" (.int noAccount) (.int (by decide))
    have haccounts := readable_member hms "accounts" .null .null
    obtain ⟨account, hread, h⟩ := exists_of_bind_ok h
    obtain ⟨listed, hlisted, h⟩ := exists_of_bind_ok h
    obtain ⟨pairs, hpairs, h⟩ := exists_of_bind_ok h
    cases h
    obtain ⟨hids, hnone⟩ := readable_readAccount haccount hread
    exact ⟨⟨hids, readable_mapM_readEntry (readable_entries haccounts hlisted) hpairs⟩, hnone⟩
  | _ => cases h

/-- What is read from a payload can be written so that it is read again. -/
theorem readable_of_decode {p : Option Payload} {s : Snapshot} (h : decode p = .ok s) :
    s.Readable ∧ s.account ≠ some noAccount := by
  have hbare : ({} : Snapshot).Readable ∧ ({} : Snapshot).account ≠ some noAccount :=
    ⟨⟨nofun, nofun⟩, nofun⟩
  match p, h with
  | none, h =>
    cases h
    exact hbare
  | some [], h =>
    cases h
    exact hbare
  | some (b :: bs), h =>
    obtain ⟨d, hd, h⟩ := exists_of_bind_ok h
    obtain ⟨text, -, hd⟩ := exists_of_bind_ok hd
    exact ofDocument_readable (Json.readDocument_readable (mapError_eq_ok_iff.1 hd)) h

/-- The number that stands for no account is the only one that is taken for another thing. -/
theorem getD_noAccount_inj {a b : Option Int} (ha : a ≠ some noAccount) (hb : b ≠ some noAccount)
    (h : a.getD noAccount = b.getD noAccount) : a = b := by
  cases a with
  | none =>
    cases b with
    | none => rfl
    | some id => exact absurd (congrArg some h.symm) hb
  | some id =>
    cases b with
    | none => exact absurd (congrArg some h) ha
    | some id' => exact congrArg some h

/-- A snapshot that can be written comes back from its payload, but for the number that stands for no
account.  What was read from any octets does not name that number, can be written, and comes back
from its payload unchanged.  No two snapshots have one payload, unless one of them names that
number. -/
theorem payload_round_trip :
    (∀ s : Snapshot, s.Readable → s.payload = .ok s.encode ∧
      decode (some s.encode) = .ok { s with account := s.account.filter (· ≠ noAccount) }) ∧
    (∀ (p : Option Payload) (s : Snapshot), decode p = .ok s →
      s.account ≠ some noAccount ∧ s.payload = .ok s.encode ∧ decode (some s.encode) = .ok s) ∧
    ∀ s t : Snapshot, s.account ≠ some noAccount → t.account ≠ some noAccount →
      s.encode = t.encode → s = t := by
  refine ⟨fun s hs => ⟨payload_of_readable hs, decode_encode hs⟩, fun p s hp => ?_,
    fun s t hs ht heq => ?_⟩
  · obtain ⟨hread, hnone⟩ := readable_of_decode hp
    have hback := decode_encode hread
    rw [filter_account hnone] at hback
    exact ⟨hnone, payload_of_readable hread, hback⟩
  · obtain ⟨haccount, hpairs, hwatchdog⟩ := encode_inj heq
    have hsame : s.account = t.account := getD_noAccount_inj hs ht haccount
    cases s
    cases t
    simp_all

/-! ## A payload with members that nobody asked for -/

/-- A document with blanks, a member that means nothing, and the number that stands for no
account. -/
def spacious : Payload :=
  Text.Utf8.encodeAscii " \x7b\"accounts\": [[7, -30]],\n\"note\": null, \"account\": -1\x7d ".toList

theorem payload_round_trip_spacious :
    decode (some spacious) = .ok { prevSyncTimes := [(7, -30)] } ∧
      decode (some (encode { prevSyncTimes := [(7, -30)] })) = .ok { prevSyncTimes := [(7, -30)] } ∧
      decode (some (encode { account := some (-1), prevSyncTimes := [(7, -30)] })) =
        .ok { prevSyncTimes := [(7, -30)] } ∧
      encode { account := some 7 } ≠ encode { account := some 7, watchdog := true } := by
  have hread : decode (some spacious) = .ok { prevSyncTimes := [(7, -30)] } := by
    have hsome : (decode (some spacious)).toOption = some { prevSyncTimes := [(7, -30)] } := by
      decide +kernel
    cases hdecode : decode (some spacious) with
    | error e =>
      rw [hdecode] at hsome
      cases hsome
    | ok s =>
      rw [hdecode] at hsome
      exact congrArg Except.ok (Option.some.inj hsome)
  obtain ⟨hforth, hback, hinj⟩ := payload_round_trip
  refine ⟨hread, (hback _ _ hread).2.2, ?_, fun heq => ?_⟩
  · exact (hforth { account := some (-1), prevSyncTimes := [(7, -30)] } ⟨by decide, by decide⟩).2
  · exact absurd (hinj _ _ (by decide) (by decide) heq) (by decide)

end MailSchedule.Snapshot

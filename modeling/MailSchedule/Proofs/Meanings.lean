import MailSchedule.Proofs.JsonTexts

/-!
# Payloads that mean the same

A payload is read by what its document means, and not by how it is spelled.  The members of the
object may stand in any order, those that say nothing new may be missing, and members with other
names may hold anything at all.  Every such text, in whichever of its forms, is read as the one
snapshot that its members tell.  The reader sets no bound on how deep values nest, and so there is
none here; integers have at most as many digits as the reader takes, which the texts see to.

Results:

* `Json.lastNamed`, `Json.member?_foldl`: the value of a name is that of the last member with it.
* `Snapshot.decode_of_documentText`: what is read from a text of a document is what is read from
  the document.
* `Snapshot.Tells`: the members that tell a snapshot.
* `Snapshot.decode_of_tells`: a snapshot is read from every text of members that tell it.
-/

namespace MailSchedule

namespace Json

/-! ## Members with a name -/

/-- The members with a name. -/
def named (name : String) (ms : List (Text × Value)) : List (Text × Value) :=
  ms.filter fun m => m.1 = Text.ofString name

/-- The value of the last member with a name. -/
def lastNamed (name : String) (ms : List (Text × Value)) : Option Value :=
  (named name ms).getLast?.map (·.2)

theorem member?_putMember (name : String) (n : Text) (v : Value) (ms : List (Text × Value)) :
    Value.member? name (Value.putMember n v ms) =
      if n = Text.ofString name then some v else Value.member? name ms := by
  unfold Value.member?
  induction ms with
  | nil =>
    rw [Value.putMember, List.find?_cons]
    by_cases hn : n = Text.ofString name <;> simp [hn]
  | cons m ms ih =>
    rw [Value.putMember]
    by_cases hm : m.1 = n
    · subst hm
      by_cases hn : m.1 = Text.ofString name <;> simp [hn]
    · rw [if_neg hm, List.find?_cons, List.find?_cons]
      by_cases hname : m.1 = Text.ofString name
      · have hn : n ≠ Text.ofString name := fun hn => hm (hname.trans hn.symm)
        simp [hname, hn]
      · simp only [hname, decide_false]
        exact ih

theorem lastNamed_cons (name : String) (m : Text × Value) (ms : List (Text × Value)) :
    lastNamed name (m :: ms) =
      (lastNamed name ms).or (if m.1 = Text.ofString name then some m.2 else none) := by
  unfold lastNamed named
  rw [List.filter_cons]
  by_cases hm : m.1 = Text.ofString name
  · rw [if_pos (by simpa using hm), if_pos hm, List.getLast?_cons]
    cases (ms.filter fun m => m.1 = Text.ofString name).getLast? <;> rfl
  · rw [if_neg (by simpa using hm), if_neg hm, Option.or_none]

/-- The value of a name is that of the last member with it. -/
theorem member?_foldl (name : String) (ms acc : List (Text × Value)) :
    Value.member? name (ms.foldl (fun acc m => Value.putMember m.1 m.2 acc) acc) =
      (lastNamed name ms).or (Value.member? name acc) := by
  induction ms generalizing acc with
  | nil => rfl
  | cons m ms ih =>
    rw [List.foldl_cons, ih, member?_putMember, lastNamed_cons, Option.or_assoc]
    by_cases hm : m.1 = Text.ofString name
    · rw [if_pos hm, if_pos hm, Option.some_or]
    · rw [if_neg hm, if_neg hm, Option.none_or]

theorem named_eq_self {name : String} {ms : List (Text × Value)}
    (h : ∀ m ∈ ms, m.1 = Text.ofString name) : named name ms = ms :=
  List.filter_eq_self.2 fun m hm => by simpa using h m hm

theorem named_eq_nil {name : String} {ms : List (Text × Value)}
    (h : ∀ m ∈ ms, m.1 ≠ Text.ofString name) : named name ms = [] :=
  List.filter_eq_nil_iff.2 fun m hm => by simpa using h m hm

theorem ne_name {n : Text} {name other : String} (h : n = Text.ofString other)
    (hne : other ≠ name) : n ≠ Text.ofString name :=
  fun heq => hne (Text.ofString_inj.1 (h.symm.trans heq))

/-- Where one member at most has a name, it does not matter in which order the members stand. -/
theorem lastNamed_of_perm {name : String} {ms before told after : List (Text × Value)}
    (horder : ms.Perm (before ++ (told ++ after))) (hlength : told.length ≤ 1)
    (htold : ∀ m ∈ told, m.1 = Text.ofString name)
    (hbefore : ∀ m ∈ before, m.1 ≠ Text.ofString name)
    (hafter : ∀ m ∈ after, m.1 ≠ Text.ofString name) :
    lastNamed name ms = told.getLast?.map (·.2) := by
  have hsplit : named name (before ++ (told ++ after)) =
      named name before ++ (named name told ++ named name after) := by
    unfold named
    rw [List.filter_append, List.filter_append]
  have hperm : (named name ms).Perm (named name (before ++ (told ++ after))) := horder.filter _
  rw [hsplit, named_eq_nil hbefore, named_eq_self htold, named_eq_nil hafter, List.nil_append,
    List.append_nil] at hperm
  have hnamed : named name ms = told := by
    match told, hlength with
    | [], _ => exact hperm.eq_nil
    | [m], _ => exact List.perm_singleton.1 hperm
  unfold lastNamed
  rw [hnamed]

end Json

namespace Snapshot

open Json (Value NumberText StringText UnitsText ValueText ItemsText MemberText MembersText
  DocumentText Blanks lastNamed)
open Decimal (Binary64)

/-! ## Texts of documents -/

/-- What is read from the octets of a text is what is read from the document it is a text of. -/
theorem decode_of_documentText {v : Value} {text : String} (h : DocumentText v text.toList) :
    decode (some (Octets.ofString text)) = ofDocument v := by
  have hread : readPayload (Octets.ofString text) = .ok v := by
    unfold readPayload
    rw [Text.Utf8.decode_ofString]
    show (Json.readDocument text.toList).mapError DecodeError.notDocument = _
    rw [Json.readDocument_of_text h]
    rfl
  cases hoctets : Octets.ofString text with
  | nil =>
    -- no octets are no document
    rw [hoctets] at hread
    cases hread
  | cons b bs =>
    rw [hoctets] at hread
    show (readPayload (b :: bs) >>= ofDocument) = _
    rw [hread]
    rfl

theorem ofDocument_ofMembers (ms : List (Text × Value)) :
    ofDocument (Value.ofMembers ms) =
      readAccount ((lastNamed "account" ms).getD (.int noAccount)) >>= fun account =>
      entries ((lastNamed "accounts" ms).getD .null) >>= fun listed =>
      listed.mapM readEntry >>= fun pairs =>
      pure {
        account
        prevSyncTimes := pairs
        watchdog := ((lastNamed "watchdog" ms).getD (.bool false)).holds } := by
  have hmember : ∀ name, Value.member? name
      (ms.foldl (fun acc m => Value.putMember m.1 m.2 acc) []) = lastNamed name ms := by
    intro name
    rw [Json.member?_foldl]
    exact Option.or_none
  rw [← hmember, ← hmember, ← hmember]
  rfl

/-! ## Members that tell a snapshot -/

/-- Members that tell the account: its number, or if there is none the number that stands for none
or nothing at all. -/
inductive TellsAccount : Option Int → List (Text × Value) → Prop
  | number (id : Int) : TellsAccount (some id) [("account", .int id)]
  | noNumber : TellsAccount none [("account", .int noAccount)]
  | absent : TellsAccount none []

/-- Members that tell the times: their pairs, or if there are none `null` or nothing at all. -/
inductive TellsTimes : List (Int × Int) → List (Text × Value) → Prop
  | pairs (ps : List (Int × Int)) : TellsTimes ps [("accounts", .array (ps.map pairValue))]
  | null : TellsTimes [] [("accounts", .null)]
  | absent : TellsTimes [] []

/-- Members that tell whether the wake is a watchdog. -/
inductive TellsWatchdog : Bool → List (Text × Value) → Prop
  | flag (b : Bool) : TellsWatchdog b [("watchdog", .bool b)]
  | absent : TellsWatchdog false []

/-- Members that tell a snapshot, in any order, with members of any other names among them. -/
inductive Tells (s : Snapshot) (ms : List (Text × Value)) : Prop
  | members {account times watchdog others : List (Text × Value)}
      (haccount : TellsAccount s.account account) (htimes : TellsTimes s.prevSyncTimes times)
      (hwatchdog : TellsWatchdog s.watchdog watchdog)
      (hothers : ∀ m ∈ others, m.1 ∉ (["account", "accounts", "watchdog"] : List Text))
      (horder : ms.Perm (account ++ (times ++ (watchdog ++ others)))) : Tells s ms

/-- The texts of an object with the given members. -/
inductive ObjectText (ms : List (Text × Value)) : List Char → Prop
  | braces {b₁ cs b₂ : List Char} (hb₁ : Blanks b₁) (hms : MembersText ms cs) (hb₂ : Blanks b₂) :
      ObjectText ms (b₁ ++ ('{' :: (cs ++ ['}']) ++ b₂))

theorem ObjectText.document {ms : List (Text × Value)} {cs : List Char} (h : ObjectText ms cs) :
    DocumentText (.ofMembers ms) cs := by
  cases h with
  | braces hb₁ hms hb₂ => exact .value hb₁ (.object hms) hb₂

/-! ### What they tell -/

theorem TellsAccount.named {account : Option Int} {ms : List (Text × Value)}
    (h : TellsAccount account ms) :
    ms.length ≤ 1 ∧ ∀ m ∈ ms, m.1 = Text.ofString "account" := by
  cases h <;> simp

theorem TellsTimes.named {times : List (Int × Int)} {ms : List (Text × Value)}
    (h : TellsTimes times ms) : ms.length ≤ 1 ∧ ∀ m ∈ ms, m.1 = Text.ofString "accounts" := by
  cases h <;> simp

theorem TellsWatchdog.named {watchdog : Bool} {ms : List (Text × Value)}
    (h : TellsWatchdog watchdog ms) : ms.length ≤ 1 ∧ ∀ m ∈ ms, m.1 = Text.ofString "watchdog" := by
  cases h <;> simp

theorem TellsAccount.read {account : Option Int} {ms : List (Text × Value)}
    (h : TellsAccount account ms) (hne : account ≠ some noAccount) :
    readAccount ((ms.getLast?.map (·.2)).getD (.int noAccount)) = .ok account := by
  cases h with
  | number id =>
    show (Except.ok (if id = noAccount then none else some id) : Except DecodeError _) = _
    rw [if_neg fun hid => hne (congrArg some hid)]
  | noNumber => rfl
  | absent => rfl

theorem TellsTimes.read {times : List (Int × Int)} {ms : List (Text × Value)}
    (h : TellsTimes times ms) :
    (entries ((ms.getLast?.map (·.2)).getD .null) >>= fun listed => listed.mapM readEntry) =
      .ok times := by
  cases h with
  | pairs =>
    show (entries (.array (times.map pairValue)) >>= fun listed => listed.mapM readEntry) = _
    rw [entries_pairs]
    exact mapM_readEntry times
  | null => rfl
  | absent => rfl

theorem TellsWatchdog.read {watchdog : Bool} {ms : List (Text × Value)}
    (h : TellsWatchdog watchdog ms) :
    Value.holds ((ms.getLast?.map (·.2)).getD (.bool false)) = watchdog := by
  cases h <;> rfl

/-- Each of the three names has the value that was told for it, wherever its member stands. -/
theorem Tells.lastNamed {s : Snapshot} {ms : List (Text × Value)} (h : Tells s ms) :
    ∃ account times watchdog, TellsAccount s.account account ∧
      TellsTimes s.prevSyncTimes times ∧ TellsWatchdog s.watchdog watchdog ∧
      Json.lastNamed "account" ms = account.getLast?.map (·.2) ∧
      Json.lastNamed "accounts" ms = times.getLast?.map (·.2) ∧
      Json.lastNamed "watchdog" ms = watchdog.getLast?.map (·.2) := by
  obtain @⟨account, times, watchdog, others, haccount, htimes, hwatchdog, hothers, horder⟩ := h
  obtain ⟨halength, ha⟩ := haccount.named
  obtain ⟨htlength, ht⟩ := htimes.named
  obtain ⟨hwlength, hw⟩ := hwatchdog.named
  have ho : ∀ name ∈ ["account", "accounts", "watchdog"], ∀ m ∈ others,
      m.1 ≠ Text.ofString name := by
    intro name hname m hm heq
    exact hothers m hm (heq ▸ List.mem_map_of_mem hname)
  refine ⟨account, times, watchdog, haccount, htimes, hwatchdog, ?_, ?_, ?_⟩
  · refine @Json.lastNamed_of_perm "account" ms [] account (times ++ (watchdog ++ others)) horder
      halength ha (List.forall_mem_nil _) fun m hm => ?_
    simp only [List.mem_append] at hm
    rcases hm with hm | hm | hm
    · exact Json.ne_name (ht m hm) (by decide)
    · exact Json.ne_name (hw m hm) (by decide)
    · exact ho _ (by decide) m hm
  · refine @Json.lastNamed_of_perm "accounts" ms account times (watchdog ++ others) horder
      htlength ht (fun m hm => Json.ne_name (ha m hm) (by decide)) fun m hm => ?_
    rcases List.mem_append.1 hm with hm | hm
    · exact Json.ne_name (hw m hm) (by decide)
    · exact ho _ (by decide) m hm
  · rw [← List.append_assoc] at horder
    refine @Json.lastNamed_of_perm "watchdog" ms (account ++ times) watchdog others horder
      hwlength hw (fun m hm => ?_) (ho _ (by decide))
    rcases List.mem_append.1 hm with hm | hm
    · exact Json.ne_name (ha m hm) (by decide)
    · exact Json.ne_name (ht m hm) (by decide)

/-- A snapshot is read from every text of members that tell it. -/
theorem decode_of_tells {s : Snapshot} (hs : s.account ≠ some noAccount)
    {ms : List (Text × Value)} (hms : Tells s ms) {text : String}
    (htext : ObjectText ms text.toList) : decode (some (Octets.ofString text)) = .ok s := by
  obtain ⟨account, times, watchdog, haccount, htimes, hwatchdog, h₁, h₂, h₃⟩ := hms.lastNamed
  have htimes := htimes.read
  rw [decode_of_documentText htext.document, ofDocument_ofMembers, h₁, h₂, h₃, haccount.read hs,
    hwatchdog.read]
  show (entries _ >>= fun listed => listed.mapM readEntry >>= fun pairs => pure _) = _
  rw [← bind_assoc, htimes]
  rfl

/-- A payload with its members out of order, one of them under a name with an escape, and with a
member that tells nothing. -/
def untidy : String :=
  " \x7b\"note\":[1e3, null],\r\n\"\\u0061ccount\" :-1,\t\"accounts\": [[7,-30]]\x7d\n"

/-- The members of that payload. -/
def untidyMembers : List (Text × Value) := [
  ("note", .array [.real (Binary64.nearest false 1 3), .null]),
  ("account", .int (-1)),
  ("accounts", .array [.array [.int 7, .int (-30)]])]

theorem tells_untidy : Tells { prevSyncTimes := [(7, -30)] } untidyMembers := by
  refine @Tells.members _ _ _ _ _ (untidyMembers.take 1) .noNumber (.pairs _) .absent (by decide) ?_
  exact (List.Perm.swap _ _ _).trans (.cons _ (.swap _ _ _))

theorem memberText_note :
    MemberText ("note", .array [.real (Binary64.nearest false 1 3), .null])
      "\"note\":[1e3, null]".toList := by
  have hname : StringText "note" "\"note\"".toList :=
    @Json.stringText_plain "note".toList (by simp [Json.IsPlain])
  have hexponent : Json.ExponentText (some 3) "e3".toList :=
    @Json.ExponentText.present 'e' false [] "3".toList (Or.inl rfl) .absent (by decide)
      (List.all_eq_true.1 rfl)
  have hreal : NumberText (.real (Binary64.nearest false 1 3)) "1e3".toList :=
    @NumberText.real false [] "1".toList [] [] _ _ .absent
      (.digits (by decide) (List.all_eq_true.1 rfl)) .absent hexponent (by decide)
  have hnull : ItemsText [.null] " null".toList :=
    @ItemsText.one .null " ".toList "null".toList [] (by decide)
      (@ValueText.word ("null".toList, .null) (by simp [Json.literals])) (by decide)
  have hitems : ItemsText [.real (Binary64.nearest false 1 3), .null] "1e3, null".toList :=
    @ItemsText.more _ _ _ [] _ [] _ (by decide) (.number hreal) (by decide) hnull
  exact @MemberText.named _ _ [] _ [] [] "[1e3, null]".toList [] (by decide) hname (by decide)
    (by decide) (.array hitems) (by decide)

theorem memberText_account :
    MemberText ("account", .int (-1)) "\r\n\"\\u0061ccount\" :-1".toList := by
  have hunits : UnitsText "account" "\\u0061ccount".toList :=
    @UnitsText.cons 97 _ "\\u0061".toList "ccount".toList (.number rfl)
      (@Json.unitsText_plain "ccount".toList (by simp [Json.IsPlain]))
  have hname : StringText "account" "\"\\u0061ccount\"".toList := .quoted hunits
  have hint : NumberText (.int (-1)) "-1".toList :=
    @NumberText.int true "-".toList "1".toList .present
      (.digits (by decide) (List.all_eq_true.1 rfl)) (by decide)
  exact @MemberText.named _ _ "\r\n".toList _ " ".toList [] _ [] (by decide) hname (by decide)
    (by decide) (.number hint) (by decide)

theorem memberText_accounts :
    MemberText ("accounts", .array [.array [.int 7, .int (-30)]])
      "\t\"accounts\": [[7,-30]]".toList := by
  have hname : StringText "accounts" "\"accounts\"".toList :=
    @Json.stringText_plain "accounts".toList (by simp [Json.IsPlain])
  have hid : NumberText (.int 7) "7".toList :=
    @NumberText.int false [] "7".toList .absent (.digits (by decide) (List.all_eq_true.1 rfl))
      (by decide)
  have htime : NumberText (.int (-30)) "-30".toList :=
    @NumberText.int true "-".toList "30".toList .present
      (.digits (by decide) (List.all_eq_true.1 rfl)) (by decide)
  have htimes : ItemsText [.int (-30)] "-30".toList :=
    @ItemsText.one _ [] _ [] (by decide) (.number htime) (by decide)
  have hpair : ItemsText [.int 7, .int (-30)] "7,-30".toList :=
    @ItemsText.more _ _ _ [] _ [] _ (by decide) (.number hid) (by decide) htimes
  have hitems : ItemsText [.array [.int 7, .int (-30)]] "[7,-30]".toList :=
    @ItemsText.one _ [] "[7,-30]".toList [] (by decide) (.array hpair) (by decide)
  exact @MemberText.named _ _ "\t".toList _ [] " ".toList "[[7,-30]]".toList [] (by decide) hname
    (by decide) (by decide) (.array hitems) (by decide)

theorem objectText_untidy : ObjectText untidyMembers untidy.toList :=
  @ObjectText.braces _ " ".toList _ "\n".toList (by decide)
    (.more memberText_note (.more memberText_account (.one memberText_accounts))) (by decide)

theorem decode_of_tells_untidy :
    decode (some (Octets.ofString untidy)) = .ok { prevSyncTimes := [(7, -30)] } :=
  decode_of_tells (by decide) tells_untidy objectText_untidy

end Snapshot

end MailSchedule

import IssueQuery.Proofs.Calendar.Reader
import IssueQuery.Proofs.Issue.Flaws
import IssueQuery.Proofs.Json.Depth
import IssueQuery.Tracker.Remote

namespace IssueQuery.Remote

open Calendar (Reader)
open Document (frames usualRoom)
open IssuePayload (Dated Flaw issue itemsOrNone issue_flaws)
open Outcome (FailsBy)

def Lists (top : OrderedMap Json) (listed : List Json) : Prop :=
  Json.member top "issues" = .list listed ∨ (Json.member top "issues").isTruthy = false ∧ listed = []

def ReadsAs (r : Reader) (room : Nat) (listed : List Json) (issues : List RawIssue) : Prop :=
  List.Forall₂ (fun v i => issue r room v = .ok i) listed issues

/-- A reply holds a result if it is no failure and all that it lists are issues. -/
inductive Finds (r : Reader) (room : Nat) (q : Query) : Reply → SearchResult Json → Prop
  | response {status : Int} {body : String} {top : OrderedMap Json} {listed : List Json}
      {issues : List RawIssue} : status < firstFailure → Json.read body = .ok (.object top) →
      Lists top listed → ReadsAs r room listed issues →
      Finds r room q (.response status body)
        ⟨issues, q.text, (Total.ofJson? (Json.member top "total")).getD (.count issues.length)⟩

inductive TooDeep : Reply → Bool → Prop
  | response {status : Int} {body : String} {isObject : Bool} : status < firstFailure →
      Json.read body = .error (.tooDeep isObject) → TooDeep (.response status body) isObject

/-- Some issues of a reply are read, and then one has a description for which there is no room. -/
inductive LacksRoom (r : Reader) (room : Nat) : Reply → Prop
  | response {status : Int} {body : String} {top fields : OrderedMap Json} {before after : List Json} {v : Json}
      {issues : List RawIssue} : status < firstFailure → Json.read body = .ok (.object top) →
      Lists top (before ++ v :: after) → ReadsAs r room before issues → Dated r v fields →
      room < frames (Json.member fields "description") → LacksRoom r room (.response status body)

def Reply.failureStatus : Reply → Option Int
  | .refused status _ => status
  | .response status _ => if status ≥ firstFailure then some status else none
  | _ => none

/-- A search makes the fault its own. -/
def IsCaught (fault : Fault) : Prop :=
  ∃ c ∈ caught, fault.isA c = true

variable {r : Reader} {room : Nat}

theorem isCaught_iff {fault : Fault} :
    IsCaught fault ↔ fault.isA .value = true ∨ fault.isA .attribute = true ∨ fault.isA .type = true := by
  simp [IsCaught, caught]

theorem isCaught_of_flaw (hr : r.FailsByValue) {fault : Fault} (h : Flaw r fault) : IsCaught fault := by
  rw [isCaught_iff]
  cases h with
  | noMembers kind => exact .inr (.inl rfl)
  | noItems kind => exact .inr (.inr rfl)
  | incomplete key => exact .inl rfl
  | reader hv => exact (hr _ _ hv).imp_right .inr

section Bodies

variable (r room) in
theorem mapM_issue_texts {ss : List String} (h : ss ≠ []) :
    (ss.map Json.text).mapM (issue r room) = .error (.noMembers "str") := by
  cases ss with
  | nil => exact absurd rfl h
  | cons s ss =>
    rw [List.map_cons, List.mapM_cons]
    rfl

theorem itemsOrNone_of_lists {top : OrderedMap Json} {listed : List Json} (h : Lists top listed) :
    itemsOrNone (Json.member top "issues") = .ok listed := by
  rw [itemsOrNone]
  rcases h with h | ⟨h, rfl⟩
  · rw [h]
    cases listed <;> rfl
  · rw [h]
    rfl

variable (r room) in
theorem mapM_issue_of_not_lists {top : OrderedMap Json} (h : ∀ listed, ¬Lists top listed) :
    ∃ fault, (itemsOrNone (Json.member top "issues") >>= (·.mapM (issue r room))) = .error fault ∧
      fault ≠ .stackOverflow := by
  -- The characters of a text and the names of an object are no issues.
  unfold Lists at h
  generalize Json.member top "issues" = v at h
  have ht : v.isTruthy = true := by
    by_contra hfalse
    exact h [] (.inr ⟨by simpa using hfalse, rfl⟩)
  rw [itemsOrNone, if_pos ht]
  cases v with
  | list vs => exact absurd (.inl rfl) (h vs)
  | text s =>
    refine ⟨.noMembers "str", ?_, by simp⟩
    have hne : s.toList.map Char.toString ≠ [] := by
      simpa [Json.isTruthy] using ht
    have htexts := mapM_issue_texts r room hne
    rwa [List.map_map] at htexts
  | object members =>
    refine ⟨.noMembers "str", ?_, by simp⟩
    have hne : members.map (·.1) ≠ [] := by
      simpa [Json.isTruthy] using ht
    have htexts := mapM_issue_texts r room hne
    rwa [List.map_map] at htexts
  | _ => exact ⟨.noItems _, rfl, by simp⟩

theorem listed_iff {top : OrderedMap Json} {issues : List RawIssue} :
    (itemsOrNone (Json.member top "issues") >>= (·.mapM (issue r room))) = .ok issues ↔
      ∃ listed, Lists top listed ∧ ReadsAs r room listed issues := by
  constructor
  · intro h
    by_cases hl : ∃ listed, Lists top listed
    · obtain ⟨listed, hl⟩ := hl
      rw [itemsOrNone_of_lists hl] at h
      exact ⟨listed, hl, Outcome.mapM_eq_ok_iff.mp h⟩
    · obtain ⟨fault, hf, -⟩ := mapM_issue_of_not_lists r room (not_exists.mp hl)
      rw [hf] at h
      cases h
  · rintro ⟨listed, hl, hr⟩
    rw [itemsOrNone_of_lists hl]
    exact Outcome.mapM_eq_ok_iff.mpr hr

theorem listed_stackOverflow_iff {top : OrderedMap Json} :
    (itemsOrNone (Json.member top "issues") >>= (·.mapM (issue r room))) = .error .stackOverflow ↔
      ∃ before v after issues fields, Lists top (before ++ v :: after) ∧ ReadsAs r room before issues ∧
        Dated r v fields ∧ room < frames (Json.member fields "description") := by
  constructor
  · intro h
    by_cases hl : ∃ listed, Lists top listed
    · obtain ⟨listed, hl⟩ := hl
      rw [itemsOrNone_of_lists hl] at h
      obtain ⟨before, v, after, rfl, hbefore, hv⟩ := Outcome.mapM_eq_error_iff.mp h
      obtain ⟨issues, hissues⟩ := Outcome.exists_mapM_iff.mpr hbefore
      obtain ⟨fields, hdated, hroom⟩ := IssuePayload.issue_stackOverflow_iff.mp hv
      exact ⟨before, v, after, issues, fields, hl, Outcome.mapM_eq_ok_iff.mp hissues, hdated, hroom⟩
    · obtain ⟨fault, hf, hne⟩ := mapM_issue_of_not_lists r room (not_exists.mp hl)
      exact absurd (Except.error.inj (hf.symm.trans h)) hne
  · rintro ⟨before, v, after, issues, fields, hl, hbefore, hdated, hroom⟩
    rw [itemsOrNone_of_lists hl]
    refine Outcome.mapM_eq_error_iff.mpr ⟨before, v, after, rfl, ?_, ?_⟩
    · exact Outcome.exists_mapM_iff.mp ⟨issues, Outcome.mapM_eq_ok_iff.mpr hbefore⟩
    · exact IssuePayload.issue_stackOverflow_iff.mpr ⟨fields, hdated, hroom⟩

theorem readBody_object {body : String} {top : OrderedMap Json} (h : Json.read body = .ok (.object top)) :
    readBody r room body = do
      let issues ← itemsOrNone (Json.member top "issues") >>= (·.mapM (issue r room))
      return (issues, top) := by
  rw [readBody, h, bind_assoc]
  rfl

theorem readBody_ok_iff {body : String} {issues : List RawIssue} {top : OrderedMap Json} :
    readBody r room body = .ok (issues, top) ↔
      ∃ listed, Json.read body = .ok (.object top) ∧ Lists top listed ∧ ReadsAs r room listed issues := by
  constructor
  · intro h
    cases hb : Json.read body with
    | error f => rw [readBody, hb] at h; cases h
    | ok payload =>
      cases payload with
      | object members =>
        rw [readBody_object hb] at h
        obtain ⟨found, hfound, h⟩ := Outcome.of_bind h
        obtain ⟨rfl, rfl⟩ := Prod.mk.inj (Except.ok.inj h)
        obtain ⟨listed, hl, hr⟩ := listed_iff.mp hfound
        exact ⟨listed, rfl, hl, hr⟩
      | _ => rw [readBody, hb] at h; cases h
  · rintro ⟨listed, hb, hl, hr⟩
    rw [readBody_object hb, listed_iff.mpr ⟨listed, hl, hr⟩]
    rfl

theorem readBody_fails (body : String) :
    FailsBy (fun fault => (Flaw r fault ∨ fault = .stackOverflow) ∨
      ∃ f, Json.read body = .error f ∧ fault = .unreadable f) (readBody r room body) := by
  cases hb : Json.read body with
  | error f =>
    rw [readBody, hb]
    exact .error (.inr ⟨f, rfl, rfl⟩)
  | ok payload =>
    have hread : FailsBy (fun fault => Flaw r fault ∨ fault = .stackOverflow) (readBody r room body) := by
      rw [readBody, hb]
      refine ((IssuePayload.members_flaws payload).imp fun _ => .inl).bind fun top => ?_
      refine ((IssuePayload.itemsOrNone_flaws _).imp fun _ => .inl).bind fun listed => ?_
      exact (FailsBy.mapM (issue_flaws room) listed).bind fun issues => .ok (issues, top)
    exact hread.imp fun fault h => .inl h

theorem readBody_stackOverflow_iff {body : String} {status : Int} (h : status < firstFailure) :
    readBody r room body = .error .stackOverflow ↔ LacksRoom r room (.response status body) := by
  constructor
  · intro he
    cases hb : Json.read body with
    | error f => rw [readBody, hb] at he; cases he
    | ok payload =>
      cases payload with
      | object top =>
        rw [readBody_object hb] at he
        rcases Outcome.bind_eq_error_iff.mp he with he | ⟨found, -, he⟩
        · obtain ⟨before, v, after, issues, fields, hl, hbefore, hdated, hroom⟩ := listed_stackOverflow_iff.mp he
          exact .response h hb hl hbefore hdated hroom
        · cases he
      | _ => rw [readBody, hb] at he; cases he
  · intro hlacks
    cases hlacks with
    | response hs hb hl hbefore hdated hroom =>
      rw [readBody_object hb, listed_stackOverflow_iff.mpr ⟨_, _, _, _, _, hl, hbefore, hdated, hroom⟩]
      rfl

end Bodies

section Searches

variable {q : Query} {status : Int} {body : String}

theorem search_response (h : status < firstFailure) :
    search r room q (.response status body) =
      match readBody r room body with
      | .ok (issues, top) =>
        .ok ⟨issues, q.text, (Total.ofJson? (Json.member top "total")).getD (.count issues.length)⟩
      | .error fault =>
        if caught.any fault.isA then .error (.transport (.unreadableReply fault.message)) else .error fault :=
  if_neg (Int.not_le.mpr h)

theorem search_of_caught (h : status < firstFailure) {fault : Fault} (hb : readBody r room body = .error fault)
    (hc : IsCaught fault) :
    search r room q (.response status body) = .error (.transport (.unreadableReply fault.message)) := by
  rw [search_response h, hb]
  exact if_pos (List.any_eq_true.mpr hc)

theorem search_of_not_caught (h : status < firstFailure) {fault : Fault} (hb : readBody r room body = .error fault)
    (hc : ¬IsCaught fault) : search r room q (.response status body) = .error fault := by
  rw [search_response h, hb]
  exact if_neg fun hany => hc (List.any_eq_true.mp hany)

theorem readBody_caught (hr : r.FailsByValue) (h : status < firstFailure) {fault : Fault}
    (hb : readBody r room body = .error fault) :
    IsCaught fault ∨ ¬IsCaught fault ∧
      ((∃ isObject, TooDeep (.response status body) isObject ∧ fault = .unreadable (.tooDeep isObject)) ∨
        LacksRoom r room (.response status body) ∧ fault = .stackOverflow) := by
  rcases readBody_fails body fault hb with (hf | rfl) | ⟨f, hread, rfl⟩
  · exact .inl (isCaught_of_flaw hr hf)
  · refine .inr ⟨?_, .inr ⟨(readBody_stackOverflow_iff h).mp hb, rfl⟩⟩
    simp [isCaught_iff, Fault.isA, Fault.classes]
  · cases f with
    | tooDeep isObject =>
      refine .inr ⟨?_, .inl ⟨isObject, .response h hread, rfl⟩⟩
      simp [isCaught_iff, Fault.isA, Fault.classes]
    | malformed problem line column position => exact .inl (isCaught_iff.mpr (.inl rfl))
    | longInteger digits => exact .inl (isCaught_iff.mpr (.inl rfl))

variable (room) in
theorem search_cases (hr : r.FailsByValue) (q : Query) (reply : Reply) :
    (∃ found, Finds r room q reply found ∧ search r room q reply = .ok found) ∨
      (∃ cause, cause.status = reply.failureStatus ∧ search r room q reply = .error (.transport cause)) ∨
      (∃ isObject, TooDeep reply isObject ∧ search r room q reply = .error (.unreadable (.tooDeep isObject))) ∨
      LacksRoom r room reply ∧ search r room q reply = .error .stackOverflow := by
  cases reply with
  | response status body =>
    by_cases hs : status < firstFailure
    · have hstatus : (Reply.response status body).failureStatus = none := if_neg (Int.not_le.mpr hs)
      cases hb : readBody r room body with
      | ok found =>
        obtain ⟨issues, top⟩ := found
        obtain ⟨listed, hread, hl, hissues⟩ := readBody_ok_iff.mp hb
        refine .inl ⟨_, .response hs hread hl hissues, ?_⟩
        rw [search_response hs, hb]
      | error fault =>
        rcases readBody_caught hr hs hb with hc | ⟨hc, ⟨isObject, hdeep, rfl⟩ | ⟨hlacks, rfl⟩⟩
        · exact .inr (.inl ⟨.unreadableReply fault.message, hstatus.symm, search_of_caught hs hb hc⟩)
        · exact .inr (.inr (.inl ⟨isObject, hdeep, search_of_not_caught hs hb hc⟩))
        · exact .inr (.inr (.inr ⟨hlacks, search_of_not_caught hs hb hc⟩))
    · have hfailure : firstFailure ≤ status := Int.not_lt.mp hs
      have hstatus : (Reply.response status body).failureStatus = some status := if_pos hfailure
      exact .inr (.inl ⟨.searchFailed (some status) _, hstatus.symm, if_pos hfailure⟩)
  | _ => exact .inr (.inl ⟨_, rfl, rfl⟩)

theorem search_of_finds {reply : Reply} {found : SearchResult Json} (h : Finds r room q reply found) :
    search r room q reply = .ok found := by
  cases h with
  | response hs hread hl hissues =>
    rw [search_response hs, readBody_ok_iff.mpr ⟨_, hread, hl, hissues⟩]

theorem search_tooDeep {reply : Reply} {isObject : Bool} (h : TooDeep reply isObject) :
    search r room q reply = .error (.unreadable (.tooDeep isObject)) := by
  cases h with
  | @response status body _ hs hread =>
    have hb : readBody r room body = .error (.unreadable (.tooDeep isObject)) := by
      rw [readBody, hread]
      rfl
    exact search_of_not_caught hs hb (by simp [isCaught_iff, Fault.isA, Fault.classes])

theorem search_lacksRoom {reply : Reply} (h : LacksRoom r room reply) :
    search r room q reply = .error .stackOverflow := by
  have hlacks := h
  cases h with
  | response hs hread hl hbefore hdated hroom =>
    exact search_of_not_caught hs ((readBody_stackOverflow_iff hs).mpr hlacks)
      (by simp [isCaught_iff, Fault.isA, Fault.classes])

theorem search_ok_iff (hr : r.FailsByValue) {reply : Reply} {found : SearchResult Json} :
    search r room q reply = .ok found ↔ Finds r room q reply found := by
  refine ⟨fun h => ?_, search_of_finds⟩
  rcases search_cases room hr q reply with ⟨result, hfound, he⟩ | ⟨cause, -, he⟩ | ⟨isObject, -, he⟩ | ⟨-, he⟩
  all_goals rw [he] at h
  · obtain rfl := Except.ok.inj h
    exact hfound
  · cases h
  · cases h
  · cases h

end Searches

def datedMembers : OrderedMap Json :=
  [("key", .text "K"), ("fields", .object [("created", .int 1), ("updated", .int 1)])]

def datedBody : String :=
  "\x7b\"issues\":[\x7b\"key\":\"K\",\"fields\":\x7b\"created\":1,\"updated\":1\x7d\x7d]\x7d"

theorem read_datedBody : Json.read datedBody = .ok (.object [("issues", .list [.object datedMembers])]) := by
  have hnumber (c : Char) (rest : List Char) (h : c = ',' ∨ c = '\x7d') :
      Json.readScalar Number.maxDigits ('1' :: c :: rest) = .ok (.int 1, c :: rest) := by
    rcases h with rfl | rfl <;>
      simp [Json.readScalar, Json.readLiteral?, Json.literals, Text.dropPrefix?, Json.readNumber?,
        Json.wholeDigits?, Json.digitsOf, Text.isAsciiDigit, Json.fractionDigits, Json.exponentPart,
        Number.isExponentMark, Number.maxDigits, Number.asciiValue]
  simp [datedBody, datedMembers, Json.read, Json.readWithin, Json.readAll, Json.Limits.standard, Json.readValue,
    Json.readItems, Json.readMembers, Json.maxDepth, Json.skipSpace, Json.isSpace, Json.readText, OrderedMap.put,
    Except.map, Except.mapError, hnumber]

theorem issue_datedMembers : ∃ i, issue .standard usualRoom (.object datedMembers) = .ok i :=
  ⟨_, rfl⟩

/-- A search has all issues that a reply lists or a fault of its own with the status of the failure, unless
the values of the body lie too deep inside each other, or those of a description in it do: faults of these kinds
it does not make its own. -/
theorem search_answers {r : Reader} (hr : r.FailsByValue) (room : Nat) (q : Query) (reply : Reply) :
    (∀ found, search r room q reply = .ok found ↔ Finds r room q reply found) ∧
      (∀ fault, search r room q reply = .error fault →
        (∃ cause, fault = .transport cause ∧ cause.status = reply.failureStatus) ∨
          (∃ isObject, TooDeep reply isObject ∧ fault = .unreadable (.tooDeep isObject)) ∨
          LacksRoom r room reply ∧ fault = .stackOverflow) ∧
      (∀ isObject, TooDeep reply isObject → search r room q reply = .error (.unreadable (.tooDeep isObject))) ∧
      (LacksRoom r room reply → search r room q reply = .error .stackOverflow) ∧
      ∀ status body fault, reply = .response status body → status < firstFailure →
        readBody r room body = .error fault →
        (IsCaught fault ∧ search r room q reply = .error (.transport (.unreadableReply fault.message))) ∨
          ¬IsCaught fault ∧ ((∃ isObject, TooDeep reply isObject ∧ fault = .unreadable (.tooDeep isObject)) ∨
            LacksRoom r room reply ∧ fault = .stackOverflow) := by
  refine ⟨fun _ => search_ok_iff hr, fun fault h => ?_, fun _ => search_tooDeep, search_lacksRoom, ?_⟩
  · rcases search_cases room hr q reply with ⟨found, -, he⟩ | ⟨cause, hstatus, he⟩ |
      ⟨isObject, hdeep, he⟩ | ⟨hlacks, he⟩
    all_goals rw [he] at h
    · cases h
    · exact .inl ⟨cause, (Except.error.inj h).symm, hstatus⟩
    · exact .inr (.inl ⟨isObject, hdeep, (Except.error.inj h).symm⟩)
    · exact .inr (.inr ⟨hlacks, (Except.error.inj h).symm⟩)
  · rintro status body fault rfl hs hb
    exact (readBody_caught hr hs hb).imp_left fun hc => ⟨hc, search_of_caught hs hb hc⟩

theorem search_answers_dated :
    Reader.standard.FailsByValue ∧ ∃ i, issue .standard usualRoom (.object datedMembers) = .ok i ∧
      search .standard usualRoom ⟨"q", none⟩ (.response 200 datedBody) = .ok ⟨[i], "q", .count 1⟩ := by
  have hr := Calendar.Reader.failsByValue_standard
  obtain ⟨i, hi⟩ := issue_datedMembers
  have hfinds : Finds .standard usualRoom ⟨"q", none⟩ (.response 200 datedBody) ⟨[i], "q", .count 1⟩ :=
    .response (by decide) read_datedBody (.inl rfl) (.cons hi .nil)
  exact ⟨hr, i, hi, ((search_answers hr usualRoom _ _).1 _).mpr hfinds⟩

theorem deepReply_not_reported :
    let body := String.ofList (Json.opened 1200 ++ List.replicate 1200 ']')
    search .standard usualRoom ⟨"q", none⟩ (.response 200 body) = .error (.unreadable (.tooDeep false)) ∧
      ¬∀ q reply, (∃ found, search .standard usualRoom q reply = .ok found) ∨
        ∃ cause, search .standard usualRoom q reply = .error (.transport cause) := by
  intro body
  have hread : Json.read body = .error (.tooDeep false) :=
    Json.read_tooDeep (by decide) (List.replicate 1200 ']')
  have hsearch : search .standard usualRoom ⟨"q", none⟩ (.response 200 body) =
      .error (.unreadable (.tooDeep false)) :=
    search_tooDeep (.response (by decide) hread)
  refine ⟨hsearch, fun h => ?_⟩
  rcases h ⟨"q", none⟩ (.response 200 body) with ⟨found, hfound⟩ | ⟨cause, hc⟩
  · rw [hsearch] at hfound
    cases hfound
  · rw [hsearch] at hc
    cases hc

section Lookups

variable {key : String} {members : OrderedMap Json} {fault : Fault}

theorem fetch_ok {i : RawIssue} (h : issue r room (.object members) = .ok i) :
    fetch r room key (.found (.object members)) = .ok (some i) := by
  rw [fetch, h]

theorem fetch_error (h : issue r room (.object members) = .error fault) :
    fetch r room key (.found (.object members)) =
      .error (if fault.isA .value then .transport (.unreadableIssue key fault.message) else fault) := by
  rw [fetch, h]
  cases hv : fault.isA .value <;> simp [hv]

theorem fetch_cases (r : Reader) (room : Nat) (key : String) (lookup : Lookup Json) :
    (∃ text, lookup = .refused (some notFound) text ∧ fetch r room key lookup = .ok none) ∨
      (∃ i, fetch r room key lookup = .ok (some i)) ∨ (∃ cause, fetch r room key lookup = .error (.transport cause)) ∨
      ∃ members fault, lookup = .found (.object members) ∧ issue r room (.object members) = .error fault ∧
        fault.isA .value = false ∧ fetch r room key lookup = .error fault := by
  cases lookup with
  | refused status text =>
    by_cases hs : status = some notFound
    · subst hs
      exact .inl ⟨text, rfl, rfl⟩
    · exact .inr (.inr (.inl ⟨_, if_neg fun h => hs (eq_of_beq h)⟩))
  | found v =>
    cases v with
    | object members =>
      cases hi : issue r room (.object members) with
      | ok i => exact .inr (.inl ⟨i, fetch_ok hi⟩)
      | error fault =>
        have hfetch : fetch r room key (.found (.object members)) = _ := fetch_error hi
        cases hv : fault.isA .value with
        | true =>
          rw [if_pos hv] at hfetch
          exact .inr (.inr (.inl ⟨_, hfetch⟩))
        | false =>
          rw [if_neg (by simp [hv])] at hfetch
          exact .inr (.inr (.inr ⟨members, fault, rfl, hi, hv, hfetch⟩))
    | _ => exact .inr (.inr (.inl ⟨_, rfl⟩))

theorem fetch_none_iff {lookup : Lookup Json} :
    fetch r room key lookup = .ok none ↔ ∃ text, lookup = .refused (some notFound) text := by
  constructor
  · intro h
    rcases fetch_cases r room key lookup with ⟨text, hl, -⟩ | ⟨i, he⟩ | ⟨cause, he⟩ | ⟨members, fault, -, -, -, he⟩
    · exact ⟨text, hl⟩
    all_goals
      rw [he] at h
      cases h
  · rintro ⟨text, rfl⟩
    rfl

theorem fetch_fails {lookup : Lookup Json} (h : fetch r room key lookup = .error fault) :
    (∃ cause, fault = .transport cause) ∨
      ∃ members, lookup = .found (.object members) ∧ issue r room (.object members) = .error fault ∧
        fault.isA .value = false ∧
        (r.FailsByValue → fault.isA .attribute = true ∨ fault.isA .type = true ∨ fault = .stackOverflow) := by
  rcases fetch_cases r room key lookup with ⟨text, -, he⟩ | ⟨i, he⟩ | ⟨cause, he⟩ | ⟨members, flaw, hl, hi, hv, he⟩
  all_goals rw [he] at h
  · cases h
  · cases h
  · exact .inl ⟨cause, (Except.error.inj h).symm⟩
  · obtain rfl := Except.error.inj h
    refine .inr ⟨members, hl, hi, hv, fun hr => ?_⟩
    rcases issue_flaws room _ _ hi with hflaw | hover
    · have hcaught := (isCaught_iff.mp (isCaught_of_flaw hr hflaw)).resolve_left (by simp [hv])
      exact hcaught.imp_right .inl
    · exact .inr (.inr hover)

variable (r room) in
theorem readBody_single {body : String}
    (hb : Json.read body = .ok (.object [("issues", .list [.object members])])) :
    readBody r room body = do
      let i ← issue r room (.object members)
      return ([i], [("issues", .list [.object members])]) := by
  have hitems : itemsOrNone (Json.member [("issues", .list [.object members])] "issues") =
      .ok [.object members] := rfl
  rw [readBody_object hb, hitems]
  change (List.mapM (issue r room) [.object members] >>= _) = _
  rw [List.mapM_cons, List.mapM_nil]
  cases issue r room (.object members) <;> rfl

variable {more : Nat} (hle : room ≤ more) {q : Query} {status : Int} {body : String} (hs : status < firstFailure)
  (hb : Json.read body = .ok (.object [("issues", .list [.object members])]))

include hle hs hb

theorem fetch_of_found {found : SearchResult Json} (h : search r room q (.response status body) = .ok found) :
    ∃ i, found.issues = [i] ∧ fetch r more key (.found (.object members)) = .ok (some i) := by
  have hsingle := readBody_single r room hb
  cases hi : issue r room (.object members) with
  | ok i =>
    rw [search_response hs, hsingle, hi] at h
    obtain rfl := Except.ok.inj h
    have hroom : issue r room (.object members) ≠ .error .stackOverflow := by simp [hi]
    exact ⟨i, rfl, fetch_ok ((IssuePayload.issue_of_le hle hroom).trans hi)⟩
  | error fault =>
    rw [hi] at hsingle
    by_cases hc : IsCaught fault
    · rw [search_of_caught hs hsingle hc] at h
      cases h
    · rw [search_of_not_caught hs hsingle hc] at h
      cases h

theorem fetch_of_reported {cause : TransportFault}
    (h : search r room q (.response status body) = .error (.transport cause)) :
    ∃ fault, issue r more (.object members) = .error fault ∧ cause = .unreadableReply fault.message ∧
      IsCaught fault ∧ fetch r more key (.found (.object members)) =
        .error (if fault.isA .value then .transport (.unreadableIssue key fault.message) else fault) := by
  have hsingle := readBody_single r room hb
  cases hi : issue r room (.object members) with
  | ok i =>
    rw [search_response hs, hsingle, hi] at h
    cases h
  | error fault =>
    rw [hi] at hsingle
    by_cases hc : IsCaught fault
    · rw [search_of_caught hs hsingle hc] at h
      have hroom : issue r room (.object members) ≠ .error .stackOverflow := by
        rw [hi]
        rintro ho
        obtain rfl := Except.error.inj ho
        simp [isCaught_iff, Fault.isA, Fault.classes] at hc
      have hmore := (IssuePayload.issue_of_le hle hroom).trans hi
      exact ⟨fault, hmore, (Fault.transport.inj (Except.error.inj h)).symm, hc, fetch_error hmore⟩
    · rw [search_of_not_caught hs hsingle hc] at h
      obtain rfl := Except.error.inj h
      rcases issue_flaws room _ _ hi with hflaw | hover
      · cases hflaw
      · cases hover

end Lookups

/-- Asked for the only issue that a search lists, with at least as much room, a tracker gives what the search
finds. Of what the search reports, it reports the faults of one class and leaves the others as they are; it has no
other faults but for want of room, and no issue only if the tracker knows none. -/
theorem fetch_follows_search (r : Reader) {room more : Nat} (hle : room ≤ more) (key : String) :
    (∀ q status body members, status < firstFailure →
      Json.read body = .ok (.object [("issues", .list [.object members])]) →
      (∀ found, search r room q (.response status body) = .ok found →
        ∃ i, found.issues = [i] ∧ fetch r more key (.found (.object members)) = .ok (some i)) ∧
      ∀ cause, search r room q (.response status body) = .error (.transport cause) →
        ∃ fault, issue r more (.object members) = .error fault ∧ cause = .unreadableReply fault.message ∧
          IsCaught fault ∧ fetch r more key (.found (.object members)) = .error
            (if fault.isA .value then .transport (.unreadableIssue key fault.message) else fault)) ∧
    (∀ lookup fault, fetch r more key lookup = .error fault →
      (∃ cause, fault = .transport cause) ∨
        ∃ members, lookup = .found (.object members) ∧ issue r more (.object members) = .error fault ∧
          fault.isA .value = false ∧
          (r.FailsByValue → fault.isA .attribute = true ∨ fault.isA .type = true ∨ fault = .stackOverflow)) ∧
    ∀ lookup, fetch r more key lookup = .ok none ↔ ∃ text, lookup = .refused (some notFound) text := by
  refine ⟨fun q status body members hs hb => ?_, fun _ _ => fetch_fails, fun _ => fetch_none_iff⟩
  exact ⟨fun _ => fetch_of_found hle hs hb, fun _ => fetch_of_reported hle hs hb⟩

theorem fetch_follows_search_dated :
    ∃ i, fetch .standard (usualRoom + 1) "K" (.found (.object datedMembers)) = .ok (some i) := by
  obtain ⟨i, hi⟩ := issue_datedMembers
  have hfound : ∃ found, search .standard usualRoom ⟨"q", none⟩ (.response 200 datedBody) = .ok found := by
    rw [search_response (by decide), readBody_single _ _ read_datedBody, hi]
    exact ⟨_, rfl⟩
  obtain ⟨found, hfound⟩ := hfound
  have hle : usualRoom ≤ usualRoom + 1 := Nat.le_succ _
  obtain ⟨i, -, hi⟩ :=
    ((fetch_follows_search .standard hle "K").1 ⟨"q", none⟩ 200 _ _ (by decide) read_datedBody).1 found hfound
  exact ⟨i, hi⟩

theorem read_textFields :
    Json.read "\x7b\"issues\":[\x7b\"key\":\"OBS-1\",\"fields\":\"x\"\x7d]\x7d" =
      .ok (.object [("issues", .list [.object [("key", .text "OBS-1"), ("fields", .text "x")]])]) := by
  simp [Json.read, Json.readWithin, Json.readAll, Json.Limits.standard, Json.readValue, Json.readItems,
    Json.readMembers, Json.maxDepth, Json.skipSpace, Json.isSpace, Json.readText, OrderedMap.put, Except.map,
    Except.mapError]

theorem textFields_not_reported :
    search .standard usualRoom ⟨"q", none⟩
        (.response 200 "\x7b\"issues\":[\x7b\"key\":\"OBS-1\",\"fields\":\"x\"\x7d]\x7d") =
        .error (.transport (.unreadableReply "'str' object has no attribute 'get'")) ∧
      fetch .standard usualRoom "OBS-1" (.found (.object [("key", .text "OBS-1"), ("fields", .text "x")])) =
        .error (.noMembers "str") ∧
      ¬∀ key lookup fault, fetch .standard usualRoom key lookup = .error fault →
        ∃ cause, fault = .transport cause := by
  have hissue : issue .standard usualRoom (.object [("key", .text "OBS-1"), ("fields", .text "x")]) =
      .error (.noMembers "str") := rfl
  have hfetch : fetch .standard usualRoom "OBS-1" (.found (.object [("key", .text "OBS-1"), ("fields", .text "x")])) =
      .error (.noMembers "str") := fetch_error hissue
  refine ⟨?_, hfetch, fun h => ?_⟩
  · rw [search_response (by decide), readBody_single _ _ read_textFields, hissue]
    rfl
  · obtain ⟨cause, hcause⟩ := h _ _ _ hfetch
    cases hcause

end IssueQuery.Remote

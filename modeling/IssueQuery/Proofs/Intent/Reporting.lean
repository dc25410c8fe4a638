import IssueQuery.Intent.Model
import IssueQuery.Proofs.Calendar.Reader
import IssueQuery.Proofs.Outcome

namespace IssueQuery

open Number (Binary infinity)

def Outcome.Reported {α : Type} (x : Outcome α) : Prop :=
  (∃ a, x = .ok a) ∨ ∃ cause, x = .error (.intent cause)

def Json.IsInfinite (v : Json) : Prop :=
  ∃ x negative, v = .float x ∧ Binary.ofFloat x = .infinite negative

namespace Payload

def days : Json → Json
  | .object members => Json.member members "lastDays"
  | _ => .null

def wholeNumbers : Json → List Json
  | .object members =>
    Json.member members "limit" ::
      match Json.member members "filters" with
      | .object fs => [days (Json.member fs "created"), days (Json.member fs "updated")]
      | _ => []
  | _ => []

structure ListsRead (members : OrderedMap Json) : Prop where
  status : ∃ ss, texts (Json.member members "status") = .ok ss
  issueTypes : ∃ ss, texts (Json.member members "issueTypes") = .ok ss
  priorities : ∃ ss, texts (either members "priorities" "priority") = .ok ss
  labels : ∃ ss, texts (Json.member members "labels") = .ok ss
  components : ∃ ss, texts (Json.member members "components") = .ok ss

inductive FiltersOverflow (r : Calendar.Reader) : Json → Prop
  | created {members : OrderedMap Json} : ListsRead members →
      (days (Json.member members "created")).IsInfinite → FiltersOverflow r (.object members)
  | updated {members : OrderedMap Json} : ListsRead members →
      (∃ w, window r (Json.member members "created") = .ok w) →
      (days (Json.member members "updated")).IsInfinite → FiltersOverflow r (.object members)

/-- An infinite number is met before anything else is found wrong. -/
inductive Overflows (r : Calendar.Reader) : Json → Prop
  | filters {members : OrderedMap Json} :
      FiltersOverflow r (Json.member members "filters") → Overflows r (.object members)
  | limit {members : OrderedMap Json} : (∃ f, filters r (Json.member members "filters") = .ok f) →
      (∃ fields, sort (Json.member members "sort") = .ok fields) →
      (Json.member members "limit").IsInfinite → Overflows r (.object members)

/-- The payload is at fault, or the reader fails at a text. -/
inductive Faulty (r : Calendar.Reader) : Fault → Prop
  | intent (cause : IntentFault) : Faulty r (.intent cause)
  | reader {s : String} {failure : Failure} : r.day s = .error failure → Faulty r (.foreign failure)

variable {r : Calendar.Reader}

theorem Faulty.of_intent {fault : Fault} (h : ∃ cause, fault = .intent cause) : Faulty r fault := by
  obtain ⟨cause, rfl⟩ := h
  exact .intent cause

theorem texts_error {v : Json} {fault : Fault} (h : texts v = .error fault) : ∃ cause, fault = .intent cause := by
  unfold texts at h
  split at h
  · cases h
  · cases h
  · cases h
  · exact ⟨_, (Except.error.inj h).symm⟩

theorem sortField_error {v : Json} {fault : Fault} (h : sortField v = .error fault) :
    ∃ cause, fault = .intent cause := by
  unfold sortField at h
  split at h
  · simp only at h
    split at h
    · exact ⟨_, (Except.error.inj h).symm⟩
    · split at h
      · cases h
      · exact ⟨_, (Except.error.inj h).symm⟩
  · exact ⟨_, (Except.error.inj h).symm⟩

theorem sortFields_error {items : List Json} {fault : Fault} (h : items.mapM sortField = .error fault) :
    ∃ cause, fault = .intent cause := by
  induction items with
  | nil => cases h
  | cons v items ih =>
    rw [List.mapM_cons] at h
    rcases Outcome.bind_eq_error_iff.mp h with h | ⟨field, -, h⟩
    · exact sortField_error h
    · rcases Outcome.bind_eq_error_iff.mp h with h | ⟨fields, -, h⟩
      · exact ih h
      · cases h

theorem sort_error {v : Json} {fault : Fault} (h : sort v = .error fault) : ∃ cause, fault = .intent cause := by
  unfold sort at h
  split at h
  · cases h
  · split at h
    · rename_i items _
      cases hm : items.mapM sortField with
      | error f =>
        rw [hm] at h
        obtain rfl := Except.error.inj h
        exact sortFields_error hm
      | ok fields =>
        rw [hm] at h
        cases h
    · exact ⟨_, (Except.error.inj h).symm⟩

theorem integer?_error_iff {v : Json} {fault : Fault} :
    integer? v = .error fault ↔ fault = .infiniteInteger ∧ v.IsInfinite := by
  cases v with
  | float x =>
    rw [integer?]
    cases hx : Binary.ofFloat x <;> simp [Json.IsInfinite, hx, eq_comm]
  | text s =>
    rw [integer?]
    cases Number.readInt s <;> simp [Json.IsInfinite]
  | _ => simp [integer?, Json.IsInfinite]

theorem integerFrom_error {what : String} {least : Int} {v : Json} {fault : Fault}
    (h : integerFrom what least v = .error fault) :
    (∃ cause, fault = .intent cause) ∨ fault = .infiniteInteger ∧ v.IsInfinite := by
  unfold integerFrom at h
  split at h
  · cases h
  · rcases Outcome.bind_eq_error_iff.mp h with h | ⟨n, -, h⟩
    · exact .inr (integer?_error_iff.mp h)
    · cases n with
      | none => exact .inl ⟨_, (Except.error.inj h).symm⟩
      | some n =>
        simp only at h
        split at h
        · exact .inl ⟨_, (Except.error.inj h).symm⟩
        · cases h

theorem integerFrom_infinite (what : String) (least : Int) {v : Json} (h : v.IsInfinite) :
    integerFrom what least v = .error .infiniteInteger := by
  have hv : integer? v = .error .infiniteInteger := integer?_error_iff.mpr ⟨rfl, h⟩
  obtain ⟨x, negative, rfl, hx⟩ := h
  show integer? (.float x) >>= _ = _
  rw [hv]
  rfl

theorem not_isInfinite_null : ¬Json.null.IsInfinite := by
  rintro ⟨x, negative, h, -⟩
  cases h

theorem window_overflow {v : Json} (h : (days v).IsInfinite) : window r v = .error .infiniteInteger := by
  cases v with
  | object members =>
    have hi : (Json.member members "lastDays").IsInfinite := h
    rw [window, integerFrom_infinite "lastDays" 0 hi]
    rfl
  | _ => exact absurd h not_isInfinite_null

theorem filters_overflow {v : Json} (h : FiltersOverflow r v) : filters r v = .error .infiniteInteger := by
  have hread {members : OrderedMap Json} (hlists : ListsRead members) :
      ∃ rest : Option DateWindow → Option DateWindow → Outcome (Option Filters),
        filters r (.object members) = (window r (Json.member members "created") >>= fun created =>
          window r (Json.member members "updated") >>= fun updated => rest created updated) := by
    obtain ⟨⟨status, hs⟩, ⟨issueTypes, hi⟩, ⟨priorities, hp⟩, ⟨labels, hl⟩, ⟨components, hc⟩⟩ := hlists
    refine ⟨fun created updated => .ok (some ⟨text? (Json.member members "project"),
      text? (Json.member members "assignee"), status, issueTypes, priorities, labels, components,
      created, updated⟩), ?_⟩
    rw [filters]
    simp only [hs, hi, hp, hl, hc]
    rfl
  cases h with
  | created hlists hw =>
    obtain ⟨rest, hrest⟩ := hread hlists
    rw [hrest, window_overflow hw]
    rfl
  | updated hlists hcreated hw =>
    obtain ⟨rest, hrest⟩ := hread hlists
    obtain ⟨created, hcreated⟩ := hcreated
    rw [hrest, hcreated, window_overflow hw]
    rfl

theorem intent_overflow {v : Json} (h : Overflows r v) : intent r v = .error .infiniteInteger := by
  cases h with
  | filters hf =>
    rw [intent]
    simp only [filters_overflow hf]
    rfl
  | limit hf hs hl =>
    obtain ⟨fs, hf⟩ := hf
    obtain ⟨fields, hs⟩ := hs
    rw [intent]
    simp only [hf, hs, integerFrom_infinite "limit" 1 hl]
    rfl

theorem exists_infinite {v : Json} (h : Overflows r v) : ∃ n ∈ wholeNumbers v, n.IsInfinite := by
  cases h with
  | limit hf hs hl => exact ⟨_, List.mem_cons_self, hl⟩
  | filters hf =>
    rw [wholeNumbers]
    generalize Json.member _ "filters" = v at hf
    cases hf with
    | created hlists hw => exact ⟨_, by simp, hw⟩
    | updated hlists hcreated hw => exact ⟨_, by simp, hw⟩

theorem day_error {v : Json} {fault : Fault} (h : day r v = .error fault) : Faulty r fault := by
  unfold day at h
  split at h
  · cases h
  · rename_i s
    split at h
    · cases h
    · cases hs : r.day s with
      | ok d =>
        rw [hs] at h
        cases d with
        | some d => cases h
        | none =>
          obtain rfl := Except.error.inj h
          exact .intent _
      | error failure =>
        rw [hs] at h
        simp only at h
        split at h
        · obtain rfl := Except.error.inj h
          exact .intent _
        · obtain rfl := Except.error.inj h
          exact .reader hs
  · obtain rfl := Except.error.inj h
    exact .intent _

theorem window_error {v : Json} {fault : Fault} (h : window r v = .error fault) :
    Faulty r fault ∨ fault = .infiniteInteger ∧ (days v).IsInfinite := by
  unfold window at h
  split at h
  · cases h
  · rename_i members
    rcases Outcome.bind_eq_error_iff.mp h with h | ⟨days, -, h⟩
    · exact (integerFrom_error h).imp_left .of_intent
    · left
      cases days with
      | some n => cases h
      | none =>
        rcases Outcome.bind_eq_error_iff.mp h with h | ⟨start, -, h⟩
        · exact day_error h
        · rcases Outcome.bind_eq_error_iff.mp h with h | ⟨stop, -, h⟩
          · exact day_error h
          · cases h
  · obtain rfl := Except.error.inj h
    exact .inl (.intent _)

theorem filters_error {v : Json} {fault : Fault} (h : filters r v = .error fault) :
    Faulty r fault ∨ fault = .infiniteInteger ∧ FiltersOverflow r v := by
  unfold filters at h
  split at h
  · cases h
  · -- The parts are read in this order, and the first that fails is the one that is reported.
    rcases Outcome.bind_eq_error_iff.mp h with h | ⟨status, hstatus, h⟩
    · exact .inl (.of_intent (texts_error h))
    rcases Outcome.bind_eq_error_iff.mp h with h | ⟨issueTypes, hissueTypes, h⟩
    · exact .inl (.of_intent (texts_error h))
    rcases Outcome.bind_eq_error_iff.mp h with h | ⟨priorities, hpriorities, h⟩
    · exact .inl (.of_intent (texts_error h))
    rcases Outcome.bind_eq_error_iff.mp h with h | ⟨labels, hlabels, h⟩
    · exact .inl (.of_intent (texts_error h))
    rcases Outcome.bind_eq_error_iff.mp h with h | ⟨components, hcomponents, h⟩
    · exact .inl (.of_intent (texts_error h))
    have hlists : ListsRead _ :=
      ⟨⟨_, hstatus⟩, ⟨_, hissueTypes⟩, ⟨_, hpriorities⟩, ⟨_, hlabels⟩, ⟨_, hcomponents⟩⟩
    rcases Outcome.bind_eq_error_iff.mp h with h | ⟨created, hcreated, h⟩
    · exact (window_error h).imp_right fun hw => ⟨hw.1, .created hlists hw.2⟩
    rcases Outcome.bind_eq_error_iff.mp h with h | ⟨updated, -, h⟩
    · exact (window_error h).imp_right fun hw => ⟨hw.1, .updated hlists ⟨_, hcreated⟩ hw.2⟩
    cases h
  · obtain rfl := Except.error.inj h
    exact .inl (.intent _)

theorem intent_error {v : Json} {fault : Fault} (h : intent r v = .error fault) :
    Faulty r fault ∨ fault = .infiniteInteger ∧ Overflows r v := by
  unfold intent at h
  split at h
  · rcases Outcome.bind_eq_error_iff.mp h with h | ⟨fs, hfilters, h⟩
    · exact (filters_error h).imp_right fun hf => ⟨hf.1, .filters hf.2⟩
    rcases Outcome.bind_eq_error_iff.mp h with h | ⟨fields, hsort, h⟩
    · exact .inl (.of_intent (sort_error h))
    rcases Outcome.bind_eq_error_iff.mp h with h | ⟨limit, -, h⟩
    · exact (integerFrom_error h).imp .of_intent fun hl => ⟨hl.1, .limit ⟨_, hfilters⟩ ⟨_, hsort⟩ hl.2⟩
    cases h
  · obtain rfl := Except.error.inj h
    exact .inl (.intent _)

/-- Every payload is read or its fault reported, unless an infinite number is met before anything else
is found wrong. A payload without infinite numbers is always reported on. -/
theorem intent_reported_iff {r : Calendar.Reader} (hr : r.ReadsTexts) (v : Json) :
    ((intent r v).Reported ↔ ¬Overflows r v) ∧ (Overflows r v → intent r v = .error .infiniteInteger) ∧
      ((∀ n ∈ wholeNumbers v, ¬n.IsInfinite) → (intent r v).Reported) := by
  have hof : ¬Overflows r v → (intent r v).Reported := by
    intro ho
    cases hv : intent r v with
    | ok i => exact .inl ⟨i, rfl⟩
    | error fault =>
      rcases intent_error hv with hfault | ⟨-, hi⟩
      · cases hfault with
        | intent cause => exact .inr ⟨cause, rfl⟩
        | reader hs =>
          obtain ⟨d, hd⟩ := hr _
          cases hd.symm.trans hs
      · exact absurd hi ho
  refine ⟨⟨?_, hof⟩, intent_overflow, ?_⟩
  · intro h ho
    rw [intent_overflow ho] at h
    rcases h with ⟨i, h⟩ | ⟨cause, h⟩ <;> cases h
  · intro h
    apply hof
    intro ho
    obtain ⟨n, hn, hi⟩ := exists_infinite ho
    exact h n hn hi

theorem isInfinite_infinity : (Json.float infinity).IsInfinite := by
  have hbits : infinity.toBits = 0x7ff0000000000000 := by decide
  exact ⟨infinity, false, rfl, by simp [Binary.ofFloat, hbits]⟩

def endlessUpdates : Json :=
  .object [("filters", .object [("created", .object [("from", .text "2024-01-01")]),
    ("updated", .object [("lastDays", .float infinity)])])]

theorem intent_reported_iff_endlessUpdates :
    Calendar.Reader.standard.ReadsTexts ∧ ¬(intent .standard endlessUpdates).Reported := by
  have hr := Calendar.Reader.readsTexts_standard
  have hlists : ListsRead [("created", .object [("from", .text "2024-01-01")]),
      ("updated", .object [("lastDays", .float infinity)])] :=
    ⟨⟨none, rfl⟩, ⟨none, rfl⟩, ⟨none, rfl⟩, ⟨none, rfl⟩, ⟨none, rfl⟩⟩
  have ho : Overflows .standard endlessUpdates :=
    .filters (.updated hlists ⟨some (.between (some ⟨2024, 1, 1⟩) none), rfl⟩ isInfinite_infinity)
  exact ⟨hr, fun h => (intent_reported_iff hr endlessUpdates).1.mp h ho⟩

theorem intent_content {text : String} {v : Json} (hne : text.isEmpty = false)
    (hv : Json.read text = .ok v) : (Model.Reply.content (some text)).intent r = intent r v := by
  have htext : (Model.Reply.content (some text)).text = .ok text := by
    simp only [Model.Reply.text, hne, Bool.false_eq_true, if_false]
  rw [Model.Reply.intent, htext]
  simp only [bind, Except.bind, hv]

theorem read_infinite_limit :
    Json.read "\x7b\"limit\":Infinity\x7d" = .ok (.object [("limit", .float infinity)]) := by
  have hword : Json.readLiteral? ['I', 'n', 'f', 'i', 'n', 'i', 't', 'y', '\x7d'] =
      some (.float infinity, ['\x7d']) := by
    simp [Json.readLiteral?, Json.literals, Text.dropPrefix?]
  have hread : Json.readAll .standard "\x7b\"limit\":Infinity\x7d".toList =
      .ok (.object [("limit", .float infinity)]) := by
    simp [Json.readAll, Json.Limits.standard, Json.readValue, Json.readMembers, Json.maxDepth, Json.skipSpace,
      Json.isSpace, Json.readText, Json.readScalar, hword, OrderedMap.put, Except.map]
  rw [Json.read, Json.readWithin, hread]
  rfl

theorem infinite_limit_not_reported :
    (Model.Reply.content (some "\x7b\"limit\":Infinity\x7d")).intent .standard = .error .infiniteInteger ∧
      ¬∀ v, (intent .standard v).Reported := by
  have hintent : intent .standard (.object [("limit", .float infinity)]) = .error .infiniteInteger :=
    intent_overflow (.limit ⟨none, rfl⟩ ⟨none, rfl⟩ isInfinite_infinity)
  constructor
  · rw [intent_content (by decide) read_infinite_limit, hintent]
  · intro h
    rcases h (.object [("limit", .float infinity)]) with ⟨i, hi⟩ | ⟨cause, hc⟩
    · rw [hintent] at hi
      cases hi
    · rw [hintent] at hc
      cases hc

end Payload

end IssueQuery

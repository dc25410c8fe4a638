import IssueQuery.Intent.Phrases
import IssueQuery.Proofs.Intent.WellFormed
import IssueQuery.Proofs.Number.Reading
import IssueQuery.Query.Compiler
import IssueQuery.Tracker.Memory
import IssueQuery.Tracker.Remote
import Mathlib.Data.List.Nodup

namespace IssueQuery

open Text

structure Filters.Distinct (f : Filters) : Prop where
  status : ∀ ss ∈ f.status, ss.Nodup
  issueTypes : ∀ ss ∈ f.issueTypes, ss.Nodup
  priorities : ∀ ss ∈ f.priorities, ss.Nodup
  labels : ∀ ss ∈ f.labels, ss.Nodup
  components : ∀ ss ∈ f.components, ss.Nodup

theorem trimmed_ofList {cs : List Char} (hne : cs ≠ []) (h : ∀ c ∈ cs, isBlank c = false) :
    Trimmed (String.ofList cs) := by
  refine ⟨?_, ?_, ?_⟩
  · intro he
    apply hne
    simpa using congrArg String.toList he
  · intro c hc
    rw [String.toList_ofList] at hc
    exact h c (List.mem_of_head? hc)
  · intro c hc
    rw [String.toList_ofList] at hc
    exact h c (List.mem_of_getLast? hc)

theorem trimmed_of_strip_eq {s : String} (hne : s.isEmpty = false) (h : strip s = s) : Trimmed s := by
  rw [← h]
  apply trimmed_strip
  rw [h, hne]

namespace Phrases

theorem trimmed_currentUser : Trimmed "currentUser" :=
  trimmed_of_strip_eq rfl rfl

theorem of_wordAfter? {phrase : String} {cs word : List Char} (h : wordAfter? phrase cs = some word) :
    word ≠ [] ∧ ∀ c ∈ word, isWord c = true := by
  simp only [wordAfter?, Option.bind_eq_bind, Option.bind_eq_some_iff] at h
  obtain ⟨rest, -, ⟨taken, left⟩, hrun, hword⟩ := h
  obtain rfl := Option.some.inj hword
  exact of_run? hrun

theorem of_wordInProject? {cs word : List Char} (h : wordInProject? cs = some word) :
    word ≠ [] ∧ ∀ c ∈ word, isWord c = true := by
  simp only [wordInProject?, Option.bind_eq_bind, Option.bind_eq_some_iff] at h
  obtain ⟨rest, -, ⟨taken, left⟩, hrun, after, -, hword⟩ := h
  obtain rfl := Option.some.inj hword
  exact of_run? hrun

theorem of_assignee {prompt : List Char} {s : String} (h : s ∈ assignee prompt) :
    s = "currentUser" ∨ s = "unassigned" ∨
      ∃ word, word ≠ [] ∧ (∀ c ∈ word, isWord c = true) ∧ s = String.ofList word := by
  rw [assignee] at h
  split at h
  · exact .inl (Option.some.inj h).symm
  · split at h
    · exact .inr (.inl (Option.some.inj h).symm)
    · obtain ⟨word, hword, rfl⟩ := Option.map_eq_some_iff.mp h
      obtain ⟨t, ht⟩ := of_firstMatch hword
      obtain ⟨hne, hw⟩ := of_wordAfter? ht
      exact .inr (.inr ⟨word, hne, hw, rfl⟩)

theorem of_project {prompt : List Char} {s : String} (h : s ∈ project prompt) :
    ∃ word, word ≠ [] ∧ (∀ c ∈ word, isWord c = true) ∧ s = upper (String.ofList word) := by
  obtain ⟨word, hword, rfl⟩ := Option.map_eq_some_iff.mp h
  obtain ⟨t, ht⟩ := of_firstMatch hword
  have hw : word ≠ [] ∧ ∀ c ∈ word, isWord c = true := by
    cases ha : wordAfter? "project " t with
    | some w =>
      rw [ha] at ht
      obtain rfl := Option.some.inj ht
      exact of_wordAfter? ha
    | none =>
      rw [ha] at ht
      exact of_wordInProject? ht
  exact ⟨word, hw.1, hw.2, rfl⟩

theorem trimmed_assignee {prompt : List Char} : ∀ s ∈ assignee prompt, Trimmed s := by
  intro s hs
  rcases of_assignee hs with rfl | rfl | ⟨word, hne, hw, rfl⟩
  · exact trimmed_currentUser
  · exact trimmed_of_strip_eq rfl rfl
  · exact trimmed_ofList hne fun c hc => isBlank_eq_false_of_isWord (hw c hc)

theorem trimmed_project {prompt : List Char} : ∀ s ∈ project prompt, Trimmed s := by
  intro s hs
  obtain ⟨word, hne, hw, rfl⟩ := of_project hs
  obtain ⟨hne, hb⟩ := flatMap_upperChar_not_blank hne hw
  rw [upper, String.toList_ofList]
  exact trimmed_ofList hne hb

section Keywords

def Tidy (values : List String) : Prop :=
  values.Nodup ∧ ∀ v ∈ values, isBlankText v = false

theorem tidy_issueTypeWords : ∀ row ∈ issueTypeWords, Tidy row.2 := by
  unfold Tidy
  decide

theorem tidy_statusWords : ∀ row ∈ statusWords, Tidy row.2 := by
  unfold Tidy
  decide

theorem tidy_priorityWords : ∀ row ∈ priorityWords, Tidy row.2 := by
  unfold Tidy
  decide

def foundAfter (found : List String) (table : Keywords) (prompt : List Char) : List String :=
  table.foldl (fun acc (words, values) =>
    if words.any (occursIn ·.toList prompt) then acc ++ values.filter (!acc.contains ·) else acc) found

variable {table : Keywords} {prompt : List Char}

theorem mem_foundAfter {found : List String} {v : String} (h : v ∈ foundAfter found table prompt) :
    v ∈ found ∨ ∃ row ∈ table, v ∈ row.2 := by
  -- The rows that remain are read with what the rows before them have found.
  induction table generalizing found with
  | nil => exact .inl h
  | cons row table ih =>
    obtain ⟨words, values⟩ := row
    rw [foundAfter, List.foldl_cons] at h
    dsimp only at h
    rcases ih h with hfound | ⟨row, hrow, hv⟩
    · split at hfound
      · rcases List.mem_append.mp hfound with hold | hnew
        · exact .inl hold
        · exact .inr ⟨(words, values), List.mem_cons_self, (List.mem_filter.mp hnew).1⟩
      · exact .inl hfound
    · exact .inr ⟨row, List.mem_cons_of_mem _ hrow, hv⟩

theorem nodup_append_new {found values : List String} (hf : found.Nodup) (hv : values.Nodup) :
    (found ++ values.filter (!found.contains ·)).Nodup := by
  apply List.Nodup.append hf (hv.filter _)
  intro v hin hnew
  have hout := (List.mem_filter.mp hnew).2
  simp only [List.contains_eq_mem, Bool.not_eq_true', decide_eq_false_iff_not] at hout
  exact hout hin

theorem nodup_foundAfter (ht : ∀ row ∈ table, row.2.Nodup) {found : List String} (hf : found.Nodup) :
    (foundAfter found table prompt).Nodup := by
  induction table generalizing found with
  | nil => exact hf
  | cons row table ih =>
    rw [List.forall_mem_cons] at ht
    rw [foundAfter, List.foldl_cons]
    apply ih ht.2
    dsimp only
    split
    · exact nodup_append_new hf ht.1
    · exact hf

theorem of_valuesOf {vs : List String} (h : vs ∈ valuesOf table prompt) :
    vs ≠ [] ∧ vs = foundAfter [] table prompt := by
  change vs ∈ (if (foundAfter [] table prompt).isEmpty then none else some (foundAfter [] table prompt)) at h
  split at h
  · cases h
  · rename_i hne
    obtain rfl := Option.some.inj h
    exact ⟨by simpa using hne, rfl⟩

theorem mem_of_valuesOf {vs : List String} (h : vs ∈ valuesOf table prompt) {v : String} (hv : v ∈ vs) :
    ∃ row ∈ table, v ∈ row.2 := by
  rw [(of_valuesOf h).2] at hv
  rcases mem_foundAfter hv with hnone | hrow
  · cases hnone
  · exact hrow

theorem valuesOf_stated (ht : ∀ row ∈ table, Tidy row.2) (prompt : List Char) :
    ∀ vs ∈ valuesOf table prompt, Stated vs ∧ vs.Nodup := by
  intro vs hvs
  obtain ⟨hne, hfound⟩ := of_valuesOf hvs
  refine ⟨⟨hne, ?_⟩, ?_⟩
  · intro v hv
    obtain ⟨row, hrow, hin⟩ := mem_of_valuesOf hvs hv
    exact (ht row hrow).2 v hin
  · rw [hfound]
    exact nodup_foundAfter (fun row hrow => (ht row hrow).1) List.nodup_nil

end Keywords

theorem of_daysDigits? {cs digits : List Char} (h : daysDigits? cs = some digits) :
    digits ≠ [] ∧ ∀ c ∈ digits, isDigit c = true := by
  simp only [daysDigits?, Option.bind_eq_bind, Option.bind_eq_some_iff] at h
  obtain ⟨rest, -, ⟨taken, left⟩, hrun, after, -, hdigits⟩ := h
  obtain rfl := Option.some.inj hdigits
  exact of_run? hrun

theorem of_limitDigits? {cs digits : List Char} (h : limitDigits? cs = some digits) :
    digits ≠ [] ∧ ∀ c ∈ digits, isDigit c = true := by
  simp only [limitDigits?, Option.bind_eq_bind, Option.bind_eq_some_iff] at h
  obtain ⟨rest, -, after, -, ⟨taken, left⟩, hrun, hdigits⟩ := h
  obtain rfl := Option.some.inj hdigits
  exact of_run? hrun

theorem wellFormed_last {n : Int} (h : 0 ≤ n) : (DateWindow.last n).WellFormed :=
  ⟨h, rfl, rfl⟩

theorem updated_readable {prompt : List Char} {r : Option DateWindow} (h : updated prompt = .ok r) :
    ∀ w ∈ r, ∃ n : Nat, w = DateWindow.last n ∧ integerOfDigits (toString n).toList = .ok n := by
  -- A week and a month have phrases of their own; other digits have been read once already.
  intro w hw
  rw [updated] at h
  split at h
  · obtain rfl := Except.ok.inj h
    exact ⟨7, (Option.some.inj hw).symm, rfl⟩
  · split at h
    · obtain rfl := Except.ok.inj h
      exact ⟨30, (Option.some.inj hw).symm, rfl⟩
    · split at h
      · rename_i digits hdigits
        obtain ⟨t, ht⟩ := of_firstMatch hdigits
        obtain ⟨hne, hd⟩ := of_daysDigits? ht
        cases hn : integerOfDigits digits with
        | error fault =>
          rw [hn] at h
          cases h
        | ok n =>
          obtain ⟨m, rfl, hm⟩ := integerOfDigits_again hne hd hn
          rw [hn] at h
          obtain rfl := Except.ok.inj h
          exact ⟨m, (Option.some.inj hw).symm, hm⟩
      · obtain rfl := Except.ok.inj h
        cases hw

theorem updated_last {prompt : List Char} {r : Option DateWindow} (h : updated prompt = .ok r) :
    ∀ w ∈ r, ∃ n : Nat, w = DateWindow.last n :=
  fun w hw => (updated_readable h w hw).imp fun _ hn => hn.1

theorem updated_wellFormed {prompt : List Char} {r : Option DateWindow} (h : updated prompt = .ok r) :
    ∀ w ∈ r, w.WellFormed := by
  intro w hw
  obtain ⟨n, rfl⟩ := updated_last h w hw
  exact wellFormed_last (Int.natCast_nonneg n)

theorem limit_nonneg {prompt : List Char} {r : Option Int} (h : limit prompt = .ok r) : ∀ n ∈ r, 0 ≤ n := by
  intro n hr
  rw [limit] at h
  split at h
  · rename_i digits hdigits
    obtain ⟨t, ht⟩ := of_firstMatch hdigits
    obtain ⟨hne, hd⟩ := of_limitDigits? ht
    cases hn : integerOfDigits digits with
    | error fault =>
      rw [hn] at h
      cases h
    | ok m =>
      rw [hn] at h
      obtain rfl := Except.ok.inj h
      obtain rfl := Option.some.inj hr
      rw [of_integerOfDigits hne hd hn]
      exact Int.natCast_nonneg _
  · obtain rfl := Except.ok.inj h
    cases hr

theorem search_trimmed {prompt : List Char} : ∀ s ∈ search prompt, s = "" ∨ Trimmed s := by
  intro s hs
  obtain ⟨cs, -, rfl⟩ := Option.map_eq_some_iff.mp hs
  have hstrip : String.ofList (stripChars cs) = strip (String.ofList cs) := by
    rw [strip, String.toList_ofList]
  rw [hstrip]
  cases he : (strip (String.ofList cs)).isEmpty with
  | true => exact .inl (String.isEmpty_iff.mp he)
  | false => exact .inr (trimmed_strip he)

theorem sort_wellFormed {prompt : List Char} :
    ∀ fields ∈ sort prompt, fields ≠ [] ∧ ∀ s ∈ fields, s.WellFormed := by
  intro fields hf
  rw [sort] at hf
  split at hf
  · obtain rfl := Option.some.inj hf
    refine ⟨by simp, ?_⟩
    rw [List.forall_mem_singleton]
    exact ⟨by decide, .inr rfl⟩
  · cases hf

structure Proper (i : Intent) : Prop where
  filters : ∀ f ∈ i.filters, f.WellFormed ∧ f.Distinct
  search : ∀ s ∈ i.search, s = "" ∨ Trimmed s
  sort : ∀ fields ∈ i.sort, fields ≠ [] ∧ ∀ s ∈ fields, s.WellFormed
  limit : ∀ n ∈ i.limit, 0 ≤ n

theorem proper_ofKeywords {text : String} {i : Intent} (h : ofKeywords text = .ok i) : Proper i := by
  obtain ⟨window, hupdated, h⟩ := Outcome.of_bind h
  obtain ⟨n, hlimit, h⟩ := Outcome.of_bind h
  obtain rfl := Except.ok.inj h
  have hstatus := valuesOf_stated tidy_statusWords text.toList
  have htypes := valuesOf_stated tidy_issueTypeWords text.toList
  have hpriorities := valuesOf_stated tidy_priorityWords text.toList
  refine ⟨?_, search_trimmed, sort_wellFormed, limit_nonneg hlimit⟩
  intro f hf
  obtain rfl := Option.some.inj hf
  constructor
  · exact {
      project := trimmed_project
      assignee := trimmed_assignee
      status := fun ss hs => (hstatus ss hs).1
      issueTypes := fun ss hs => (htypes ss hs).1
      priorities := fun ss hs => (hpriorities ss hs).1
      labels := by simp [Filters.none]
      components := by simp [Filters.none]
      created := by simp [Filters.none]
      updated := updated_wellFormed hupdated }
  · exact {
      status := fun ss hs => (hstatus ss hs).2
      issueTypes := fun ss hs => (htypes ss hs).2
      priorities := fun ss hs => (hpriorities ss hs).2
      labels := by simp [Filters.none]
      components := by simp [Filters.none] }

theorem proper_of_filters {f : Filters} (hw : f.WellFormed) (hd : f.Distinct) :
    Proper { Intent.empty with filters := some f } := by
  refine ⟨?_, by simp [Intent.empty], by simp [Intent.empty], by simp [Intent.empty]⟩
  intro g hg
  obtain rfl := Option.some.inj hg
  exact ⟨hw, hd⟩

theorem proper_presets : ∀ preset ∈ presets, Proper preset.2 := by
  have hbank : Trimmed "BANK" := trimmed_of_strip_eq rfl rfl
  simp only [presets, List.forall_mem_cons]
  refine ⟨?_, ?_, ?_, ?_, ?_, by simp⟩
  all_goals
    apply proper_of_filters
    · constructor <;>
        simp only [Filters.none, Option.mem_def, reduceCtorEq, false_implies, implies_true,
          Option.some.injEq, forall_eq', trimmed_currentUser, hbank, Stated, DateWindow.WellFormed,
          DateWindow.last] <;>
        decide
    · constructor <;> decide

theorem proper_intent {text : String} {i : Intent} (h : intent text = .ok i) : Proper i := by
  rw [intent] at h
  simp only at h
  split at h
  · rename_i found
    obtain rfl := Except.ok.inj h
    exact proper_presets _ (List.mem_of_find?_eq_some found)
  · exact proper_ofKeywords h

theorem pageSize_eq {q : Query} {n : Int} (h : q.limit = some n) :
    q.pageSize = if n = 0 then Query.defaultPageSize else n := by
  rw [Query.pageSize, h]
  by_cases hn : n = 0
  · rw [hn]
    rfl
  · rw [if_neg hn]
    split
    · rename_i he
      cases he
    · rename_i he
      exact absurd (Option.some.inj he) hn
    · rename_i m _ he
      exact (Option.some.inj he).symm

theorem Proper.wellFormed_iff {i : Intent} (h : Proper i) :
    i.WellFormed ∧ (∀ f ∈ i.filters, f.Distinct) ↔ i.limit ≠ some 0 ∧ i.search ≠ some "" := by
  constructor
  · rintro ⟨hw, -⟩
    constructor
    · intro hl
      have := hw.limit 0 hl
      omega
    · intro hs
      exact (hw.search "" hs).1 rfl
  · rintro ⟨hl, hs⟩
    refine ⟨⟨fun f hf => (h.filters f hf).1, ?_, h.sort, ?_⟩, fun f hf => (h.filters f hf).2⟩
    · intro s hsearch
      rcases h.search s hsearch with rfl | ht
      · exact absurd hsearch hs
      · exact ht
    · intro n hn
      have hnonneg := h.limit n hn
      have hne : n ≠ 0 := by
        rintro rfl
        exact hl hn
      omega

theorem search_of_limit {q : Query} {n : Int} (h : q.limit = some n) (issues : List Issue)
    (now : Calendar.Timestamp) :
    Memory.search issues now q =
      (Condition.keepAll now (Condition.ofText q.text) issues).map fun found =>
        ⟨Query.firstOf (if n = 0 then Query.defaultPageSize else n) found, q.text, .count found.length⟩ := by
  rw [Memory.search, pageSize_eq h]
  cases Condition.keepAll now (Condition.ofText q.text) issues <;> rfl

theorem intent_enforced_iff {text : String} {i : Intent} (h : intent text = .ok i) :
    Proper i ∧
      (i.WellFormed ∧ (∀ f ∈ i.filters, f.Distinct) ↔ i.limit ≠ some 0 ∧ i.search ≠ some "") ∧
      ∀ n ∈ i.limit,
        (∀ server, (Remote.request server (Query.compile i)).pageSize =
          if n = 0 then Query.defaultPageSize else n) ∧
        ∀ issues now, Memory.search issues now (Query.compile i) =
          (Condition.keepAll now (Condition.ofText (Query.compile i).text) issues).map fun found =>
            ⟨Query.firstOf (if n = 0 then Query.defaultPageSize else n) found, (Query.compile i).text,
              .count found.length⟩ := by
  have hp := proper_intent h
  refine ⟨hp, hp.wellFormed_iff, fun n hn => ?_⟩
  have hlimit : (Query.compile i).limit = some n := hn
  exact ⟨fun server => pageSize_eq hlimit, search_of_limit hlimit⟩

def fiveEpics : Intent where
  filters := some { Filters.none with project := some "WEB", issueTypes := some ["Epic"] }
  search := none
  sort := none
  limit := some 5

theorem intent_enforced_fiveEpics :
    intent "Top 5 epics in web project" = .ok fiveEpics ∧ fiveEpics.WellFormed :=
  have h : intent "Top 5 epics in web project" = .ok fiveEpics := rfl
  ⟨h, ((intent_enforced_iff h).2.1.mpr ⟨by decide, by decide⟩).1⟩

def noTasks : Intent :=
  { Intent.empty with
    filters := some { Filters.none with issueTypes := some ["Task"] }
    limit := some 0 }

theorem intent_not_enforced :
    intent "show 0 tasks" = .ok noTasks ∧
      intent "about   in x" =
        .ok { Intent.empty with filters := some Filters.none, search := some "" } ∧
      ¬∀ text i, intent text = .ok i → i.WellFormed := by
  have hzero : intent "show 0 tasks" = .ok noTasks := rfl
  refine ⟨hzero, rfl, fun h => ?_⟩
  have := (h _ _ hzero).limit 0 rfl
  omega

end Phrases

end IssueQuery

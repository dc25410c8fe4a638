import IssueQuery.Intent.Payload
import IssueQuery.Proofs.Calendar.DayText
import IssueQuery.Proofs.Outcome

namespace IssueQuery

open Text

def Trimmed (s : String) : Prop :=
  s ≠ "" ∧ (∀ c ∈ s.toList.head?, isBlank c = false) ∧ ∀ c ∈ s.toList.getLast?, isBlank c = false

def Stated (ss : List String) : Prop :=
  ss ≠ [] ∧ ∀ s ∈ ss, isBlankText s = false

/-- A number of days alone, or at least one bound. -/
def DateWindow.WellFormed (w : DateWindow) : Prop :=
  match w.lastDays with
  | some n => 0 ≤ n ∧ w.start = none ∧ w.stop = none
  | none => (w.start ≠ none ∨ w.stop ≠ none) ∧ (∀ d ∈ w.start, d.Valid) ∧ ∀ d ∈ w.stop, d.Valid

def SortField.WellFormed (s : SortField) : Prop :=
  s.field ≠ "" ∧ (s.order = ascending ∨ s.order = descending)

structure Filters.WellFormed (f : Filters) : Prop where
  project : ∀ s ∈ f.project, Trimmed s
  assignee : ∀ s ∈ f.assignee, Trimmed s
  status : ∀ ss ∈ f.status, Stated ss
  issueTypes : ∀ ss ∈ f.issueTypes, Stated ss
  priorities : ∀ ss ∈ f.priorities, Stated ss
  labels : ∀ ss ∈ f.labels, Stated ss
  components : ∀ ss ∈ f.components, Stated ss
  created : ∀ w ∈ f.created, w.WellFormed
  updated : ∀ w ∈ f.updated, w.WellFormed

structure Intent.WellFormed (i : Intent) : Prop where
  filters : ∀ f ∈ i.filters, f.WellFormed
  search : ∀ s ∈ i.search, Trimmed s
  sort : ∀ fields ∈ i.sort, fields ≠ [] ∧ ∀ s ∈ fields, s.WellFormed
  limit : ∀ n ∈ i.limit, 1 ≤ n

theorem ne_empty_of_mem {c : Char} {s : String} (h : c ∈ s.toList) : s ≠ "" := by
  rintro rfl
  simp at h

namespace Number

theorem mem_positional (digits : String) (point : Int) : '.' ∈ (positional digits point).toList := by
  simp only [positional]
  split
  · simp
  · split <;> simp

theorem mem_scientific (width : Nat) (digits : String) (exponent : Int) :
    'e' ∈ (scientific width digits exponent).toList := by
  simp [scientific]

theorem Notation.write_ne_empty (f : Notation) (hn : f.nan ≠ "") (hi : f.infinity ≠ "") (x : Float) :
    f.write x ≠ "" := by
  have happend {a b : String} (hb : b ≠ "") : a ++ b ≠ "" := by
    intro h
    exact hb (String.append_eq_empty_iff.mp h).2
  rw [Notation.write]
  split
  · exact hn
  · exact happend hi
  · simp only
    split
    · exact happend (by decide)
    · refine happend ?_
      split
      · exact ne_empty_of_mem (mem_positional _ _)
      · exact ne_empty_of_mem (mem_scientific _ _ _)

end Number

theorem Json.asText_ne_empty {v : Json} (h : v.isTruthy = true) : v.asText ≠ "" := by
  cases v with
  | null => cases h
  | bool b => cases b <;> decide
  | int n =>
    show toString n ≠ ""
    cases n with
    | ofNat n =>
      intro he
      exact Number.toString_ne_nil n (congrArg String.toList he)
    | negSucc n =>
      refine ne_empty_of_mem (c := '-') ?_
      rw [Number.toList_toString_negSucc]
      exact List.mem_cons_self
  | float x => exact Number.Notation.write_ne_empty _ (by decide) (by decide) x
  | text s =>
    rintro rfl
    cases h
  | list items => exact ne_empty_of_mem (c := '[') (by simp [asText, Value.ofJson, Value.asText, Value.quoted])
  | object members =>
    exact ne_empty_of_mem (c := '\x7b') (by simp [asText, Value.ofJson, Value.asText, Value.quoted])

theorem head?_dropWhile (p : Char → Bool) (cs : List Char) : ∀ c ∈ (cs.dropWhile p).head?, p c = false := by
  intro c hc
  have hn := List.head?_dropWhile_not p cs
  rw [Option.mem_def.mp hc] at hn
  simpa using hn

theorem getLast?_stripEnd (p : Char → Bool) (cs : List Char) : ∀ c ∈ (stripEnd p cs).getLast?, p c = false := by
  rw [stripEnd, List.getLast?_reverse]
  exact head?_dropWhile p cs.reverse

theorem head?_stripEnd {p : Char → Bool} {cs : List Char} {c : Char} (h : c ∈ (stripEnd p cs).head?) :
    c ∈ cs.head? := by
  have hprefix : stripEnd p cs <+: cs := by
    rw [stripEnd, ← List.reverse_suffix, List.reverse_reverse]
    exact List.dropWhile_suffix p
  obtain ⟨rest, hr⟩ := hprefix
  rw [← hr, List.head?_append, Option.mem_def.mp h]
  rfl

theorem trimmed_strip {s : String} (h : (strip s).isEmpty = false) : Trimmed (strip s) := by
  refine ⟨?_, ?_, ?_⟩
  · intro he
    rw [he] at h
    cases h
  · intro c hc
    rw [strip, String.toList_ofList] at hc
    exact head?_dropWhile isBlank s.toList c (head?_stripEnd hc)
  · rw [strip, String.toList_ofList]
    exact getLast?_stripEnd isBlank _

namespace Payload

theorem text?_sound (v : Json) : ∀ s ∈ text? v, Trimmed s := by
  intro s hs
  unfold text? at hs
  split at hs
  · cases hs
  · simp only at hs
    split at hs
    · cases hs
    · rename_i he
      obtain rfl := Option.some.inj hs
      exact trimmed_strip (by simpa using he)

theorem stated_kept (items : List Json) : ∀ ss ∈ texts.nonEmpty (texts.kept items), Stated ss := by
  intro ss hs
  rw [texts.nonEmpty] at hs
  split at hs
  · cases hs
  · rename_i hne
    obtain rfl := Option.some.inj hs
    refine ⟨by simpa using hne, fun s hm => ?_⟩
    obtain ⟨v, -, hv⟩ := List.mem_filterMap.mp hm
    split at hv
    · cases hv
    · split at hv
      · cases hv
      · rename_i hb
        obtain rfl := Option.some.inj hv
        simpa using hb

theorem texts_sound {v : Json} {r : Option (List String)} (h : texts v = .ok r) : ∀ ss ∈ r, Stated ss := by
  unfold texts at h
  split at h
  · obtain rfl := Except.ok.inj h
    simp
  · obtain rfl := Except.ok.inj h
    exact stated_kept _
  · obtain rfl := Except.ok.inj h
    exact stated_kept _
  · cases h

variable {r : Calendar.Reader}

theorem day_sound {v : Json} {d : Option Calendar.Date} (h : day r v = .ok d) : ∀ e ∈ d, e.Valid := by
  unfold day at h
  split at h
  · obtain rfl := Except.ok.inj h
    simp
  · split at h
    · obtain rfl := Except.ok.inj h
      simp
    · split at h
      · rename_i e hread
        obtain rfl := Except.ok.inj h
        simpa using r.day_valid hread
      · cases h
      · split at h <;> cases h
  · cases h

theorem integerFrom_sound {what : String} {least : Int} {v : Json} {r : Option Int}
    (h : integerFrom what least v = .ok r) : ∀ n ∈ r, least ≤ n := by
  unfold integerFrom at h
  split at h
  · obtain rfl := Except.ok.inj h
    simp
  · obtain ⟨read, -, h⟩ := Outcome.of_bind h
    cases read with
    | none => cases h
    | some n =>
      simp only at h
      split at h
      · cases h
      · rename_i hn
        obtain rfl := Except.ok.inj h
        simpa using hn

theorem window_sound {v : Json} {o : Option DateWindow} (h : window r v = .ok o) : ∀ w ∈ o, w.WellFormed := by
  unfold window at h
  split at h
  · obtain rfl := Except.ok.inj h
    simp
  · rename_i members
    obtain ⟨days, hdays, h⟩ := Outcome.of_bind h
    cases days with
    | some n =>
      obtain rfl := Except.ok.inj h
      have hn := integerFrom_sound hdays n rfl
      simpa [DateWindow.WellFormed, DateWindow.last] using hn
    | none =>
      obtain ⟨start, hstart, h⟩ := Outcome.of_bind h
      obtain ⟨stop, hstop, h⟩ := Outcome.of_bind h
      obtain rfl := Except.ok.inj h
      intro w hw
      split at hw
      · cases hw
      · rename_i hne
        obtain rfl := Option.some.inj hw
        refine ⟨?_, day_sound hstart, day_sound hstop⟩
        cases start <;> cases stop <;> simp_all [DateWindow.between]
  · cases h

theorem sortField_sound {v : Json} {s : SortField} (h : sortField v = .ok s) : s.WellFormed := by
  unfold sortField at h
  split at h
  · rename_i members _
    simp only at h
    split at h
    · cases h
    · rename_i htrue
      split at h
      · rename_i horder
        obtain rfl := Except.ok.inj h
        exact ⟨Json.asText_ne_empty (by simpa using htrue), by simpa using horder⟩
      · cases h
  · cases h

theorem sortFields_sound {items : List Json} {fields : List SortField}
    (h : items.mapM sortField = .ok fields) :
    fields.length = items.length ∧ ∀ s ∈ fields, s.WellFormed := by
  induction items generalizing fields with
  | nil =>
    obtain rfl := Except.ok.inj h
    simp
  | cons v items ih =>
    rw [List.mapM_cons] at h
    obtain ⟨s, hs, h⟩ := Outcome.of_bind h
    obtain ⟨more, hmore, h⟩ := Outcome.of_bind h
    obtain rfl := Except.ok.inj h
    obtain ⟨hl, hw⟩ := ih hmore
    exact ⟨by simp [hl], by simpa using ⟨sortField_sound hs, hw⟩⟩

theorem sort_sound {v : Json} {r : Option (List SortField)} (h : sort v = .ok r) :
    ∀ fields ∈ r, fields ≠ [] ∧ ∀ s ∈ fields, s.WellFormed := by
  unfold sort at h
  split at h
  · obtain rfl := Except.ok.inj h
    simp
  · rename_i htrue
    split at h
    · rename_i items
      cases hm : items.mapM sortField with
      | error fault =>
        rw [hm] at h
        cases h
      | ok fields =>
        rw [hm] at h
        obtain rfl := Except.ok.inj h
        obtain ⟨hl, hw⟩ := sortFields_sound hm
        intro stated hs
        obtain rfl := Option.some.inj hs
        refine ⟨?_, hw⟩
        rintro rfl
        cases items with
        | nil => simp [Json.isTruthy] at htrue
        | cons v items => simp at hl
    · cases h

theorem filters_sound {v : Json} {o : Option Filters} (h : filters r v = .ok o) : ∀ f ∈ o, f.WellFormed := by
  unfold filters at h
  split at h
  · obtain rfl := Except.ok.inj h
    simp
  · obtain ⟨status, hstatus, h⟩ := Outcome.of_bind h
    obtain ⟨issueTypes, hissueTypes, h⟩ := Outcome.of_bind h
    obtain ⟨priorities, hpriorities, h⟩ := Outcome.of_bind h
    obtain ⟨labels, hlabels, h⟩ := Outcome.of_bind h
    obtain ⟨components, hcomponents, h⟩ := Outcome.of_bind h
    obtain ⟨created, hcreated, h⟩ := Outcome.of_bind h
    obtain ⟨updated, hupdated, h⟩ := Outcome.of_bind h
    obtain rfl := Except.ok.inj h
    intro f hf
    obtain rfl := Option.some.inj hf
    exact ⟨text?_sound _, text?_sound _, texts_sound hstatus, texts_sound hissueTypes,
      texts_sound hpriorities, texts_sound hlabels, texts_sound hcomponents, window_sound hcreated,
      window_sound hupdated⟩
  · cases h

theorem intent_sound {v : Json} {i : Intent} (h : intent r v = .ok i) : i.WellFormed := by
  unfold intent at h
  split at h
  · obtain ⟨fs, hfilters, h⟩ := Outcome.of_bind h
    obtain ⟨fields, hsort, h⟩ := Outcome.of_bind h
    obtain ⟨limit, hlimit, h⟩ := Outcome.of_bind h
    obtain rfl := Except.ok.inj h
    exact ⟨filters_sound hfilters, text?_sound _, sort_sound hsort, integerFrom_sound hlimit⟩
  · cases h

end Payload

end IssueQuery

import IssueQuery.Proofs.Analysis.Partition
import IssueQuery.Proofs.Calendar.ClockText
import IssueQuery.Proofs.Text.PrefixFree
import Mathlib.Data.List.Nodup

namespace IssueQuery

open Calendar (Moment Timestamp)
open Text (PrefixFree quoted_prefixFree)

theorem OrderedMap.exists_mem_of_get? {α : Type} {m : OrderedMap α} {key : String} {value : α}
    (h : m.get? key = some value) : ∃ e ∈ m, e.2 = value := by
  obtain ⟨e, he, hvalue⟩ := Option.map_eq_some_iff.mp h
  exact ⟨e, List.mem_of_find?_eq_some he, hvalue⟩

namespace Value

def closing : List String → List Char
  | [] => [')']
  | s :: ss => ',' :: ' ' :: (Text.quoted s).toList ++ closing ss

theorem toList_quotedItems (s : String) (ss : List String) :
    (quotedItems ((s :: ss).map .text)).toList ++ [')'] = (Text.quoted s).toList ++ closing ss := by
  induction ss generalizing s with
  | nil => simp [quotedItems, quoted, closing]
  | cons t ss ih =>
    have ih := ih t
    simp only [List.map_cons] at ih
    simp only [List.map_cons, quotedItems, quoted, closing, String.toList_append, List.append_assoc, ih]
    simp

def afterFirst : List String → List Char
  | [] => [',', ')']
  | s :: ss => closing (s :: ss)

def tupleRest : List String → List Char
  | [] => [')']
  | s :: ss => (Text.quoted s).toList ++ afterFirst ss

theorem toList_tuple (ss : List String) : (asText (.tuple (ss.map .text))).toList = '(' :: tupleRest ss := by
  match ss with
  | [] => simp [asText, quoted, quotedItems, tupleRest]
  | [s] => simp [asText, quoted, tupleRest, afterFirst]
  | s :: t :: ss =>
    have hitems := toList_quotedItems s (t :: ss)
    simp only [List.map_cons] at hitems
    simp only [List.map_cons, asText, quoted, String.toList_append, tupleRest, afterFirst, List.append_assoc,
      ← hitems]
    simp

theorem closing_inj {ss ts : List String} (h : closing ss = closing ts) : ss = ts := by
  induction ss generalizing ts with
  | nil =>
    cases ts with
    | nil => rfl
    | cons t ts => simp [closing] at h
  | cons s ss ih =>
    cases ts with
    | nil => simp [closing] at h
    | cons t ts =>
      simp only [closing, List.cons_append, List.cons.injEq, true_and] at h
      obtain ⟨rfl, hrest⟩ := quoted_prefixFree s t _ _ h
      rw [ih hrest]

theorem afterFirst_inj {ss ts : List String} (h : afterFirst ss = afterFirst ts) : ss = ts := by
  cases ss <;> cases ts
  case nil.nil => rfl
  case nil.cons => simp [afterFirst, closing] at h
  case cons.nil => simp [afterFirst, closing] at h
  case cons.cons => exact closing_inj h

theorem quoted_ne_parenthesis (s : String) (rest tail : List Char) : (Text.quoted s).toList ++ rest ≠ ')' :: tail := by
  rw [Text.toList_quoted]
  rcases Text.isMark_quoteMark s.toList with hm | hm <;> simp [hm]

theorem tupleRest_inj {ss ts : List String} (h : tupleRest ss = tupleRest ts) : ss = ts := by
  cases ss <;> cases ts
  case nil.nil => rfl
  case nil.cons t ts => exact absurd h.symm (quoted_ne_parenthesis t _ _)
  case cons.nil s ss => exact absurd h (quoted_ne_parenthesis s _ _)
  case cons.cons s ss t ts =>
    obtain ⟨rfl, hrest⟩ := quoted_prefixFree s t _ _ h
    rw [afterFirst_inj hrest]

theorem asText_tuple_inj {ss ts : List String} (h : asText (.tuple (ss.map .text)) = asText (.tuple (ts.map .text))) :
    ss = ts := by
  have hlist := congrArg String.toList h
  rw [toList_tuple, toList_tuple] at hlist
  exact tupleRest_inj (List.cons.inj hlist).2

end Value

namespace IssueOf

def times (i : Issue) : List Moment :=
  i.created :: i.updated :: i.resolutionDate.toList

def Dated (i : Issue) : Prop :=
  ∀ t ∈ i.times, Timestamp.Valid t

end IssueOf

namespace Field

/-- The values that a field may have: all are texts, all are lists of tags, or all are points in time of the issue. -/
inductive Uniform (get : Accessor) : Prop
  | texts : (∀ i, ∀ v ∈ get i, ∃ s, v = .text s) → Uniform get
  | tags : (∀ i, ∃ ss, get i = some (.tags ss)) → Uniform get
  | times : (∀ i, ∀ v ∈ get i, ∃ t ∈ i.times, v = .time t) → Uniform get

theorem uniform_ofText (get : Issue → String) : Uniform (ofText get) := by
  refine .texts fun i v hv => ⟨get i, ?_⟩
  exact (Option.some.inj hv).symm

theorem uniform_ofOption (get : Issue → Option String) : Uniform (ofOption get) := by
  refine .texts fun i v hv => ?_
  obtain ⟨s, -, rfl⟩ := Option.map_eq_some_iff.mp hv
  exact ⟨s, rfl⟩

theorem uniform_ofTags (get : Issue → List String) : Uniform (ofTags get) :=
  .tags fun i => ⟨get i, rfl⟩

theorem uniform_ofTime {get : Issue → Moment} (h : ∀ i, get i ∈ i.times) : Uniform (ofTime get) := by
  refine .times fun i v hv => ⟨get i, h i, ?_⟩
  exact (Option.some.inj hv).symm

theorem uniform_resolutionDate : Uniform fun i => i.resolutionDate.map .time := by
  refine .times fun i v hv => ?_
  obtain ⟨t, ht, rfl⟩ := Option.map_eq_some_iff.mp hv
  exact ⟨t, by simp [IssueOf.times, ht], rfl⟩

theorem uniform_accessors : ∀ e ∈ accessors, Uniform e.2 := by
  have hcreated : Uniform (ofTime (·.created)) := uniform_ofTime fun i => by simp [IssueOf.times]
  have hupdated : Uniform (ofTime (·.updated)) := uniform_ofTime fun i => by simp [IssueOf.times]
  simp only [accessors, List.forall_mem_cons]
  exact ⟨uniform_ofText _, uniform_ofText _, uniform_ofText _, uniform_ofText _, uniform_ofText _, uniform_ofText _,
    uniform_ofText _, uniform_ofText _, uniform_ofOption _, uniform_ofOption _, uniform_ofOption _,
    uniform_ofOption _, hcreated, hupdated, uniform_resolutionDate, uniform_ofOption _, uniform_ofTags _,
    uniform_ofTags _, uniform_ofTags _, by simp⟩

theorem uniform_get (field : String) : Uniform (get · field) := by
  unfold get
  cases h : accessor? field with
  | none => exact .texts fun i v hv => by cases hv
  | some get =>
    obtain ⟨e, he, rfl⟩ := OrderedMap.exists_mem_of_get? h
    exact uniform_accessors e he

/-- Times of a field that are written alike, with their offsets, are the same, as they are where no clock is put back
or forward. -/
def WrittenApart (field : String) (records : List Issue) : Prop :=
  ∀ i ∈ records, ∀ j ∈ records, ∀ t u : Moment, get i field = some (.time t) → get j field = some (.time u) →
    t.toTimestamp = u.toTimestamp → (FieldValue.time t).key = (FieldValue.time u).key

theorem mem_times_of_get {field : String} {i : Issue} {t : Moment} (h : get i field = some (.time t)) :
    t ∈ i.times := by
  rcases uniform_get field with htexts | htags | htimes
  · obtain ⟨s, hs⟩ := htexts i _ h
    cases hs
  · obtain ⟨ss, hss⟩ := htags i
    rw [h] at hss
    cases hss
  · obtain ⟨u, hu, htu⟩ := htimes i _ h
    obtain rfl := FieldValue.time.inj htu
    exact hu

theorem writtenApart_of_times {records : List Issue} (h : ∀ i ∈ records, ∀ j ∈ records, ∀ t ∈ i.times, ∀ u ∈ j.times,
    t.toTimestamp = u.toTimestamp → t = u) (field : String) : WrittenApart field records := by
  intro i hi j hj t u ht hu heq
  rw [h i hi j hj t (mem_times_of_get ht) u (mem_times_of_get hu) heq]

theorem asText_time (t : Moment) : (FieldValue.time t).toValue.asText = t.text := by
  simp [FieldValue.toValue, Value.asText, Value.quoted]

theorem text_ne_unassigned {t : Timestamp} (h : t.Valid) : t.text ≠ unassignedLabel := by
  intro hlabel
  have hread := Timestamp.ofIso?_text h
  rw [hlabel] at hread
  have hnone : Timestamp.ofIso? unassignedLabel = none := by decide +kernel
  rw [hnone] at hread
  cases hread

theorem labelled_eq {field : String} {i : Issue} {v : FieldValue} (h : get i field = some v) :
    labelled i field = v := by
  rw [labelled, h, Option.getD_some]

theorem labelled_of_none {field : String} {i : Issue} (h : get i field = none) :
    labelled i field = .text unassignedLabel := by
  rw [labelled, h, Option.getD_none]

theorem labelled_of_texts {field : String} (htexts : ∀ i v, get i field = some v → ∃ s, v = .text s) (i : Issue) :
    ∃ s, labelled i field = .text s := by
  cases hget : get i field with
  | none => exact ⟨_, labelled_of_none hget⟩
  | some v =>
    obtain ⟨s, rfl⟩ := htexts i v hget
    exact ⟨s, labelled_eq hget⟩

theorem labelled_of_times {field : String} (htimes : ∀ i v, get i field = some v → ∃ t ∈ i.times, v = .time t)
    {i : Issue} (h : i.Dated) : labelled i field = .text unassignedLabel ∨
      ∃ t : Moment, Timestamp.Valid t ∧ get i field = some (.time t) ∧ labelled i field = .time t := by
  cases hget : get i field with
  | none => exact .inl (labelled_of_none hget)
  | some v =>
    obtain ⟨t, ht, rfl⟩ := htimes i v hget
    exact .inr ⟨t, h t ht, rfl, labelled_eq hget⟩

theorem key_of_asText {field : String} {records : List Issue} (hapart : WrittenApart field records) {i j : Issue}
    (hmi : i ∈ records) (hmj : j ∈ records) (hi : i.Dated) (hj : j.Dated)
    (h : (labelled i field).toValue.asText = (labelled j field).toValue.asText) : key field i = key field j := by
  unfold key
  rcases uniform_get field with htexts | htags | htimes
  · obtain ⟨s, hs⟩ := labelled_of_texts htexts i
    obtain ⟨t, ht⟩ := labelled_of_texts htexts j
    rw [hs, ht] at h ⊢
    obtain rfl : s = t := h
    rfl
  · obtain ⟨ss, hss⟩ := htags i
    obtain ⟨ts, hts⟩ := htags j
    rw [labelled_eq hss, labelled_eq hts] at h ⊢
    rw [Value.asText_tuple_inj h]
  · -- The label stands for no time, and its text is not one of a time.
    rcases labelled_of_times htimes hi with hs | ⟨t, ht, hget, hs⟩ <;>
      rcases labelled_of_times htimes hj with hu | ⟨u, hu', hget', hu⟩ <;> rw [hs, hu] at h ⊢
    · rw [asText_time] at h
      exact absurd h.symm (text_ne_unassigned hu')
    · rw [asText_time] at h
      exact absurd h (text_ne_unassigned ht)
    · rw [asText_time, asText_time] at h
      exact hapart i hmi j hmj t u hget hget' (Timestamp.text_inj ht hu' h)

end Field

namespace Group

variable {records : List Issue}

theorem nodup_texts {field : String} (hapart : Field.WrittenApart field records) (fields : List String)
    (h : ∀ i ∈ records, i.Dated) :
    ((groupBy (field :: fields) records).map (·.value.asText)).Nodup := by
  rw [groupBy_cons, List.map_map]
  apply List.Nodup.map_on _ nodup_keysOf
  intro k hk l hl htext
  obtain ⟨x, hx, rfl, hxv⟩ := exists_branch_value fields hk
  obtain ⟨y, hy, rfl, hyv⟩ := exists_branch_value fields hl
  simp only [Function.comp_apply, hxv, hyv] at htext
  exact Field.key_of_asText hapart hx hy (h x hx) (h y hy) htext

end Group

end IssueQuery

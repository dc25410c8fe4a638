import IssueQuery.Analysis.Measure
import IssueQuery.Proofs.OrderedMap
import IssueQuery.Proofs.Outcome

namespace IssueQuery

open Calendar (Timestamp)

namespace Registry

variable {r : Registry} {records : List Issue} {now : Timestamp} {names : List String} {name : String}
  {values : OrderedMap Value}

section Evaluation

theorem evaluate_eq (r : Registry) (records : List Issue) (now : Timestamp) (names : List String) :
    r.evaluate records now names =
      (names.mapM (r.value records now)).map fun found => OrderedMap.ofList (names.zip found) :=
  Outcome.foldlM_map (r.value records now) OrderedMap.put names []

theorem of_evaluate (h : r.evaluate records now names = .ok values) :
    ∃ found, List.Forall₂ (fun name v => r.value records now name = .ok v) names found ∧
      values = OrderedMap.ofList (names.zip found) := by
  rw [evaluate_eq] at h
  cases hm : names.mapM (r.value records now) with
  | error fault =>
    rw [hm] at h
    cases h
  | ok found =>
    rw [hm] at h
    exact ⟨found, Outcome.mapM_eq_ok_iff.mp hm, (Except.ok.inj h).symm⟩

theorem evaluate_eq_error_iff {fault : Fault} : r.evaluate records now names = .error fault ↔
    names.mapM (r.value records now) = .error fault := by
  rw [evaluate_eq]
  cases names.mapM (r.value records now) with
  | error g => simp [Except.map]
  | ok found => simp [Except.map]

theorem exists_evaluate_iff : (∃ values, r.evaluate records now names = .ok values) ↔
    ∀ name ∈ names, ∃ v, r.value records now name = .ok v := by
  rw [← Outcome.exists_mapM_iff]
  constructor
  · rintro ⟨values, h⟩
    obtain ⟨found, hfound, -⟩ := of_evaluate h
    exact ⟨found, Outcome.mapM_eq_ok_iff.mpr hfound⟩
  · rintro ⟨found, h⟩
    exact ⟨_, by rw [evaluate_eq, h]; rfl⟩

theorem keys_evaluate (h : r.evaluate records now names = .ok values) : values.keys = distinct names := by
  obtain ⟨found, hfound, rfl⟩ := of_evaluate h
  rw [OrderedMap.keys_ofList, OrderedMap.keys, List.map_fst_zip (Nat.le_of_eq hfound.length_eq)]

theorem nodup_keys_evaluate (h : r.evaluate records now names = .ok values) : values.keys.Nodup := by
  rw [keys_evaluate h]
  exact nodup_distinct names

theorem get?_evaluate (h : r.evaluate records now names = .ok values) :
    ∀ name ∈ names, ∃ v, r.value records now name = .ok v ∧ values.get? name = some v := by
  obtain ⟨found, hfound, hvalues⟩ := of_evaluate h
  intro name hname
  cases hv : values.get? name with
  | none =>
    rw [OrderedMap.get?_eq_none_iff, keys_evaluate h, mem_distinct] at hv
    exact absurd hname hv
  | some v =>
    refine ⟨v, ?_, rfl⟩
    have hwritten : OrderedMap.get? (names.zip found).reverse name = some v := by
      rwa [hvalues, OrderedMap.ofList, OrderedMap.get?_merge, show OrderedMap.get? [] name = none from rfl,
        Option.or_none] at hv
    obtain ⟨before, after, hzip, -⟩ := OrderedMap.get?_reverse_eq_some_iff.mp hwritten
    exact List.forall₂_zip hfound (hzip ▸ List.mem_append_right _ List.mem_cons_self)

theorem evaluate_append (r : Registry) (records : List Issue) (now : Timestamp) (names more : List String) :
    r.evaluate records now (names ++ more) = do
      let values ← r.evaluate records now names
      let others ← r.evaluate records now more
      return values.merge others := by
  rw [evaluate_eq, evaluate_eq, evaluate_eq, List.mapM_append]
  cases hnames : names.mapM (r.value records now) with
  | error fault => rfl
  | ok found =>
    cases more.mapM (r.value records now) with
    | error fault => rfl
    | ok others =>
      have hlength : names.length = found.length := (Outcome.mapM_eq_ok_iff.mp hnames).length_eq
      have hjoined : OrderedMap.ofList ((names ++ more).zip (found ++ others)) =
          (OrderedMap.ofList (names.zip found)).merge (OrderedMap.ofList (more.zip others)) := by
        rw [List.zip_append hlength, OrderedMap.merge_ofList (OrderedMap.nodup_keys_ofList _)]
        exact List.foldl_append
      exact congrArg Except.ok hjoined

end Evaluation

section Names

def IsLast (registered : OrderedMap Measure) (name : String) (m : Measure) : Prop :=
  ∃ before spelling after, registered = before ++ (spelling, m) :: after ∧ Text.fold spelling = Text.fold name ∧
    ∀ e ∈ after, Text.fold e.1 ≠ Text.fold name

def folded (registered : OrderedMap Measure) : OrderedMap Measure :=
  registered.map fun e => (Text.fold e.1, e.2)

theorem measures_extend (r : Registry) (extra : OrderedMap Measure) :
    (r.extend extra).measures = r.measures.merge (folded extra) := by
  induction extra generalizing r with
  | nil => rfl
  | cons e extra ih => exact ih (r.put e.1 e.2)

theorem noun_extend (r : Registry) (extra : OrderedMap Measure) : (r.extend extra).noun = r.noun := by
  induction extra generalizing r with
  | nil => rfl
  | cons e extra ih => exact ih (r.put e.1 e.2)

variable {noun : String} {registered : OrderedMap Measure} {m : Measure}

theorem extend_ofMeasures (noun : String) (registered extra : OrderedMap Measure) :
    (ofMeasures noun registered).extend extra = ofMeasures noun (registered ++ extra) :=
  List.foldl_append.symm

theorem get?_ofMeasures (noun : String) (registered : OrderedMap Measure) (name : String) :
    (ofMeasures noun registered).get? name = OrderedMap.get? (folded registered).reverse (Text.fold name) := by
  have hmeasures : (ofMeasures noun registered).measures = OrderedMap.merge [] (folded registered) :=
    measures_extend ⟨noun, []⟩ registered
  rw [get?, hmeasures, OrderedMap.get?_merge, show OrderedMap.get? [] (Text.fold name) = none from rfl, Option.or_none]

theorem get?_ofMeasures_iff : (ofMeasures noun registered).get? name = some m ↔ IsLast registered name m := by
  rw [get?_ofMeasures, OrderedMap.get?_reverse_eq_some_iff]
  constructor
  · rintro ⟨before, after, h, hafter⟩
    obtain ⟨before, rest, rfl, rfl, hrest⟩ := List.map_eq_append_iff.mp h
    obtain ⟨⟨spelling, measure⟩, after, rfl, he, rfl⟩ := List.map_eq_cons_iff.mp hrest
    obtain ⟨hspelling, rfl⟩ := Prod.ext_iff.mp he
    refine ⟨before, spelling, after, rfl, hspelling, fun e he hfold => hafter ?_⟩
    exact List.mem_map.mpr ⟨_, List.mem_map_of_mem he, hfold⟩
  · rintro ⟨before, spelling, after, rfl, hspelling, hafter⟩
    refine ⟨folded before, folded after, by rw [← hspelling]; simp [folded], fun hmem => ?_⟩
    obtain ⟨e, he, hfold⟩ := List.mem_map.mp hmem
    obtain ⟨d, hd, rfl⟩ := List.mem_map.mp he
    exact hafter d hd hfold

theorem has_ofMeasures_iff :
    (ofMeasures noun registered).has name = true ↔ ∃ e ∈ registered, Text.fold e.1 = Text.fold name := by
  rw [has, Option.isSome_iff_ne_none, ne_eq, get?_ofMeasures, OrderedMap.get?_eq_none_iff, not_not, OrderedMap.keys,
    List.map_reverse, List.mem_reverse, folded, List.map_map, List.mem_map]
  rfl

theorem exists_isLast (h : (ofMeasures noun registered).has name = true) : ∃ m, IsLast registered name m := by
  obtain ⟨m, hm⟩ := Option.isSome_iff_exists.mp h
  exact ⟨m, get?_ofMeasures_iff.mp hm⟩

theorem IsLast.of_fold {other : String} (h : IsLast registered name m) (hfold : Text.fold name = Text.fold other) :
    IsLast registered other m := by
  unfold IsLast at h ⊢
  rwa [← hfold]

theorem value_of_isLast (noun : String) (h : IsLast registered name m) :
    (ofMeasures noun registered).value records now name = m records now := by
  rw [value, get?_ofMeasures_iff.mpr h]

theorem value_of_unknown (h : (ofMeasures noun registered).has name = false) :
    (ofMeasures noun registered).value records now name = .ok (.text ("Unknown " ++ noun ++ ": " ++ name)) := by
  have hnoun : (ofMeasures noun registered).noun = noun := noun_extend ⟨noun, []⟩ registered
  rw [has, Option.isSome_eq_false_iff, Option.isNone_iff_eq_none] at h
  rw [value, h, hnoun]

theorem exists_value_iff : (∃ v, (ofMeasures noun registered).value records now name = .ok v) ↔
    ∀ m, IsLast registered name m → ∃ v, m records now = .ok v := by
  constructor
  · rintro ⟨v, hv⟩ m hm
    exact ⟨v, (value_of_isLast noun hm).symm.trans hv⟩
  · intro h
    cases hname : (ofMeasures noun registered).has name with
    | true =>
      obtain ⟨m, hm⟩ := exists_isLast hname
      obtain ⟨v, hv⟩ := h m hm
      exact ⟨v, (value_of_isLast noun hm).trans hv⟩
    | false => exact ⟨_, value_of_unknown hname⟩

theorem value_eq_error_iff {fault : Fault} : (ofMeasures noun registered).value records now name = .error fault ↔
    ∃ m, IsLast registered name m ∧ m records now = .error fault := by
  constructor
  · intro h
    cases hname : (ofMeasures noun registered).has name with
    | true =>
      obtain ⟨m, hm⟩ := exists_isLast hname
      exact ⟨m, hm, (value_of_isLast noun hm).symm.trans h⟩
    | false =>
      rw [value_of_unknown hname] at h
      cases h
  · rintro ⟨m, hm, h⟩
    exact (value_of_isLast noun hm).trans h

end Names

/-- What a registry says of names, by the measures in the order in which they were registered. -/
structure LooksUp (r : Registry) (noun : String) (registered : OrderedMap Measure) : Prop where
  has_iff : ∀ name, r.has name = true ↔ ∃ e ∈ registered, Text.fold e.1 = Text.fold name
  keys : ∀ {records now names values}, r.evaluate records now names = .ok values → values.keys = distinct names
  known : ∀ {records now names values}, r.evaluate records now names = .ok values →
    ∀ name ∈ names, r.has name = true →
      ∃ m v, IsLast registered name m ∧ m records now = .ok v ∧ values.get? name = some v
  unknown : ∀ {records now names values}, r.evaluate records now names = .ok values →
    ∀ name ∈ names, r.has name = false → values.get? name = some (.text ("Unknown " ++ noun ++ ": " ++ name))
  sameName : ∀ {records now names values}, r.evaluate records now names = .ok values →
    ∀ name ∈ names, ∀ other ∈ names, Text.fold name = Text.fold other → r.has name = true →
      values.get? name = values.get? other
  answers : ∀ {records now names}, (∃ values, r.evaluate records now names = .ok values) ↔
    ∀ name ∈ names, ∀ m, IsLast registered name m → ∃ v, m records now = .ok v
  fails : ∀ {records now names fault}, r.evaluate records now names = .error fault ↔
    ∃ before name after, names = before ++ name :: after ∧
      (∀ other ∈ before, ∀ m, IsLast registered other m → ∃ v, m records now = .ok v) ∧
      ∃ m, IsLast registered name m ∧ m records now = .error fault
  append : ∀ records now names more, r.evaluate records now (names ++ more) = do
    let values ← r.evaluate records now names
    let others ← r.evaluate records now more
    return values.merge others

theorem lookUp_ofMeasures (noun : String) (registered : OrderedMap Measure) :
    LooksUp (ofMeasures noun registered) noun registered where
  has_iff _ := has_ofMeasures_iff
  keys := keys_evaluate
  known h name hname hhas := by
    obtain ⟨v, hv, hget⟩ := get?_evaluate h name hname
    obtain ⟨m, hm⟩ := exists_isLast hhas
    exact ⟨m, v, hm, (value_of_isLast noun hm).symm.trans hv, hget⟩
  unknown h name hname hhas := by
    obtain ⟨v, hv, hget⟩ := get?_evaluate h name hname
    rw [value_of_unknown hhas] at hv
    rw [hget, Except.ok.inj hv]
  sameName h name hname other hother hfold hhas := by
    obtain ⟨v, hv, hget⟩ := get?_evaluate h name hname
    obtain ⟨w, hw, hother⟩ := get?_evaluate h other hother
    obtain ⟨m, hm⟩ := exists_isLast hhas
    rw [value_of_isLast noun hm] at hv
    rw [value_of_isLast noun (hm.of_fold hfold), hv] at hw
    rw [hget, hother, Except.ok.inj hw]
  answers := by
    simp only [exists_evaluate_iff, exists_value_iff, implies_true]
  fails := by
    simp only [evaluate_eq_error_iff, Outcome.mapM_eq_error_iff, exists_value_iff, value_eq_error_iff, implies_true]
  append := evaluate_append _

theorem engines_lookUp (extra : OrderedMap Measure) :
    LooksUp (calculations.extend extra) "calculation" (Measure.calculations ++ extra) ∧
      LooksUp (aggregations.extend extra) "aggregation" (Measure.aggregations ++ extra) := by
  unfold calculations aggregations
  rw [extend_ofMeasures, extend_ofMeasures]
  exact ⟨lookUp_ofMeasures _ _, lookUp_ofMeasures _ _⟩

end Registry

end IssueQuery

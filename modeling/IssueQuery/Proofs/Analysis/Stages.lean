import IssueQuery.Proofs.Analysis.Lookup
import IssueQuery.Proofs.Analysis.Merging
import IssueQuery.Proofs.Analysis.Priority
import IssueQuery.Tracker.Sample
import Mathlib.Data.List.Sort

namespace IssueQuery

open Calendar (Timestamp)

namespace Processed

def ofRecords (records : List Issue) : Processed :=
  { Processed.empty with records := records }

def ofProcessors (names : List String) : Processed :=
  { Processed.empty with metadata := [("processors", Stage.texts names)] }

end Processed

namespace Stage

/-- The parts of the stages that apply, each merged into those before it, and last their names. -/
def foldParts (ordered : List Stage) (c : ProcessingContext) : Outcome Processed := do
  let applicable := ordered.filter (·.applies c)
  let parts ← applicable.mapM (·.apply c)
  return (parts.foldl Processed.merge (.ofRecords c.records)).merge (.ofProcessors (applicable.map (·.name)))

def guarded (otherwise : Stage → ProcessingContext → Outcome Processed) (s : Stage) : Stage :=
  { s with apply := fun c => if s.applies c then s.apply c else otherwise s c }

variable {stages : List Stage} {c : ProcessingContext}

theorem ranked_of_whole (h : ∀ s ∈ stages, ∃ n : Int, s.priority = .whole n) : Ranked stages := by
  intro s hs
  obtain ⟨n, hn⟩ := h s hs
  rw [hn]
  rfl

theorem foldlM_step (r : Processed) :
    stages.foldlM (step c) r = do
      let parts ← stages.mapM (·.apply c)
      return parts.foldl Processed.merge r := by
  induction stages generalizing r with
  | nil => rfl
  | cons s stages ih =>
    rw [List.foldlM_cons, List.mapM_cons]
    cases hs : s.apply c with
    | error fault => simp only [step, hs]; rfl
    | ok part =>
      have hstep : step c r s = .ok (r.merge part) := by rw [step, hs]; rfl
      rw [hstep]
      change stages.foldlM (step c) (r.merge part) = _
      rw [ih]
      cases stages.mapM (·.apply c) <;> rfl

theorem process_eq (stages : List Stage) (c : ProcessingContext) :
    process stages c = foldParts (inOrder stages) c := by
  unfold process foldParts
  simp only [foldlM_step, bind_assoc, pure_bind]
  rfl

section Guarded

variable (otherwise : Stage → ProcessingContext → Outcome Processed)

theorem inOrder_guarded (stages : List Stage) :
    inOrder (stages.map (guarded otherwise)) = (inOrder stages).map (guarded otherwise) :=
  (List.map_mergeSort (f := guarded otherwise) fun _ _ _ _ => rfl).symm

theorem mapM_guarded (h : ∀ s ∈ stages, s.applies c = true) :
    (stages.map (guarded otherwise)).mapM (·.apply c) = stages.mapM (·.apply c) := by
  induction stages with
  | nil => rfl
  | cons s stages ih =>
    have hs : (guarded otherwise s).apply c = s.apply c := if_pos (h s List.mem_cons_self)
    rw [List.map_cons, List.mapM_cons, List.mapM_cons, hs, ih fun t ht => h t (List.mem_cons_of_mem s ht)]

theorem foldParts_guarded (ordered : List Stage) (c : ProcessingContext) :
    foldParts (ordered.map (guarded otherwise)) c = foldParts ordered c := by
  have hfilter : (ordered.map (guarded otherwise)).filter (·.applies c) =
      (ordered.filter (·.applies c)).map (guarded otherwise) := by
    rw [List.filter_map]
    rfl
  have hparts : ((ordered.filter (·.applies c)).map (guarded otherwise)).mapM (·.apply c) =
      (ordered.filter (·.applies c)).mapM (·.apply c) :=
    mapM_guarded otherwise fun s hs => (List.mem_filter.mp hs).2
  unfold foldParts
  simp only [hfilter, hparts, List.map_map]
  rfl

theorem process_guarded (stages : List Stage) (c : ProcessingContext) :
    process (stages.map (guarded otherwise)) c = process stages c := by
  rw [process_eq, process_eq, inOrder_guarded, foldParts_guarded]

end Guarded

theorem process_of_perm {others : List Stage} (h : Ranked stages) (hp : others.Perm stages)
    (hs : ∀ p : Number.Quantity, others.filter (·.priority.equal p) = stages.filter (·.priority.equal p)) :
    process others c = process stages c := by
  rw [process_eq, process_eq, inOrder_of_perm h hp hs]

end Stage

namespace Registry

/-- The measures of the records at the time of a clock, which is looked at only if some are asked for. -/
def asked (r : Registry) (records : List Issue) (clock : Outcome Timestamp) (names : List String) :
    Outcome (OrderedMap Value) :=
  if names.isEmpty then .ok [] else do
    let now ← clock
    r.evaluate records now names

theorem nodup_keys_asked {r : Registry} {records : List Issue} {clock : Outcome Timestamp} {names : List String}
    {values : OrderedMap Value} (h : r.asked records clock names = .ok values) : values.keys.Nodup := by
  unfold asked at h
  split at h
  · obtain rfl := Except.ok.inj h
    exact List.nodup_nil
  · obtain ⟨now, -, h⟩ := Outcome.of_bind h
    exact nodup_keys_evaluate h

end Registry

namespace Stage

variable {stages : List Stage} {c : ProcessingContext} {r : Processed} {now later : Outcome Timestamp}

def stepIf (c : ProcessingContext) (r : Processed) (s : Stage) : Outcome Processed :=
  if s.applies c then step c r s else pure r

def groupNotes (c : ProcessingContext) : OrderedMap Value :=
  if c.options.groupBy.isEmpty then []
  else
    [("grouped_by", texts c.options.groupBy),
      ("group_count", .int (Group.groupBy c.options.groupBy c.records).length)]

def countNotes (noun : String) (names : List String) (values : OrderedMap Value) : OrderedMap Value :=
  if names.isEmpty then [] else [(noun, .int values.length)]

theorem stepIf_grouping (c : ProcessingContext) (r : Processed) :
    stepIf c r grouping = .ok { r with
      groups := Processed.laterList r.groups (Group.groupBy c.options.groupBy c.records)
      metadata := r.metadata.merge (groupNotes c) } := by
  unfold stepIf groupNotes
  cases hg : c.options.groupBy with
  | nil => simp [grouping, hg]; rfl
  | cons field fields => simp [grouping, hg, step]; rfl

theorem stepIf_measured {s : Stage} {names : List String} (registry : Registry) (clock : Outcome Timestamp)
    (noun : String) (part : OrderedMap Value → Processed) (hnone : r.merge (part []) = r)
    (happlies : s.applies c = !names.isEmpty)
    (happly : s.apply c = do
      let now ← clock
      let values ← registry.evaluate c.records now names
      return { part values with metadata := [(noun, .int values.length)] }) :
    stepIf c r s = do
      let values ← registry.asked c.records clock names
      return { r.merge (part values) with metadata := r.metadata.merge (countNotes noun names values) } := by
  unfold stepIf step Registry.asked countNotes
  rw [happlies, happly]
  cases names.isEmpty with
  | true =>
    change Except.ok r = Except.ok { r.merge (part []) with metadata := r.metadata }
    rw [hnone]
  | false =>
    cases clock with
    | error fault => rfl
    | ok now =>
      change Except.map r.merge (registry.evaluate c.records now names >>= _) =
        (registry.evaluate c.records now names >>= _)
      cases registry.evaluate c.records now names <;> rfl

theorem stepIf_calculation (c : ProcessingContext) (r : Processed) (clock : Outcome Timestamp) :
    stepIf c r (calculation clock) = do
      let values ← Registry.calculations.asked c.records clock c.options.calculate
      return { r with
        calculations := r.calculations.merge values
        metadata := r.metadata.merge (countNotes "calculation_count" c.options.calculate values) } :=
  stepIf_measured Registry.calculations clock "calculation_count"
    (fun values => { Processed.empty with calculations := values }) rfl rfl rfl

theorem stepIf_aggregation (c : ProcessingContext) (r : Processed) (clock : Outcome Timestamp) :
    stepIf c r (aggregation clock) = do
      let values ← Registry.aggregations.asked c.records clock c.options.aggregate
      return { r with
        aggregations := r.aggregations.merge values
        metadata := r.metadata.merge (countNotes "aggregation_count" c.options.aggregate values) } :=
  stepIf_measured Registry.aggregations clock "aggregation_count"
    (fun values => { Processed.empty with aggregations := values }) rfl rfl rfl

def threefold (now later : Outcome Timestamp) : List Stage :=
  [grouping, calculation now, aggregation later]

theorem ascending_threefold (now later : Outcome Timestamp) : (threefold now later).Pairwise (rank · < rank ·) := by
  simp only [threefold, rank, grouping, calculation, aggregation, List.pairwise_cons, List.mem_cons,
    List.not_mem_nil, or_false, forall_eq_or_imp, forall_eq, List.Pairwise.nil, and_true, false_imp_iff,
    implies_true]
  decide

theorem ranked_threefold (h : stages.Perm (threefold now later)) : Ranked stages := by
  apply ranked_of_whole
  intro s hs
  have hs := h.mem_iff.mp hs
  simp only [threefold, List.mem_cons, List.not_mem_nil, or_false] at hs
  rcases hs with rfl | rfl | rfl
  · exact ⟨10, rfl⟩
  · exact ⟨20, rfl⟩
  · exact ⟨30, rfl⟩

theorem inOrder_threefold (h : stages.Perm (threefold now later)) : inOrder stages = threefold now later := by
  have hperm : (inOrder stages).Perm (threefold now later) := (inOrder_perm stages).trans h
  apply hperm.eq_of_pairwise ?_ (inOrder_ascending (ranked_threefold h)) ((ascending_threefold now later).imp le_of_lt)
  intro a b ha hb hab hba
  have hdistinct : ((threefold now later).map rank).Nodup :=
    List.pairwise_map.mpr ((ascending_threefold now later).imp ne_of_lt)
  exact List.inj_on_of_nodup_map hdistinct (hperm.mem_iff.mp ha) hb (le_antisymm hab hba)

def threefoldResult (now later : Outcome Timestamp) (c : ProcessingContext) : Outcome Processed := do
  let calculations ← Registry.calculations.asked c.records now c.options.calculate
  let aggregations ← Registry.aggregations.asked c.records later c.options.aggregate
  return {
    records := c.records
    groups := Group.groupBy c.options.groupBy c.records
    calculations := calculations
    aggregations := aggregations
    metadata := groupNotes c ++ countNotes "calculation_count" c.options.calculate calculations ++
      countNotes "aggregation_count" c.options.aggregate aggregations ++
      [("processors", texts (((threefold now later).filter (·.applies c)).map (·.name)))] }

theorem process_eq_stepIf (stages : List Stage) (c : ProcessingContext) :
    process stages c = do
      let result ← (inOrder stages).foldlM (stepIf c) (.ofRecords c.records)
      return result.merge (.ofProcessors (((inOrder stages).filter (·.applies c)).map (·.name))) := by
  unfold process
  simp only [List.foldlM_filter]
  rfl

theorem keys_groupNotes_sublist (c : ProcessingContext) :
    (groupNotes c).keys.Sublist ["grouped_by", "group_count"] := by
  unfold groupNotes
  split
  · exact List.nil_sublist _
  · exact List.Sublist.refl _

theorem keys_countNotes_sublist (noun : String) (names : List String) (values : OrderedMap Value) :
    (countNotes noun names values).keys.Sublist [noun] := by
  unfold countNotes
  split
  · exact List.nil_sublist _
  · exact List.Sublist.refl _

theorem merge_notes (c : ProcessingContext) (calculations aggregations names : OrderedMap Value)
    (h : names.keys = ["processors"]) :
    OrderedMap.merge (OrderedMap.merge (OrderedMap.merge (OrderedMap.merge [] (groupNotes c))
      (countNotes "calculation_count" c.options.calculate calculations))
      (countNotes "aggregation_count" c.options.aggregate aggregations)) names =
    groupNotes c ++ countNotes "calculation_count" c.options.calculate calculations ++
      countNotes "aggregation_count" c.options.aggregate aggregations ++ names := by
  -- The stages write under different names, so that no note takes the place of another.
  have hsub := ((keys_groupNotes_sublist c).append
    (keys_countNotes_sublist "calculation_count" c.options.calculate calculations)).append
    (keys_countNotes_sublist "aggregation_count" c.options.aggregate aggregations)
  have hnodup := (hsub.append (List.Sublist.refl ["processors"])).nodup (by decide)
  rw [← h] at hnodup
  simp only [OrderedMap.keys, ← List.map_append] at hnodup
  have hbefore {m n : OrderedMap Value} (h : (OrderedMap.keys (m ++ n)).Nodup) : m.keys.Nodup := by
    rw [OrderedMap.keys, List.map_append] at h
    exact h.of_append_left
  rw [OrderedMap.nil_merge (hbefore (hbefore (hbefore hnodup))),
    OrderedMap.merge_of_nodup (hbefore (hbefore hnodup)), OrderedMap.merge_of_nodup (hbefore hnodup),
    OrderedMap.merge_of_nodup hnodup]

theorem process_threefold (h : stages.Perm (threefold now later)) (c : ProcessingContext) :
    process stages c = threefoldResult now later c := by
  rw [process_eq_stepIf, inOrder_threefold h]
  unfold threefoldResult
  -- The names of the stages are not taken apart with the fold.
  generalize ((threefold now later).filter (·.applies c)).map (·.name) = names
  simp only [threefold, List.foldlM_cons, List.foldlM_nil, stepIf_grouping]
  change (stepIf c _ (calculation now) >>= _) >>= _ = _
  simp only [stepIf_calculation, stepIf_aggregation]
  cases hcalc : Registry.calculations.asked c.records now c.options.calculate with
  | error fault => rfl
  | ok calculations =>
    cases hagg : Registry.aggregations.asked c.records later c.options.aggregate with
    | error fault => rfl
    | ok aggregations =>
      change Except.ok _ = Except.ok _
      rw [← merge_notes c calculations aggregations [("processors", texts names)] rfl]
      simp only [Processed.merge, Processed.ofRecords, Processed.ofProcessors, Processed.empty,
        Processed.nil_laterList, OrderedMap.nil_merge (Registry.nodup_keys_asked hcalc),
        OrderedMap.nil_merge (Registry.nodup_keys_asked hagg)]
      rfl

theorem threefoldResult_fields (h : threefoldResult now later c = .ok r) :
    r.records = c.records ∧ r.groups = Group.groupBy c.options.groupBy c.records ∧
      Registry.calculations.asked c.records now c.options.calculate = .ok r.calculations ∧
      Registry.aggregations.asked c.records later c.options.aggregate = .ok r.aggregations := by
  obtain ⟨calculations, hcalc, h⟩ := Outcome.of_bind h
  obtain ⟨aggregations, hagg, h⟩ := Outcome.of_bind h
  obtain rfl := Except.ok.inj h
  exact ⟨rfl, rfl, hcalc, hagg⟩

theorem threefoldResult_empty (h : threefoldResult now later c = .ok r) :
    (c.options.groupBy = [] → r.groups = []) ∧ (c.options.calculate = [] → r.calculations = []) ∧
      (c.options.aggregate = [] → r.aggregations = []) := by
  obtain ⟨-, hgroups, hcalc, hagg⟩ := threefoldResult_fields h
  refine ⟨fun hn => ?_, fun hn => ?_, fun hn => ?_⟩
  · rw [hgroups, hn]
    rfl
  · rw [hn] at hcalc
    exact (Except.ok.inj hcalc).symm
  · rw [hn] at hagg
    exact (Except.ok.inj hagg).symm

theorem threefoldResult_independent {c' : ProcessingContext} {r' : Processed}
    (h : threefoldResult now later c = .ok r) (h' : threefoldResult now later c' = .ok r')
    (hrecords : c'.records = c.records) :
    (c'.options.groupBy = c.options.groupBy → r'.groups = r.groups) ∧
      (c'.options.calculate = c.options.calculate → r'.calculations = r.calculations) ∧
      (c'.options.aggregate = c.options.aggregate → r'.aggregations = r.aggregations) := by
  obtain ⟨-, hgroups, hcalc, hagg⟩ := threefoldResult_fields h
  obtain ⟨-, hgroups', hcalc', hagg'⟩ := threefoldResult_fields h'
  rw [hrecords] at hgroups' hcalc' hagg'
  refine ⟨fun hn => ?_, fun hn => ?_, fun hn => ?_⟩
  · rw [hgroups, hgroups', hn]
  · rw [hn, hcalc] at hcalc'
    exact (Except.ok.inj hcalc').symm
  · rw [hn, hagg] at hagg'
    exact (Except.ok.inj hagg').symm

theorem process_by_priority {stages : List Stage} (h : Ranked stages) (c : ProcessingContext) :
    (∃ ordered, (∀ others, InPriorityOrder stages others ↔ others = ordered) ∧
      process stages c = foldParts ordered c) ∧
    (∀ otherwise, process (stages.map (guarded otherwise)) c = process stages c) ∧
    (∀ others : List Stage, others.Perm stages →
      (∀ p : Number.Quantity, others.filter (·.priority.equal p) = stages.filter (·.priority.equal p)) →
      process others c = process stages c) ∧
    (∀ now later, stages.Perm (threefold now later) →
      process stages c = threefoldResult now later c ∧
      ∀ r, process stages c = .ok r →
        ((c.options.groupBy = [] → r.groups = []) ∧ (c.options.calculate = [] → r.calculations = []) ∧
          (c.options.aggregate = [] → r.aggregations = [])) ∧
        ∀ c' r', c'.records = c.records → process stages c' = .ok r' →
          (c'.options.groupBy = c.options.groupBy → r'.groups = r.groups) ∧
          (c'.options.calculate = c.options.calculate → r'.calculations = r.calculations) ∧
          (c'.options.aggregate = c.options.aggregate → r'.aggregations = r.aggregations)) := by
  refine ⟨⟨inOrder stages, fun others => inPriorityOrder_iff h, process_eq stages c⟩, ?_, ?_, ?_⟩
  · intro otherwise
    exact process_guarded otherwise stages c
  · intro others hp hs
    exact process_of_perm h hp hs
  · intro now later hperm
    refine ⟨process_threefold hperm c, fun r hr => ?_⟩
    rw [process_threefold hperm] at hr
    refine ⟨threefoldResult_empty hr, fun c' r' hrecords hr' => ?_⟩
    rw [process_threefold hperm] at hr'
    exact threefoldResult_independent hr hr' hrecords

theorem process_by_priority_last_first :
    let now : Timestamp := ⟨0, some 0⟩
    let bug := Sample.paymentBug now now
    process [aggregation (.ok now), calculation (.ok now), grouping]
        ⟨[bug], none, ⟨["status"], ["totalCount"], [], none⟩⟩ =
      .ok {
        records := [bug]
        groups := [⟨"status", .text "Open", [bug], [], none⟩]
        calculations := [("totalCount", .int 1)]
        aggregations := []
        metadata := [("grouped_by", texts ["status"]), ("group_count", .int 1), ("calculation_count", .int 1),
          ("processors", texts ["grouping", "calculation"])] } := by
  intro now bug
  have hperm : [aggregation (.ok now), calculation (.ok now), grouping].Perm (threefold (.ok now) (.ok now)) :=
    List.reverse_perm (threefold (.ok now) (.ok now))
  have hlaw := process_by_priority (ranked_threefold hperm) ⟨[bug], none, ⟨["status"], ["totalCount"], [], none⟩⟩
  exact (hlaw.2.2.2 _ _ hperm).1.trans rfl

end Stage

end IssueQuery

import IssueQuery.Proofs.Analysis.Lookup
import IssueQuery.Proofs.Analysis.Partition
import IssueQuery.Proofs.Analysis.Stages
import IssueQuery.Service

namespace IssueQuery

open Calendar (Timestamp)

namespace Measure

/-- What has a value has one in every part. -/
def Local (m : Measure) : Prop :=
  ∀ {records part now v}, m records now = .ok v → part ⊆ records → ∃ w, m part now = .ok w

theorem local_ages (f : List Float → Value) : Local fun records now => (ages records now).map f := by
  intro records part now v h hp
  dsimp only at h ⊢
  have hall : ∃ xs, ages records now = .ok xs := by
    cases hx : ages records now with
    | error fault =>
      rw [hx] at h
      cases h
    | ok xs => exact ⟨xs, rfl⟩
  have hpart : ∃ xs, ages part now = .ok xs :=
    Outcome.exists_mapM_iff.mpr fun i hi => Outcome.exists_mapM_iff.mp hall i (hp hi)
  obtain ⟨xs, hxs⟩ := hpart
  exact ⟨f xs, by rw [hxs]; rfl⟩

theorem local_countOf (get : Issue → String) : Local (countOf get) :=
  fun _ _ => ⟨_, rfl⟩

theorem local_size : Local size :=
  fun _ _ => ⟨_, rfl⟩

theorem local_aggregations : ∀ e ∈ aggregations, Local e.2 := by
  simp only [aggregations, List.forall_mem_cons]
  exact ⟨local_size, local_ages _, local_ages _, local_ages _, local_countOf _, local_countOf _,
    local_countOf _, local_countOf _, by simp⟩

end Measure

namespace Registry

variable {r : Registry} {name : String} {m : Measure}

theorem get?_put (r : Registry) (other : String) (n : Measure) (h : (r.put other n).get? name = some m) :
    m = n ∨ r.get? name = some m := by
  unfold get? put at *
  by_cases hname : Text.fold name = Text.fold other
  · rw [hname, OrderedMap.get?_put_self] at h
    exact .inl (Option.some.inj h).symm
  · rw [OrderedMap.get?_put_of_ne _ _ hname] at h
    exact .inr h

theorem mem_of_get?_extend {extra : OrderedMap Measure} (h : (r.extend extra).get? name = some m) :
    (∃ e ∈ extra, m = e.2) ∨ r.get? name = some m := by
  induction extra generalizing r with
  | nil => exact .inr h
  | cons e extra ih =>
    rcases ih h with ⟨e', he', rfl⟩ | h
    · exact .inl ⟨e', List.mem_cons_of_mem e he', rfl⟩
    · rcases get?_put r e.1 e.2 h with rfl | h
      · exact .inl ⟨e, List.mem_cons_self, rfl⟩
      · exact .inr h

theorem local_of_get?_aggregations (h : aggregations.get? name = some m) : m.Local := by
  rcases mem_of_get?_extend (r := ⟨"aggregation", []⟩) h with ⟨e, he, rfl⟩ | h
  · exact Measure.local_aggregations e he
  · cases h

theorem value_aggregations_of_subset {records part : List Issue} {now : Timestamp} {v : Value}
    (h : aggregations.value records now name = .ok v) (hp : part ⊆ records) :
    ∃ w, aggregations.value part now name = .ok w := by
  unfold value at h ⊢
  cases hm : aggregations.get? name with
  | none => exact ⟨_, rfl⟩
  | some m =>
    rw [hm] at h
    exact local_of_get?_aggregations hm h hp

theorem exists_evaluate_of_subset {records part : List Issue} {now : Timestamp} {names : List String}
    {values : OrderedMap Value} (h : aggregations.evaluate records now names = .ok values)
    (hp : part ⊆ records) : ∃ others, aggregations.evaluate part now names = .ok others := by
  apply exists_evaluate_iff.mpr
  intro name hname
  obtain ⟨v, hv⟩ := exists_evaluate_iff.mp ⟨values, h⟩ name hname
  exact value_aggregations_of_subset hv hp

end Registry

namespace Group

mutual

def nodes : Group → List Group
  | ⟨key, value, records, subgroups, aggregations⟩ =>
    ⟨key, value, records, subgroups, aggregations⟩ :: nodesOf subgroups

def nodesOf : List Group → List Group
  | [] => []
  | g :: gs => nodes g ++ nodesOf gs

end

mutual

def plain : Group → Group
  | ⟨key, value, records, subgroups, _⟩ => ⟨key, value, records, plainAll subgroups, none⟩

def plainAll : List Group → List Group
  | [] => []
  | g :: gs => plain g :: plainAll gs

end

theorem nodes_eq (g : Group) : nodes g = g :: nodesOf g.subgroups := by
  obtain ⟨key, value, records, subgroups, aggregations⟩ := g
  rw [nodes]

theorem nodesOf_eq_flatMap (gs : List Group) : nodesOf gs = gs.flatMap nodes := by
  induction gs with
  | nil => rw [nodesOf, List.flatMap_nil]
  | cons g gs ih => rw [nodesOf, ih, List.flatMap_cons]

theorem mem_nodesOf_of_mem {gs : List Group} {g : Group} (h : g ∈ gs) : g ∈ nodesOf gs := by
  rw [nodesOf_eq_flatMap]
  refine List.mem_flatMap.mpr ⟨g, h, ?_⟩
  rw [nodes_eq]
  exact List.mem_cons_self

theorem of_mem_nodesOf_groupBy {fields : List String} {records : List Issue} {g : Group}
    (h : g ∈ nodesOf (groupBy fields records)) : g.records ⊆ records ∧ g.aggregations = none := by
  induction fields generalizing records with
  | nil =>
    rw [groupBy, nodesOf] at h
    cases h
  | cons field fields ih =>
    rw [groupBy_cons, nodesOf_eq_flatMap, List.flatMap_map] at h
    obtain ⟨k, -, h⟩ := List.mem_flatMap.mp h
    have hsub : membersWith field records k ⊆ records := fun i hi => (List.mem_filter.mp hi).1
    rw [nodes_eq, List.mem_cons] at h
    rcases h with rfl | h
    · exact ⟨hsub, rfl⟩
    · obtain ⟨hrecords, hnone⟩ := ih h
      exact ⟨fun i hi => hsub (hrecords hi), hnone⟩

theorem subgroups_of_mem_nodesOf {fields : List String} {records : List Issue} {g : Group}
    (h : g ∈ nodesOf (groupBy fields records)) : ∃ rest ⊆ fields, g.subgroups = groupBy rest g.records := by
  induction fields generalizing records with
  | nil =>
    rw [groupBy, nodesOf] at h
    cases h
  | cons field fields ih =>
    rw [groupBy_cons, nodesOf_eq_flatMap, List.flatMap_map] at h
    obtain ⟨k, -, h⟩ := List.mem_flatMap.mp h
    rw [nodes_eq, List.mem_cons] at h
    rcases h with rfl | h
    · exact ⟨fields, List.subset_cons_self _ _, rfl⟩
    · obtain ⟨rest, hrest, hsub⟩ := ih h
      exact ⟨rest, List.subset_cons_of_subset _ hrest, hsub⟩

mutual

theorem mem_nodes_of_mem_subgroups : ∀ {g h sub : Group}, h ∈ nodes g → sub ∈ h.subgroups → sub ∈ nodes g
  | ⟨key, value, records, subgroups, aggregations⟩, h, sub, hh, hsub => by
    rw [nodes, List.mem_cons] at hh ⊢
    rcases hh with rfl | hh
    · exact .inr (mem_nodesOf_of_mem hsub)
    · exact .inr (mem_nodesOf_of_mem_subgroups hh hsub)

theorem mem_nodesOf_of_mem_subgroups : ∀ {gs : List Group} {h sub : Group},
    h ∈ nodesOf gs → sub ∈ h.subgroups → sub ∈ nodesOf gs
  | [], _, _, hh, _ => by
    rw [nodesOf] at hh
    cases hh
  | g :: gs, h, sub, hh, hsub => by
    rw [nodesOf, List.mem_append] at hh ⊢
    exact hh.imp (mem_nodes_of_mem_subgroups · hsub) (mem_nodesOf_of_mem_subgroups · hsub)

end

theorem plainAll_eq_map (gs : List Group) : plainAll gs = gs.map plain := by
  induction gs with
  | nil => rw [plainAll, List.map_nil]
  | cons g gs ih => rw [plainAll, ih, List.map_cons]

theorem plain_eq (g : Group) : g.plain = ⟨g.key, g.value, g.records, g.subgroups.map plain, none⟩ := by
  obtain ⟨key, value, records, subgroups, aggregations⟩ := g
  rw [plain, plainAll_eq_map]

mutual

theorem nodes_plain : ∀ g : Group, nodes g.plain = (nodes g).map plain
  | ⟨key, value, records, subgroups, aggregations⟩ => by
    rw [plain, nodes, nodes, nodesOf_plainAll subgroups, List.map_cons, plain]

theorem nodesOf_plainAll : ∀ gs : List Group, nodesOf (plainAll gs) = (nodesOf gs).map plain
  | [] => by rw [plainAll, nodesOf, List.map_nil]
  | g :: gs => by rw [plainAll, nodesOf, nodesOf, nodes_plain g, nodesOf_plainAll gs, List.map_append]

end

theorem exists_mem_nodesOf_of_plainAll {gs hs : List Group} {g : Group} (h : plainAll gs = plainAll hs)
    (hg : g ∈ nodesOf gs) : ∃ node ∈ nodesOf hs, node.plain = g.plain := by
  have hmem : g.plain ∈ (nodesOf hs).map plain := by
    rw [← nodesOf_plainAll, ← h, nodesOf_plainAll]
    exact List.mem_map_of_mem hg
  exact List.mem_map.mp hmem

end Group

namespace Registry

variable {r : Registry} {now : Timestamp} {names : List String}

mutual

theorem exists_annotate : ∀ {g : Group},
    (∀ h ∈ g.nodes, ∃ values, r.evaluate h.records now names = .ok values) →
      ∃ g', r.annotate now names g = .ok g'
  | ⟨key, value, records, subgroups, aggregations⟩, h => by
    rw [Group.nodes, List.forall_mem_cons] at h
    obtain ⟨values, hv⟩ := h.1
    obtain ⟨gs, hgs⟩ := exists_annotateAll h.2
    refine ⟨⟨key, value, records, gs, some values⟩, ?_⟩
    rw [annotate, hgs, hv]
    rfl

theorem exists_annotateAll : ∀ {gs : List Group},
    (∀ h ∈ Group.nodesOf gs, ∃ values, r.evaluate h.records now names = .ok values) →
      ∃ gs', r.annotateAll now names gs = .ok gs'
  | [], _ => ⟨[], by rw [annotateAll]⟩
  | g :: gs, h => by
    rw [Group.nodesOf, List.forall_mem_append] at h
    obtain ⟨g', hg⟩ := exists_annotate h.1
    obtain ⟨gs', hgs⟩ := exists_annotateAll h.2
    refine ⟨g' :: gs', ?_⟩
    rw [annotateAll, hg, hgs]
    rfl

end

def IsAnnotated (r : Registry) (now : Timestamp) (names : List String) (g : Group) : Prop :=
  ∃ values, r.evaluate g.records now names = .ok values ∧ g.aggregations = some values

mutual

theorem of_annotate : ∀ {g g' : Group}, r.annotate now names g = .ok g' →
    g'.plain = g.plain ∧ ∀ h ∈ g'.nodes, r.IsAnnotated now names h
  | ⟨key, value, records, subgroups, aggregations⟩, g', h => by
    rw [annotate] at h
    obtain ⟨gs, hgs, h⟩ := Outcome.of_bind h
    obtain ⟨values, hv, h⟩ := Outcome.of_bind h
    obtain rfl := Except.ok.inj h
    obtain ⟨hplain, hnodes⟩ := of_annotateAll hgs
    rw [Group.plain, Group.plain, hplain, Group.nodes, List.forall_mem_cons]
    exact ⟨rfl, ⟨values, hv, rfl⟩, hnodes⟩

theorem of_annotateAll : ∀ {gs gs' : List Group}, r.annotateAll now names gs = .ok gs' →
    Group.plainAll gs' = Group.plainAll gs ∧ ∀ h ∈ Group.nodesOf gs', r.IsAnnotated now names h
  | [], gs', h => by
    rw [annotateAll] at h
    obtain rfl := Except.ok.inj h
    refine ⟨rfl, fun h hh => ?_⟩
    rw [Group.nodesOf] at hh
    cases hh
  | g :: gs, gs', h => by
    rw [annotateAll] at h
    obtain ⟨g', hg, h⟩ := Outcome.of_bind h
    obtain ⟨rest, hrest, h⟩ := Outcome.of_bind h
    obtain rfl := Except.ok.inj h
    obtain ⟨hplain, hnodes⟩ := of_annotate hg
    obtain ⟨hplains, hall⟩ := of_annotateAll hrest
    rw [Group.plainAll, Group.plainAll, hplain, hplains, Group.nodesOf, List.forall_mem_append]
    exact ⟨rfl, hnodes, hall⟩

end

end Registry

namespace Service

variable {now : Timestamp} {c : ProcessingContext} {processed : Processed}

theorem process_defaults (now : Timestamp) (c : ProcessingContext) :
    process (Stage.defaults (.ok now)) c = Stage.threefoldResult (.ok now) (.ok now) c :=
  Stage.process_threefold (List.Perm.refl (Stage.threefold _ _)) c

theorem aggregations_of_process (h : process (Stage.defaults (.ok now)) c = .ok processed) :
    ∀ g ∈ Group.nodesOf processed.groups, g.aggregations = none := by
  rw [process_defaults] at h
  intro g hg
  rw [(Stage.threefoldResult_fields h).2.1] at hg
  exact (Group.of_mem_nodesOf_groupBy hg).2

theorem exists_annotateAll_of_process (h : process (Stage.defaults (.ok now)) c = .ok processed)
    (ha : c.options.aggregate ≠ []) :
    ∃ annotated, Registry.aggregations.annotateAll now c.options.aggregate processed.groups = .ok annotated := by
  rw [process_defaults] at h
  obtain ⟨-, hgroups, -, hasked⟩ := Stage.threefoldResult_fields h
  rw [Registry.asked, if_neg (mt List.isEmpty_iff.mp ha)] at hasked
  change Registry.aggregations.evaluate c.records now c.options.aggregate = _ at hasked
  -- A node holds only issues that were processed, all of which together have the values.
  apply Registry.exists_annotateAll
  intro g hg
  rw [hgroups] at hg
  exact Registry.exists_evaluate_of_subset hasked (Group.of_mem_nodesOf_groupBy hg).1

/-- With values per group an answer differs in these values alone: it fails where it failed without them, and
each node of its groups, which had none, has those of its own issues. -/
theorem answer_perGroup (s : Service) (question : String) (o : ProcessingOptions) :
    (∃ fault, s.answer question o false = .error fault ∧ s.answer question o true = .error fault) ∨
    ∃ result plain annotated,
      s.answer question o false = .ok (result, plain) ∧
      s.answer question o true = .ok (result, { plain with groups := annotated }) ∧
      Group.plainAll annotated = Group.plainAll plain.groups ∧
      (∀ g ∈ Group.nodesOf plain.groups, g.aggregations = none) ∧
      (plain.groups ≠ [] → o.aggregate ≠ [] →
        ∀ g ∈ Group.nodesOf annotated, Registry.aggregations.IsAnnotated s.now o.aggregate g) := by
  unfold answer
  cases s.interpret question with
  | error fault => exact .inl ⟨fault, rfl, rfl⟩
  | ok intent =>
    simp only [bind, Except.bind]
    cases s.search (Query.compile intent) with
    | error fault => exact .inl ⟨fault, rfl, rfl⟩
    | ok result =>
      simp only [Bool.false_and, Bool.true_and]
      cases hp : process (Stage.defaults (.ok s.now)) ⟨result.issues, some intent, o⟩ with
      | error fault => exact .inl ⟨fault, rfl, rfl⟩
      | ok plain =>
        refine .inr ⟨result, plain, ?_⟩
        by_cases hasked : plain.groups ≠ [] ∧ o.aggregate ≠ []
        · obtain ⟨annotated, hannotated⟩ := exists_annotateAll_of_process hp hasked.2
          obtain ⟨hplain, hnodes⟩ := Registry.of_annotateAll hannotated
          have hguard : (!plain.groups.isEmpty && !o.aggregate.isEmpty) = true := by simpa using hasked
          refine ⟨annotated, rfl, ?_, hplain, aggregations_of_process hp, fun _ _ => hnodes⟩
          simp only [hguard, hannotated, if_true]
          rfl
        · have hguard : (!plain.groups.isEmpty && !o.aggregate.isEmpty) = false := by simpa using hasked
          refine ⟨plain.groups, rfl, ?_, rfl, aggregations_of_process hp, fun hg ha => absurd ⟨hg, ha⟩ hasked⟩
          simp only [hguard]
          rfl

end Service

end IssueQuery

import IssueQuery.Proofs.Analysis.Annotation
import IssueQuery.Proofs.Analysis.Forest
import IssueQuery.Proofs.Analysis.Labels
import IssueQuery.Proofs.Analysis.Lookup
import IssueQuery.Tracker.Sample
import Mathlib.Algebra.GroupWithZero.Nat

namespace IssueQuery

open Calendar (Moment Timestamp)

namespace Registry

variable {r : Registry} {records : List Issue} {now : Timestamp} {names : List String} {name label : String}
  {table : OrderedMap (OrderedMap Value)} {values : OrderedMap Value}

theorem get?_extend_of_ne {extra : OrderedMap Measure}
    (h : ∀ e ∈ extra, Text.fold e.1 ≠ Text.fold name) : (r.extend extra).get? name = r.get? name := by
  induction extra generalizing r with
  | nil => rfl
  | cons e extra ih =>
    rw [List.forall_mem_cons] at h
    exact (ih h.2).trans (OrderedMap.get?_put_of_ne _ _ (Ne.symm h.1))

section Tables

structure Rows (names : List String) (rows : String → OrderedMap Value) (table : OrderedMap (OrderedMap Value)) :
    Prop where
  keys : table.keys = distinct names
  row : ∀ name ∈ names, table.get? name = some (rows name)

theorem rows_start (names : List String) : Rows names (fun _ => []) (OrderedMap.ofList (names.map (·, []))) where
  keys := by
    rw [OrderedMap.keys_ofList]
    simp [OrderedMap.keys, Function.comp_def]
  row name hname := by
    have hmerge (m : OrderedMap (OrderedMap Value)) (h : name ∈ names ∨ m.get? name = some []) :
        (m.merge (names.map (·, []))).get? name = some [] := by
      clear hname
      induction names generalizing m with
      | nil => exact h.resolve_left (by simp)
      | cons first names ih =>
        apply ih
        by_cases hfirst : name = first
        · exact .inr (hfirst ▸ OrderedMap.get?_put_self _ _ _)
        · rw [OrderedMap.get?_put_of_ne _ _ hfirst]
          exact h.imp_left fun hmem => (List.mem_cons.mp hmem).resolve_left hfirst
    exact hmerge [] (.inl hname)

theorem get?_addGroup (names : List String) (table : OrderedMap (OrderedMap Value)) (label : String)
    (values : OrderedMap Value) (name : String) : (addGroup names table label values).get? name =
      if name ∈ names then
        some (OrderedMap.put ((table.get? name).getD []) label ((values.get? name).getD .null))
      else table.get? name := by
  induction names generalizing table with
  | nil => rfl
  | cons first names ih =>
    refine (ih _).trans ?_
    by_cases hfirst : name = first
    · subst hfirst
      simp [OrderedMap.get?_put_self, OrderedMap.put_put]
    · simp [OrderedMap.get?_put_of_ne _ _ hfirst, hfirst]

theorem keys_addGroup (label : String) (values : OrderedMap Value) (h : ∀ name ∈ names, name ∈ table.keys) :
    (addGroup names table label values).keys = table.keys := by
  induction names generalizing table with
  | nil => rfl
  | cons first names ih =>
    rw [List.forall_mem_cons] at h
    have hkeys : (OrderedMap.put table first (OrderedMap.put ((table.get? first).getD []) label
        ((values.get? first).getD .null))).keys = table.keys := by
      rw [OrderedMap.keys_put, if_pos h.1]
    exact (ih (by rw [hkeys]; exact h.2)).trans hkeys

theorem Rows.addGroup {rows : String → OrderedMap Value} (h : Rows names rows table)
    (hlabel : ∀ name ∈ names, label ∉ (rows name).keys) :
    Rows names (fun name => rows name ++ [(label, (values.get? name).getD .null)])
      (addGroup names table label values) where
  keys := by
    rw [keys_addGroup label values fun name hname => by rwa [h.keys, mem_distinct], h.keys]
  row name hname := by
    rw [get?_addGroup, if_pos hname, h.row name hname, Option.getD_some,
      OrderedMap.put_of_not_mem _ (hlabel name hname)]

def rowOf (measured : List (Group × OrderedMap Value)) (name : String) : OrderedMap Value :=
  measured.map fun e => (e.1.value.asText, (e.2.get? name).getD .null)

theorem rows_foldl {before after : List (Group × OrderedMap Value)} (h : Rows names (rowOf before) table)
    (hlabels : ((before ++ after).map (·.1.value.asText)).Nodup) :
    Rows names (rowOf (before ++ after))
      (after.foldl (fun table e => addGroup names table e.1.value.asText e.2) table) := by
  induction after generalizing before table with
  | nil => simpa using h
  | cons e after ih =>
    have hnew : ∀ name ∈ names, e.1.value.asText ∉ (rowOf before name).keys := by
      intro name _ hmem
      simp only [rowOf, OrderedMap.keys, List.map_map, Function.comp_def] at hmem
      rw [List.map_append, List.nodup_append] at hlabels
      exact hlabels.2.2 _ hmem _ (by simp) rfl
    have hstep : Rows names (rowOf (before ++ [e])) (addGroup names table e.1.value.asText e.2) := by
      have hrow : rowOf (before ++ [e]) =
          fun name => rowOf before name ++ [(e.1.value.asText, (e.2.get? name).getD .null)] := by
        funext name
        simp [rowOf]
      rw [hrow]
      exact h.addGroup hnew
    rw [List.append_cons] at hlabels ⊢
    exact ih hstep hlabels

theorem byGroup_eq (r : Registry) (groups : List Group) (now : Timestamp) (names : List String) :
    r.byGroup groups now names = (groups.mapM fun g => r.evaluate g.records now names).map fun values =>
      (groups.zip values).foldl (fun table e => addGroup names table e.1.value.asText e.2)
        (OrderedMap.ofList (names.map (·, []))) :=
  Outcome.foldlM_map (fun g : Group => r.evaluate g.records now names)
    (fun table g values => addGroup names table g.value.asText values) groups _

/-- One row for each name, with one entry for each group in their order, which is the value of the group. -/
structure IsTable (r : Registry) (groups : List Group) (now : Timestamp) (names : List String)
    (table : OrderedMap (OrderedMap Value)) : Prop where
  keys : table.keys = distinct names
  row : ∀ name ∈ names, ∃ row, table.get? name = some row ∧
    List.Forall₂ (fun g e => e.1 = g.value.asText ∧
      ∃ values, r.evaluate g.records now names = .ok values ∧ values.get? name = some e.2) groups row

theorem forall₂_rowOf {groups : List Group} {measured : List (OrderedMap Value)}
    (h : List.Forall₂ (fun g values => r.evaluate g.records now names = .ok values) groups measured)
    (hname : name ∈ names) :
    List.Forall₂ (fun g e => e.1 = g.value.asText ∧
      ∃ values, r.evaluate g.records now names = .ok values ∧ values.get? name = some e.2) groups
      (rowOf (groups.zip measured) name) := by
  induction h with
  | nil => exact .nil
  | cons hg _ ih =>
    obtain ⟨v, -, hv⟩ := get?_evaluate hg name hname
    exact .cons ⟨rfl, _, hg, by simp [hv]⟩ ih

theorem isTable_byGroup {groups : List Group} (h : (groups.map (·.value.asText)).Nodup)
    (ht : r.byGroup groups now names = .ok table) : IsTable r groups now names table := by
  rw [byGroup_eq] at ht
  cases hm : groups.mapM fun g => r.evaluate g.records now names with
  | error fault =>
    rw [hm] at ht
    cases ht
  | ok measured =>
    rw [hm] at ht
    obtain rfl := Except.ok.inj ht
    have hall := Outcome.mapM_eq_ok_iff.mp hm
    have hgroups : (groups.zip measured).map (·.1) = groups := List.map_fst_zip hall.length_eq.le
    have hlabels : ((groups.zip measured).map (fun e : Group × OrderedMap Value => e.1.value.asText)).Nodup := by
      rw [← hgroups, List.map_map] at h
      exact h
    have hstart : Rows names (rowOf []) (OrderedMap.ofList (names.map (·, []))) := rows_start names
    have hrows := rows_foldl hstart hlabels
    exact ⟨hrows.keys, fun name hname => ⟨_, hrows.row name hname, forall₂_rowOf hall hname⟩⟩

end Tables

section Siblings

theorem nodup_texts_nodes {fields : List String} (hapart : ∀ f ∈ fields, Field.WrittenApart f records)
    (h : ∀ i ∈ records, i.Dated) :
    ∀ g ∈ Group.nodesOf (Group.groupBy fields records), (g.subgroups.map (·.value.asText)).Nodup := by
  intro g hg
  have hsub := (Group.of_mem_nodesOf_groupBy hg).1
  -- The groups inside a node are those of its issues by the fields that remain.
  obtain ⟨rest, hfields, hrest⟩ := Group.subgroups_of_mem_nodesOf hg
  rw [hrest]
  cases rest with
  | nil => simp [Group.groupBy]
  | cons next rest =>
    have hnext : Field.WrittenApart next g.records := fun i hi j hj =>
      hapart next (hfields List.mem_cons_self) i (hsub hi) j (hsub hj)
    exact Group.nodup_texts hnext rest fun i hi => h i (hsub hi)

theorem get?_count {extra : OrderedMap Measure} (hname : Text.fold name = "count")
    (h : ∀ e ∈ extra, Text.fold e.1 ≠ "count") : (aggregations.extend extra).get? name = some Measure.size := by
  rw [get?_extend_of_ne (by rwa [hname]), get?, hname]
  rfl

theorem map_snd_of_count {groups : List Group} {row : OrderedMap Value} (hr : r.get? name = some Measure.size)
    (hname : name ∈ names)
    (h : List.Forall₂ (fun g e => e.1 = g.value.asText ∧
      ∃ values, r.evaluate g.records now names = .ok values ∧ values.get? name = some e.2) groups row) :
    row.map (·.2) = (groups.map (·.records.length)).map fun n => .int n := by
  induction h with
  | nil => rfl
  | cons hg _ ih =>
    obtain ⟨-, values, hvalues, hv⟩ := hg
    obtain ⟨v, hsize, hget⟩ := get?_evaluate hvalues name hname
    rw [value, hr] at hsize
    obtain rfl := Except.ok.inj hsize
    rw [hv] at hget
    simp only [List.map_cons, ih, Option.some.inj hget]

/-- With the values of groups nothing is lost where times that are written alike are the same: the tables by group
fail where a group fails, and else have the value of each group in its place, since groups beside each other have
different texts. -/
theorem byGroup_complete {field : String} {fields : List String}
    (hapart : ∀ f ∈ field :: fields, Field.WrittenApart f records) (h : ∀ i ∈ records, i.Dated)
    (extra : OrderedMap Measure) (now : Timestamp) (names : List String) :
    ((Group.groupBy (field :: fields) records).map (·.value.asText)).Nodup ∧
    (∀ g ∈ Group.nodesOf (Group.groupBy (field :: fields) records), (g.subgroups.map (·.value.asText)).Nodup) ∧
    ((∃ fault,
        ((Group.groupBy (field :: fields) records).mapM fun g =>
          (aggregations.extend extra).evaluate g.records now names) = .error fault ∧
        (aggregations.extend extra).byGroup (Group.groupBy (field :: fields) records) now names = .error fault) ∨
      ∃ table,
        (aggregations.extend extra).byGroup (Group.groupBy (field :: fields) records) now names = .ok table ∧
        IsTable (aggregations.extend extra) (Group.groupBy (field :: fields) records) now names table ∧
        ((∀ e ∈ extra, Text.fold e.1 ≠ "count") → ∀ name ∈ names, Text.fold name = "count" →
          ∃ (row : OrderedMap Value) (sizes : List Nat), table.get? name = some row ∧
            row.map (·.2) = sizes.map (fun n => .int n) ∧ sizes.sum = records.length)) := by
  have hlabels := Group.nodup_texts (hapart field List.mem_cons_self) fields h
  refine ⟨hlabels, nodup_texts_nodes hapart h, ?_⟩
  cases hm : (Group.groupBy (field :: fields) records).mapM fun g =>
      (aggregations.extend extra).evaluate g.records now names with
  | error fault => exact .inl ⟨fault, rfl, by rw [byGroup_eq, hm]; rfl⟩
  | ok measured =>
    obtain ⟨table, ht⟩ : ∃ table,
        (aggregations.extend extra).byGroup (Group.groupBy (field :: fields) records) now names = .ok table :=
      ⟨_, by rw [byGroup_eq, hm]; rfl⟩
    have htable := isTable_byGroup hlabels ht
    refine .inr ⟨table, ht, htable, fun hextra name hname hcount => ?_⟩
    -- The entries are the sizes of the groups, which share out the issues.
    obtain ⟨row, hrow, hentries⟩ := htable.row name hname
    refine ⟨row, _, hrow, map_snd_of_count (get?_count hcount hextra) hname hentries, ?_⟩
    have hsiblings : Group.Siblings field records (Group.groupBy (field :: fields) records) :=
      Group.siblings_groupBy
    rw [← hsiblings.shares.length_eq, List.length_flatMap]

def tagged (labels : List String) (resolved : Option Moment) : Issue :=
  { Sample.paymentBug ⟨0, none⟩ ⟨0, none⟩ with labels, resolutionDate := resolved }

def noon : Timestamp := .ofDate ⟨2024, 10, 27⟩ 43200000000 none

/-- In the night to that day clocks in Berlin were put back from three to two. -/
def berlinNight : Moment := ⟨.ofDate ⟨2024, 10, 27⟩ 9000000000 (some 7200000000), some "Europe/Berlin"⟩

theorem valid_berlinNight : Timestamp.Valid berlinNight.toTimestamp where
  wall := rfl
  offset := by
    simp [berlinNight, Timestamp.ofDate]
    decide

def taggedRecords : List Issue :=
  [tagged ["it's", "a"] none, tagged ["it's, a"] (some (.single noon)),
    tagged ["it's", "a"] (some (.single { noon with offset := some 7200000000 })), tagged ["b"] (some berlinNight)]

theorem byGroup_complete_tagged :
    (∀ f ∈ ["labels", "resolutiondate"], Field.WrittenApart f taggedRecords) ∧ (∀ i ∈ taggedRecords, i.Dated) ∧
      ∃ (table : OrderedMap (OrderedMap Value)) (row : OrderedMap Value) (sizes : List Nat),
        (aggregations.extend []).byGroup (Group.groupBy ["labels", "resolutiondate"] taggedRecords) ⟨0, none⟩
          ["COUNT"] = .ok table ∧
        table.get? "COUNT" = some row ∧ row.map (·.2) = sizes.map (fun n => .int n) ∧ sizes.sum = 4 := by
  have hapart : ∀ f ∈ ["labels", "resolutiondate"], Field.WrittenApart f taggedRecords :=
    fun f _ => Field.writtenApart_of_times (by decide) f
  have hstart : Timestamp.Valid ⟨0, none⟩ := ⟨rfl, by simp⟩
  have hnoon : noon.Valid := ⟨rfl, by simp [noon, Timestamp.ofDate]⟩
  have hahead : Timestamp.Valid { noon with offset := some 7200000000 } := ⟨rfl, by simp; decide⟩
  have hdated : ∀ i ∈ taggedRecords, i.Dated := by
    simp [taggedRecords, tagged, Sample.paymentBug, IssueOf.Dated, IssueOf.times, Moment.single, hstart, hnoon, hahead,
      valid_berlinNight]
  refine ⟨hapart, hdated, ?_⟩
  have hcount : Text.fold "COUNT" = "count" := by decide +kernel
  obtain ⟨-, -, ⟨fault, hfault, -⟩ | ⟨table, htable, -, hsizes⟩⟩ :=
    byGroup_complete hapart hdated [] ⟨0, none⟩ ["COUNT"]
  · -- Counting never fails.
    have hall : ∃ measured, ((Group.groupBy ["labels", "resolutiondate"] taggedRecords).mapM fun g =>
        (aggregations.extend []).evaluate g.records ⟨0, none⟩ ["COUNT"]) = .ok measured := by
      refine Outcome.exists_mapM_iff.mpr fun g _ => exists_evaluate_iff.mpr ?_
      simp [value, get?_count hcount, Measure.size]
    obtain ⟨measured, hmeasured⟩ := hall
    rw [hmeasured] at hfault
    cases hfault
  · obtain ⟨row, sizes, hrow⟩ := hsizes (by simp) "COUNT" List.mem_cons_self hcount
    exact ⟨table, row, sizes, htable, hrow⟩

def sameReading : List Issue :=
  [{ tagged [] none with created := berlinNight }, { tagged [] none with created := .single berlinNight }]

def beforeYears : List Issue :=
  [{ tagged [] none with created := .single ⟨0, some 36000000000⟩ }]

theorem sameReading_one_entry :
    (Group.groupBy ["created"] sameReading).length = 2 ∧
      aggregations.byGroup (Group.groupBy ["created"] sameReading) ⟨0, some 0⟩ ["count"] =
        .ok [("count", [("2024-10-27 02:30:00+02:00", .int 1)])] ∧
      aggregations.byGroup (Group.groupBy ["status"] beforeYears) ⟨0, some 0⟩ ["min_age"] =
        .error (.clock .outOfRange) ∧
      ¬∀ (records : List Issue) (field : String) (now : Timestamp) (names : List String), (∀ i ∈ records, i.Dated) →
        ∃ table, aggregations.byGroup (Group.groupBy [field] records) now names = .ok table ∧
          IsTable aggregations (Group.groupBy [field] records) now names table := by
  have htable : aggregations.byGroup (Group.groupBy ["created"] sameReading) ⟨0, some 0⟩ ["count"] =
      .ok [("count", [("2024-10-27 02:30:00+02:00", .int 1)])] := rfl
  refine ⟨rfl, htable, rfl, fun h => ?_⟩
  have hstart : Timestamp.Valid ⟨0, none⟩ := ⟨rfl, by simp⟩
  have hdated : ∀ i ∈ sameReading, i.Dated := by
    simp [sameReading, tagged, Sample.paymentBug, IssueOf.Dated, IssueOf.times, Moment.single, valid_berlinNight, hstart]
  obtain ⟨table, ht, hcomplete⟩ := h sameReading "created" ⟨0, some 0⟩ ["count"] hdated
  rw [htable] at ht
  obtain rfl := Except.ok.inj ht
  obtain ⟨row, hrow, hentries⟩ := hcomplete.row "count" List.mem_cons_self
  obtain rfl : [("2024-10-27 02:30:00+02:00", Value.int 1)] = row := Option.some.inj hrow
  exact absurd hentries.length_eq (by decide)

end Siblings

end Registry

end IssueQuery

import IssueQuery.Proofs.Analysis.Nodes
import IssueQuery.Proofs.Analysis.RollUp
import IssueQuery.Report.Section
import IssueQuery.Tracker.Sample

namespace IssueQuery

open Text
open Calendar (Timestamp)

structure IsCut (limit : Nat) (s shown : String) : Prop where
  length_le : shown.length ≤ limit
  whole : s.length ≤ limit → shown = s
  cut : limit < s.length → shown = String.ofList (s.toList.take (limit - 3)) ++ "..."

theorem isCut_truncate (s : String) {limit : Nat} (h : 3 ≤ limit) : IsCut limit s (truncate s limit) := by
  by_cases hs : s.length ≤ limit
  · have hwhole : truncate s limit = s := if_pos (by exact_mod_cast hs)
    rw [hwhole]
    exact ⟨hs, fun _ => rfl, fun hlong => absurd hs (by omega)⟩
  · have hlong : ¬(s.length : Int) ≤ limit := by exact_mod_cast hs
    have hkept : ¬(limit : Int) - 3 < 0 := by omega
    have hkeep : ((limit : Int) - 3).toNat = limit - 3 := by omega
    have hcut : truncate s limit = String.ofList (s.toList.take (limit - 3)) ++ "..." := by
      simp only [truncate, if_neg hlong, if_neg hkept, hkeep]
    have hdots : "...".length = 3 := rfl
    rw [hcut]
    refine ⟨?_, fun hle => absurd hle hs, fun _ => rfl⟩
    rw [String.length_append, String.length_ofList, List.length_take, hdots]
    omega

namespace GroupLine

def isHeader : GroupLine → Bool
  | header .. => true
  | _ => false

def isBlank : GroupLine → Bool
  | blank => true
  | _ => false

def issues : GroupLine → Nat
  | issue .. => 1
  | more _ count => count
  | _ => 0

theorem text_eq_empty_iff (line : GroupLine) : line.text = "" ↔ line.isBlank := by
  cases line <;> simp [text, isBlank]

def margin (level : Nat) : String :=
  String.join (List.replicate level "  ")

theorem indent_eq_margin (level : Nat) : indent level = margin level := by
  induction level with
  | zero => rfl
  | succ level ih =>
    have hblanks : indent (level + 1) = "  " ++ indent level := by
      rw [indent, indent, Nat.mul_succ, Nat.add_comm, List.replicate_add, String.ofList_append]
      rfl
    rw [hblanks, ih, margin, margin, List.replicate_succ, String.join_cons]

/-- Lines into which others are inserted, right behind each header those of the next values and nowhere else. -/
inductive Inserted : List (OrderedMap Value) → List GroupLine → List GroupLine → Prop
  | nil : Inserted [] [] []
  | header {all lines measured} (level : Nat) (key : String) (value : Value) (count : Nat)
      (values : OrderedMap Value) : Inserted all lines measured →
      Inserted (values :: all) (.header level key value count :: lines)
        (.header level key value count :: (values.map fun e => .measure level e.1 e.2) ++ measured)
  | other {all lines measured line} : line.isHeader = false → Inserted all lines measured →
      Inserted all (line :: lines) (line :: measured)

theorem Inserted.append {all others : List (OrderedMap Value)} {lines measured after rest : List GroupLine}
    (h : Inserted all lines measured) (hrest : Inserted others after rest) :
    Inserted (all ++ others) (lines ++ after) (measured ++ rest) := by
  induction h with
  | nil => exact hrest
  | header level key value count values _ ih =>
    rw [List.cons_append, List.append_assoc]
    exact .header level key value count values ih
  | other hline _ ih => exact .other hline ih

theorem inserted_self {lines : List GroupLine} (h : ∀ line ∈ lines, line.isHeader = false) :
    Inserted [] lines lines := by
  induction lines with
  | nil => exact .nil
  | cons line lines ih =>
    rw [List.forall_mem_cons] at h
    exact .other h.1 (ih h.2)

end GroupLine

namespace Group

open GroupLine (Inserted margin)

section Lines

variable {level : Nat} {g : Group}

def shownLines (level : Nat) (g : Group) : List GroupLine :=
  if g.isLeaf then previewLines level g.records else []

def ownLines (level : Nat) (g : Group) : List GroupLine :=
  .header level g.key g.value g.records.length :: measureLines level g.aggregations ++ shownLines level g

theorem outline_eq (level : Nat) (g : Group) :
    outline level g = ownLines level g ++ outlineAll (level + 1) g.subgroups ++ [.blank] := by
  obtain ⟨key, value, records, subgroups, aggregations⟩ := g
  cases subgroups <;> simp [outline, outlineAll, ownLines, shownLines, isLeaf]

theorem outlineAll_eq_flatMap (level : Nat) (gs : List Group) : outlineAll level gs = gs.flatMap (outline level) := by
  induction gs with
  | nil => rw [outlineAll, List.flatMap_nil]
  | cons g gs ih => rw [outlineAll, ih, List.flatMap_cons]

theorem of_mem_shownLines {line : GroupLine} (h : line ∈ shownLines level g) :
    line.isHeader = false ∧ line.isBlank = false := by
  rw [shownLines] at h
  split at h
  · rcases List.mem_append.mp h with h | h
    · obtain ⟨i, -, rfl⟩ := List.mem_map.mp h
      exact ⟨rfl, rfl⟩
    · split at h
      · obtain rfl := List.mem_singleton.mp h
        exact ⟨rfl, rfl⟩
      · cases h
  · cases h

theorem filter_ownLines (level : Nat) (g : Group) : (ownLines level g).filter (!·.isBlank) = ownLines level g := by
  have hmeasures : ∀ line ∈ measureLines level g.aggregations, !line.isBlank := by
    intro line hline
    obtain ⟨e, -, rfl⟩ := List.mem_map.mp hline
    rfl
  have hshown : ∀ line ∈ shownLines level g, !line.isBlank := by
    intro line hline
    rw [(of_mem_shownLines hline).2]
    rfl
  rw [List.filter_eq_self, ownLines, List.forall_mem_append, List.forall_mem_cons]
  exact ⟨⟨rfl, hmeasures⟩, hshown⟩

end Lines

section Texts

variable {level : Nat} {g : Group}

theorem text_previewLines (level : Nat) (records : List Issue) : (previewLines level records).map (·.text) =
    (records.take 5).map (fun i => margin level ++ "  - " ++ i.key ++ ": " ++ truncate i.summary 40) ++
      if 5 < records.length then
        [margin level ++ "  ... and " ++ toString (records.length - 5) ++ " more"]
      else [] := by
  rw [previewLines, List.map_append, List.map_map, apply_ite (List.map _), ← GroupLine.indent_eq_margin]
  rfl

def ownTexts (level : Nat) (g : Group) : List String :=
  (margin level ++ g.key ++ ": " ++ g.value.asText ++ " (" ++ toString g.records.length ++ " issues)") ::
    if g.subgroups = [] then
      (g.records.take 5).map (fun i => margin level ++ "  - " ++ i.key ++ ": " ++ truncate i.summary 40) ++
        if 5 < g.records.length then
          [margin level ++ "  ... and " ++ toString (g.records.length - 5) ++ " more"]
        else []
    else []

theorem text_ownLines (h : g.aggregations = none) : (ownLines level g).map (·.text) = ownTexts level g := by
  have hlines : (ownLines level g).map (·.text) =
      (GroupLine.header level g.key g.value g.records.length).text :: (shownLines level g).map (·.text) := by
    rw [ownLines, h]
    rfl
  have hleaf : g.isLeaf = true ↔ g.subgroups = [] := List.isEmpty_iff
  rw [hlines, ownTexts, GroupLine.text, GroupLine.indent_eq_margin, shownLines]
  by_cases hsub : g.subgroups = []
  · rw [if_pos (hleaf.mpr hsub), if_pos hsub, text_previewLines]
  · rw [if_neg (mt hleaf.mp hsub), if_neg hsub, List.map_nil]

theorem filter_outlineAll_groupBy (level : Nat) (fields : List String) (records : List Issue) :
    (outlineAll level (groupBy fields records)).filter (!·.isBlank) =
      (nodeTable fields records).flatMap fun e => ownLines (level + (e.1.length - 1)) e.2 := by
  induction fields generalizing level records with
  | nil => rw [groupBy, outlineAll, nodeTable, List.filter_nil, List.flatMap_nil]
  | cons field fields ih =>
    rw [outlineAll_eq_flatMap, groupBy_cons, List.flatMap_map, List.filter_flatMap, nodeTable, List.flatMap_assoc]
    apply List.flatMap_congr
    intro k _
    -- Inside, a way is longer by the value of this group, and its lines are one level further down.
    have hinside : (outlineAll (level + 1) (branch field fields records k).subgroups).filter (!·.isBlank) =
        ((nodeTable fields (membersWith field records k)).map fun e => (k :: e.1, e.2)).flatMap
          fun e => ownLines (level + (e.1.length - 1)) e.2 := by
      refine (ih (level + 1) (membersWith field records k)).trans ?_
      rw [List.flatMap_map]
      apply List.flatMap_congr
      intro e he
      have hpos := List.length_pos_iff.mpr (ne_nil_of_mem_nodeTable he)
      have hlevel : level + 1 + (e.1.length - 1) = level + ((k :: e.1).length - 1) := by
        rw [List.length_cons]
        omega
      rw [hlevel]
    have hblank : [GroupLine.blank].filter (!·.isBlank) = [] := rfl
    rw [outline_eq, List.filter_append, List.filter_append, filter_ownLines, hinside, hblank, List.append_nil,
      List.flatMap_cons]
    rfl

theorem texts_outlineAll_groupBy (fields : List String) (records : List Issue) :
    ((outlineAll 0 (groupBy fields records)).map (·.text)).filter (· != "") =
      (nodeTable fields records).flatMap fun e => ownTexts (e.1.length - 1) e.2 := by
  have hblank : ((· != "") ∘ GroupLine.text) = fun line => !line.isBlank := by
    funext line
    rw [Function.comp_apply, Bool.eq_iff_iff, bne_iff_ne, ne_eq, GroupLine.text_eq_empty_iff, Bool.not_eq_true,
      Bool.not_eq_true']
  rw [List.filter_map, hblank, filter_outlineAll_groupBy, List.map_flatMap]
  apply List.flatMap_congr
  intro e he
  rw [Nat.zero_add, text_ownLines (aggregations_of_mem_nodeTable he)]

end Texts

section Issues

theorem issues_previewLines (level : Nat) (records : List Issue) :
    ((previewLines level records).map (·.issues)).sum = records.length := by
  have hshown : (((records.take previewLimit).map fun i =>
      GroupLine.issue level i.key (truncate i.summary summaryLimit)).map (·.issues)).sum =
        min previewLimit records.length := by
    simp [Function.comp_def, GroupLine.issues]
  rw [previewLines, List.map_append, List.sum_append, hshown]
  split
  · simp only [List.map_cons, List.map_nil, List.sum_singleton, GroupLine.issues]
    omega
  · simp only [List.map_nil, List.sum_nil]
    omega

theorem issues_ownLines (level : Nat) (g : Group) :
    ((ownLines level g).map (·.issues)).sum = if g.isLeaf then g.records.length else 0 := by
  have hheader : (GroupLine.header level g.key g.value g.records.length).issues = 0 := rfl
  have hmeasures : ((measureLines level g.aggregations).map (·.issues)).sum = 0 := by
    simp [measureLines, Function.comp_def, GroupLine.issues]
  rw [ownLines, List.map_append, List.sum_append, List.map_cons, List.sum_cons, hmeasures, hheader, shownLines]
  split
  · rw [issues_previewLines, Nat.zero_add]
  · rfl

mutual

theorem issues_outline : ∀ (level : Nat) (g : Group),
    ((outline level g).map (·.issues)).sum = ((leaves g).map (·.records.length)).sum
  | level, ⟨key, value, records, [], aggregations⟩ => by
    rw [outline_eq, leaves, outlineAll, List.append_nil, List.map_append, List.sum_append, issues_ownLines]
    simp [isLeaf, GroupLine.issues]
  | level, ⟨key, value, records, sub :: subs, aggregations⟩ => by
    have hinside := issues_outlineAll (level + 1) (sub :: subs)
    rw [outline_eq, leaves, List.map_append, List.map_append, List.sum_append, List.sum_append, issues_ownLines,
      hinside]
    simp [isLeaf, GroupLine.issues, leavesOf]

theorem issues_outlineAll : ∀ (level : Nat) (gs : List Group),
    ((outlineAll level gs).map (·.issues)).sum = ((leavesOf gs).map (·.records.length)).sum
  | level, [] => by
    rw [outlineAll, leavesOf]
    rfl
  | level, g :: gs => by
    rw [outlineAll, leavesOf, List.map_append, List.map_append, List.sum_append, List.sum_append,
      issues_outline level g, issues_outlineAll level gs]

end

end Issues

section Values

variable {level : Nat} {g : Group}

theorem shownLines_plain (level : Nat) (g : Group) : shownLines level g.plain = shownLines level g := by
  rw [plain_eq, shownLines, shownLines, isLeaf, isLeaf, List.isEmpty_map]

theorem inserted_outline_of_subgroups {all : List (OrderedMap Value)}
    (h : Inserted all (outlineAll (level + 1) (plainAll g.subgroups)) (outlineAll (level + 1) g.subgroups)) :
    Inserted (g.aggregations.getD [] :: all) (outline level g.plain) (outline level g) := by
  have hshown : Inserted [] (shownLines level g) (shownLines level g) :=
    GroupLine.inserted_self fun line hline => (of_mem_shownLines hline).1
  have hblank : Inserted [] [.blank] [.blank] := .other rfl .nil
  have hlines := Inserted.header level g.key g.value g.records.length (g.aggregations.getD [])
    ((hshown.append h).append hblank)
  rw [outline_eq, outline_eq, ownLines, ownLines, shownLines_plain, plain_eq, ← plainAll_eq_map]
  simpa [measureLines] using hlines

mutual

theorem inserted_outline : ∀ (level : Nat) (g : Group),
    Inserted (g.nodes.map fun h => h.aggregations.getD []) (outline level g.plain) (outline level g)
  | level, ⟨key, value, records, subgroups, aggregations⟩ => by
    rw [nodes]
    exact inserted_outline_of_subgroups (inserted_outlineAll (level + 1) subgroups)

theorem inserted_outlineAll : ∀ (level : Nat) (gs : List Group),
    Inserted ((nodesOf gs).map fun h => h.aggregations.getD []) (outlineAll level (plainAll gs)) (outlineAll level gs)
  | level, [] => .nil
  | level, g :: gs => by
    rw [nodesOf, plainAll, outlineAll, outlineAll, List.map_append]
    exact (inserted_outline level g).append (inserted_outlineAll level gs)

end

theorem forall₂_of_annotateAll {r : Registry} {now : Timestamp} {names : List String} {groups annotated : List Group}
    (h : r.annotateAll now names groups = .ok annotated) :
    List.Forall₂ (fun g values => r.evaluate g.records now names = .ok values) (nodesOf groups)
      ((nodesOf annotated).map fun g => g.aggregations.getD []) := by
  obtain ⟨hplain, hnodes⟩ := Registry.of_annotateAll h
  have hrecords : (nodesOf groups).map (·.records) = (nodesOf annotated).map (·.records) := by
    apply map_records_of_plain
    rw [← nodesOf_plainAll, ← nodesOf_plainAll, hplain]
  have hvalues : List.Forall₂ (fun records values => r.evaluate records now names = .ok values)
      ((nodesOf groups).map (·.records)) ((nodesOf annotated).map fun g => g.aggregations.getD []) := by
    rw [hrecords, List.forall₂_map_left_iff, List.forall₂_map_right_iff, List.forall₂_same]
    intro g hg
    obtain ⟨values, hvalues, hg⟩ := hnodes g hg
    rw [hg, hvalues, Option.getD_some]
  exact List.forall₂_map_left_iff.mp hvalues

end Values

/-- What the lines of issues in groups tell: of every node once, depth first, and of every issue once. -/
structure IsOutline (records : List Issue) (groups : List Group) (lines : List GroupLine) : Prop where
  nodes : ∃ table : List (List FieldKey × Group), table.map (·.2) = nodesOf groups ∧
    (table.map (·.1)).Nodup ∧ (∀ ks g, (ks, g) ∈ table ↔ Reaches groups ks g) ∧
    (lines.map (·.text)).filter (· != "") = table.flatMap fun e => ownTexts (e.1.length - 1) e.2
  summaries : ∀ i ∈ records, IsCut 40 i.summary (truncate i.summary 40)
  issues : (lines.map (·.issues)).sum = records.length

theorem isOutline_groupBy (field : String) (fields : List String) (records : List Issue) :
    IsOutline records (groupBy (field :: fields) records) (outlineAll 0 (groupBy (field :: fields) records)) where
  nodes := ⟨nodeTable (field :: fields) records, map_snd_nodeTable _ _, nodup_nodeTable_paths _ _,
    fun _ _ => mem_nodeTable_iff, texts_outlineAll_groupBy _ _⟩
  summaries i _ := isCut_truncate i.summary (by decide)
  issues := by
    rw [issues_outlineAll, leavesOf_eq_flatMap, ← List.length_flatMap]
    exact (leaves_groupBy_perm field fields records).length_eq

theorem outline_accounts (field : String) (fields : List String) (records : List Issue) :
    IsOutline records (groupBy (field :: fields) records) (outlineAll 0 (groupBy (field :: fields) records)) ∧
    ∀ (r : Registry) (now : Timestamp) (names : List String) (annotated : List Group),
      r.annotateAll now names (groupBy (field :: fields) records) = .ok annotated →
      ∃ values : List (OrderedMap Value),
        List.Forall₂ (fun g v => r.evaluate g.records now names = .ok v)
          (nodesOf (groupBy (field :: fields) records)) values ∧
        Inserted values (outlineAll 0 (groupBy (field :: fields) records)) (outlineAll 0 annotated) := by
  refine ⟨isOutline_groupBy field fields records, fun r now names annotated h => ?_⟩
  have hinserted := inserted_outlineAll 0 annotated
  rw [(Registry.of_annotateAll h).1, plainAll_groupBy] at hinserted
  exact ⟨_, forall₂_of_annotateAll h, hinserted⟩

def lostPayments : List Issue :=
  let bug := Sample.paymentBug ⟨0, none⟩ ⟨0, none⟩
  (["A-1", "A-2", "A-3", "A-4", "A-5", "A-6"].map fun key =>
    { bug with key, summary := "Payments that are made twice on one day are lost" }) ++
    [{ bug with key := "A-7", status := "Done", assignee := none }]

def lostPaymentTexts : List String :=
  ["status: Open (6 issues)",
    "  count: 6",
    "  assignee: John Doe (6 issues)",
    "    count: 6",
    "    - A-1: Payments that are made twice on one d...",
    "    - A-2: Payments that are made twice on one d...",
    "    - A-3: Payments that are made twice on one d...",
    "    - A-4: Payments that are made twice on one d...",
    "    - A-5: Payments that are made twice on one d...",
    "    ... and 1 more",
    "",
    "",
    "status: Done (1 issues)",
    "  count: 1",
    "  assignee: Unassigned (1 issues)",
    "    count: 1",
    "    - A-7: Payment processing bug in checkout flow",
    "",
    ""]

theorem outline_accounts_lostPayments : ∃ annotated values,
    Registry.aggregations.annotateAll ⟨0, none⟩ ["count"] (groupBy ["status", "assignee"] lostPayments) =
      .ok annotated ∧
    (outlineAll 0 annotated).map (·.text) = lostPaymentTexts ∧
    Inserted values (outlineAll 0 (groupBy ["status", "assignee"] lostPayments)) (outlineAll 0 annotated) := by
  have htexts : (Registry.aggregations.annotateAll ⟨0, none⟩ ["count"]
      (groupBy ["status", "assignee"] lostPayments)).toOption.map (fun gs => (outlineAll 0 gs).map (·.text)) =
        some lostPaymentTexts := by
    decide +kernel
  cases h : Registry.aggregations.annotateAll ⟨0, none⟩ ["count"]
      (groupBy ["status", "assignee"] lostPayments) with
  | error fault =>
    rw [h] at htexts
    cases htexts
  | ok annotated =>
    rw [h] at htexts
    obtain ⟨values, -, hinserted⟩ := (outline_accounts "status" ["assignee"] lostPayments).2 _ _ _ annotated h
    exact ⟨annotated, values, rfl, Option.some.inj htexts, hinserted⟩

end Group

end IssueQuery

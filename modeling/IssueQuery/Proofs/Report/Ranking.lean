import IssueQuery.Proofs.Analysis.Priority
import IssueQuery.Proofs.Analysis.RollUp
import IssueQuery.Proofs.Outcome
import IssueQuery.Report.Summary
import IssueQuery.Tracker.Sample
import Mathlib.Data.Finset.Card
import Mathlib.Data.List.Permutation

namespace IssueQuery

open Text
open Calendar (Timestamp)

/-- The first text occurs more often than the second, or as often and is seen first. -/
def Precedes (xs : List String) (a b : String) : Prop :=
  xs.count b < xs.count a ∨ xs.count a = xs.count b ∧ xs.idxOf a < xs.idxOf b

structure Ranking (xs : List String) (table : OrderedMap Nat) : Prop where
  nodup : table.keys.Nodup
  mem_keys : ∀ x, x ∈ table.keys ↔ x ∈ xs
  count : ∀ e ∈ table, e.2 = xs.count e.1
  ordered : table.keys.Pairwise (Precedes xs)

/-- As many texts as there are, up to a number, with their numbers of occurrences; no other text has a right to be
among them. -/
structure Leaders (xs : List String) (limit : Nat) (table : OrderedMap Nat) : Prop where
  nodup : table.keys.Nodup
  length : table.length = min limit xs.toFinset.card
  count : ∀ e ∈ table, e.1 ∈ xs ∧ e.2 = xs.count e.1
  ordered : table.keys.Pairwise (Precedes xs)
  others : ∀ a ∈ table.keys, ∀ x ∈ xs, x ∉ table.keys → Precedes xs a x

section Distinct

theorem pairwise_distinct (xs : List String) : (distinct xs).Pairwise (xs.idxOf · < xs.idxOf ·) := by
  induction xs with
  | nil => exact List.Pairwise.nil
  | cons x xs ih =>
    have hidx {y : String} (hy : y ∈ (distinct xs).filter (· != x)) :
        (x :: xs).idxOf y = xs.idxOf y + 1 := by
      rw [List.idxOf_cons_ne]
      exact Ne.symm (bne_iff_ne.mp (List.mem_filter.mp hy).2)
    rw [distinct, List.pairwise_cons]
    constructor
    · intro y hy
      rw [List.idxOf_cons_self, hidx hy]
      omega
    · apply (ih.filter _).imp_of_mem
      intro a b ha hb hlt
      rw [hidx ha, hidx hb]
      omega

end Distinct

section Ranking

variable {xs : List String} {table : OrderedMap Nat}

theorem ranked_perm (xs : List String) : (ranked xs).Perm (counts xs) :=
  List.mergeSort_perm _ _

theorem keys_ranked_perm (xs : List String) : (ranked xs).keys.Perm (distinct xs) := by
  rw [← keys_counts]
  exact (ranked_perm xs).map _

theorem count_of_mem_ranked {e : String × Nat} (h : e ∈ ranked xs) : e.2 = xs.count e.1 := by
  obtain ⟨x, -, rfl⟩ := List.mem_map.mp ((ranked_perm xs).mem_iff.mp h)
  rfl

theorem ranked_pairwise (xs : List String) : (ranked xs).Pairwise fun a b => Precedes xs a.1 b.1 := by
  have hseen : (counts xs).Pairwise fun a b => xs.idxOf a.1 < xs.idxOf b.1 := by
    rw [counts, List.pairwise_map]
    exact pairwise_distinct xs
  -- The sort is by descending numbers.
  have hsorted := pairwise_mergeSort_lex (fun e : String × Nat => OrderDual.toDual e.2) hseen
  refine List.Pairwise.imp_of_mem ?_ (show (ranked xs).Pairwise _ from hsorted)
  intro a b ha hb h
  rw [OrderDual.toDual_lt_toDual, OrderDual.toDual_inj, count_of_mem_ranked ha, count_of_mem_ranked hb] at h
  exact h

theorem ranking_ranked (xs : List String) : Ranking xs (ranked xs) where
  nodup := (keys_ranked_perm xs).nodup_iff.mpr (nodup_distinct xs)
  mem_keys _ := (keys_ranked_perm xs).mem_iff.trans mem_distinct
  count _ h := count_of_mem_ranked h
  ordered := List.pairwise_map.mpr (ranked_pairwise xs)

theorem Precedes.asymm {a b : String} (hab : Precedes xs a b) (hba : Precedes xs b a) : False := by
  unfold Precedes at hab hba
  omega

theorem Ranking.eq_map (h : Ranking xs table) : table = table.keys.map fun x => (x, xs.count x) := by
  rw [OrderedMap.keys, List.map_map, eq_comm]
  refine (List.map_congr_left fun e he => ?_).trans table.map_id
  exact Prod.ext rfl (h.count e he).symm

theorem Ranking.unique {other : OrderedMap Nat} (h : Ranking xs table) (ho : Ranking xs other) : table = other := by
  have hperm : table.keys.Perm other.keys := by
    rw [List.perm_ext_iff_of_nodup h.nodup ho.nodup]
    intro x
    rw [h.mem_keys, ho.mem_keys]
  have hkeys := hperm.eq_of_pairwise (fun a b _ _ hab hba => (hab.asymm hba).elim) h.ordered ho.ordered
  rw [h.eq_map, hkeys, ← ho.eq_map]

theorem ranking_iff : Ranking xs table ↔ table = ranked xs := by
  constructor
  · exact fun h => h.unique (ranking_ranked xs)
  · rintro rfl
    exact ranking_ranked xs

theorem Ranking.sum_eq (h : Ranking xs table) : (table.map (·.2)).sum = xs.length := by
  rw [ranking_iff.mp h, ((ranked_perm xs).map _).sum_nat, sum_counts]

theorem Ranking.length_eq (h : Ranking xs table) : table.length = xs.toFinset.card := by
  have hset : table.keys.toFinset = xs.toFinset := by
    ext x
    rw [List.mem_toFinset, List.mem_toFinset, h.mem_keys]
  rw [← hset, List.toFinset_card_of_nodup h.nodup, OrderedMap.keys, List.length_map]

theorem leaders_take (h : Ranking xs table) (limit : Nat) : Leaders xs limit (table.take limit) := by
  have hkeys : OrderedMap.keys (table.take limit) = table.keys.take limit := List.map_take
  refine ⟨?_, ?_, ?_, ?_, ?_⟩
  · rw [hkeys]
    exact h.nodup.sublist (List.take_sublist _ _)
  · rw [List.length_take, h.length_eq]
  · intro e he
    have hmem := List.mem_of_mem_take he
    exact ⟨(h.mem_keys e.1).mp (List.mem_map_of_mem hmem), h.count e hmem⟩
  · rw [hkeys]
    exact h.ordered.sublist (List.take_sublist _ _)
  · intro a ha x hx hnot
    rw [hkeys] at ha hnot
    -- What is not taken is dropped, and stands behind all that is taken.
    have hsplit := List.take_append_drop limit table.keys
    have hdrop : x ∈ table.keys.drop limit := by
      have hmem := (h.mem_keys x).mpr hx
      rw [← hsplit, List.mem_append] at hmem
      exact hmem.resolve_left hnot
    have hordered := h.ordered
    rw [← hsplit, List.pairwise_append] at hordered
    exact hordered.2.2 a ha x hdrop

end Ranking

namespace Summary

def statusTable (total : Nat) (table : OrderedMap Nat) : List String :=
  "Status Distribution:" :: table.map fun e =>
    "  " ++ e.1 ++ ": " ++ toString e.2 ++ " (" ++ Number.fixed 1 (percentage e.2 total) ++ "%)"

def assigneeTable (table : OrderedMap Nat) : List String :=
  "Top Assignees:" :: table.map fun e => "  " ++ e.1 ++ ": " ++ toString e.2 ++ " issues"

def averages (ages updateAges : List Float) : List String :=
  ["Time Metrics:", averageLine "age" ages, averageLine "days since update" updateAges]

variable {now : Timestamp} {issues : List Issue} {lines : List String}

theorem issueLines_eq_ok_iff (h : issues ≠ []) :
    issueLines now issues = .ok lines ↔ ∃ ages updateAges,
      Measure.ages issues now = .ok ages ∧ Measure.updateAges issues now = .ok updateAges ∧
        lines = statusTable issues.length (statuses issues) ++ [""] ++ assigneeTable (topAssignees issues) ++ [""] ++
          averages ages updateAges := by
  rw [issueLines, if_neg (by simpa using h)]
  constructor
  · intro hlines
    obtain ⟨ages, hages, hlines⟩ := Outcome.of_bind hlines
    obtain ⟨updateAges, hupdates, hlines⟩ := Outcome.of_bind hlines
    refine ⟨ages, updateAges, hages, hupdates, ?_⟩
    rw [← Except.ok.inj hlines]
    simp [statusTable, assigneeTable, averages, statusLines, assigneeLines]
  · rintro ⟨ages, updateAges, hages, hupdates, rfl⟩
    rw [hages, hupdates]
    simp [statusTable, assigneeTable, averages, statusLines, assigneeLines, Bind.bind, Except.bind, Pure.pure, Except.pure]

theorem exists_daysBetween_iff {start stop : Timestamp} :
    (∃ days, ofClock (Calendar.daysBetween start stop) = .ok days) ↔
      (∃ utc, stop.toUtc = .ok utc) ∧ ∃ utc, start.toUtc = .ok utc := by
  rw [Calendar.daysBetween]
  constructor
  · cases stop.toUtc <;> cases start.toUtc <;> rintro ⟨days, hdays⟩
    case ok.ok => exact ⟨⟨_, rfl⟩, _, rfl⟩
    all_goals cases hdays
  · rintro ⟨⟨last, hlast⟩, first, hfirst⟩
    rw [hlast, hfirst]
    exact ⟨_, rfl⟩

theorem exists_ages_iff (h : issues ≠ []) :
    ((∃ ages, Measure.ages issues now = .ok ages) ∧ ∃ updateAges, Measure.updateAges issues now = .ok updateAges) ↔
      (∃ utc, now.toUtc = .ok utc) ∧
        ∀ i ∈ issues, (∃ utc, i.created.toUtc = .ok utc) ∧ ∃ utc, i.updated.toUtc = .ok utc := by
  obtain ⟨first, hfirst⟩ := List.exists_mem_of_ne_nil issues h
  rw [Measure.ages, Measure.updateAges, Outcome.exists_mapM_iff, Outcome.exists_mapM_iff]
  simp only [Measure.daysOpen, Measure.daysSinceUpdate, exists_daysBetween_iff]
  constructor
  · rintro ⟨hages, hupdates⟩
    exact ⟨(hages first hfirst).1, fun i hi => ⟨(hages i hi).2, (hupdates i hi).2⟩⟩
  · rintro ⟨hnow, hissues⟩
    exact ⟨fun i hi => ⟨hnow, (hissues i hi).1⟩, fun i hi => ⟨hnow, (hissues i hi).2⟩⟩

end Summary

namespace Findings

open Summary

variable {now : Timestamp} {f : Findings}

def summaryText (f : Findings) (statuses assignees : OrderedMap Nat) (averages : List String) : String :=
  join "\n" (["Query Summary: " ++ f.result.total.text ++ " issues found", "JQL: " ++ f.result.query, ""] ++
    groupSection f.groups ++
    (statusTable f.result.issues.length statuses ++ [""] ++ assigneeTable assignees ++ [""] ++ averages) ++
    sectionOf "Custom Calculations:" f.calculations ++ sectionOf "Custom Aggregations:" f.aggregations)

theorem summary_eq_ok_iff (h : f.result.issues ≠ []) {text : String} :
    f.summary now = .ok text ↔ ∃ ages updateAges,
      Measure.ages f.result.issues now = .ok ages ∧ Measure.updateAges f.result.issues now = .ok updateAges ∧
        text = f.summaryText (statuses f.result.issues) (topAssignees f.result.issues) (averages ages updateAges) := by
  constructor
  · intro htext
    obtain ⟨body, hbody, htext⟩ := Outcome.of_bind htext
    obtain ⟨ages, updateAges, hages, hupdates, rfl⟩ := (issueLines_eq_ok_iff h).mp hbody
    exact ⟨ages, updateAges, hages, hupdates, (Except.ok.inj htext).symm⟩
  · rintro ⟨ages, updateAges, hages, hupdates, rfl⟩
    rw [summary, (issueLines_eq_ok_iff h).mpr ⟨ages, updateAges, hages, hupdates, rfl⟩]
    rfl

theorem summary_shows (now : Timestamp) (h : f.result.issues ≠ []) :
    ((∃ text, f.summary now = .ok text) ↔ (∃ utc, now.toUtc = .ok utc) ∧
      ∀ i ∈ f.result.issues, (∃ utc, i.created.toUtc = .ok utc) ∧ ∃ utc, i.updated.toUtc = .ok utc) ∧
    ∃ statuses assignees : OrderedMap Nat,
      Ranking (f.result.issues.map (·.status)) statuses ∧
      (statuses.map (·.2)).sum = f.result.issues.length ∧
      Ranking (f.result.issues.map (·.assigneeName)) assignees ∧
      Leaders (f.result.issues.map (·.assigneeName)) 5 (assignees.take 5) ∧
      ∀ text, f.summary now = .ok text ↔ ∃ ages updateAges,
        Measure.ages f.result.issues now = .ok ages ∧ Measure.updateAges f.result.issues now = .ok updateAges ∧
          text = f.summaryText statuses (assignees.take 5) (averages ages updateAges) := by
  have hstatuses := ranking_ranked (f.result.issues.map (·.status))
  have hassignees := ranking_ranked (f.result.issues.map (·.assigneeName))
  refine ⟨?_, _, _, hstatuses, ?_, hassignees, leaders_take hassignees 5, fun _ => summary_eq_ok_iff h⟩
  · rw [← exists_ages_iff h]
    constructor
    · rintro ⟨text, htext⟩
      obtain ⟨ages, updateAges, hages, hupdates, -⟩ := (summary_eq_ok_iff h).mp htext
      exact ⟨⟨ages, hages⟩, updateAges, hupdates⟩
    · rintro ⟨⟨ages, hages⟩, updateAges, hupdates⟩
      exact ⟨_, (summary_eq_ok_iff h).mpr ⟨ages, updateAges, hages, hupdates, rfl⟩⟩
  · rw [hstatuses.sum_eq, List.length_map]

def tiedIssues : Findings :=
  let bug := Sample.paymentBug ⟨0, some 0⟩ ⟨0, none⟩
  ⟨⟨[{ bug with status := "New", assignee := none }, { bug with status := "Open" }, { bug with status := "Done" },
    { bug with status := "Done", assignee := none }, { bug with status := "Open" }], "", .count 5⟩, none⟩

theorem summary_shows_tiedIssues :
    tiedIssues.result.issues ≠ [] ∧ ∃ text ages updateAges, tiedIssues.summary ⟨0, some 0⟩ = .ok text ∧
      text = tiedIssues.summaryText [("Open", 2), ("Done", 2), ("New", 1)] [("John Doe", 3), ("Unassigned", 2)]
        (averages ages updateAges) := by
  have hissues : tiedIssues.result.issues ≠ [] := List.cons_ne_nil _ _
  obtain ⟨hsummary, statuses, assignees, hstatuses, -, hassignees, -, htext⟩ := summary_shows ⟨0, some 0⟩ hissues
  have hclocks : ∀ i ∈ tiedIssues.result.issues,
      (∃ utc, i.created.toUtc = .ok utc) ∧ ∃ utc, i.updated.toUtc = .ok utc := by
    simp only [tiedIssues, List.forall_mem_cons]
    have hzero : ∃ utc, (Timestamp.mk 0 (some 0)).toUtc = .ok utc := ⟨_, rfl⟩
    have hplain : ∃ utc, (Timestamp.mk 0 none).toUtc = .ok utc := ⟨_, rfl⟩
    exact ⟨⟨hzero, hplain⟩, ⟨hzero, hplain⟩, ⟨hzero, hplain⟩, ⟨hzero, hplain⟩, ⟨hzero, hplain⟩, by simp⟩
  obtain ⟨text, hok⟩ := hsummary.mpr ⟨⟨_, rfl⟩, hclocks⟩
  obtain ⟨ages, updateAges, -, -, heq⟩ := (htext text).mp hok
  have hstatuses : statuses = [("Open", 2), ("Done", 2), ("New", 1)] :=
    (ranking_iff.mp hstatuses).trans (by cbv)
  have hassignees : assignees = [("John Doe", 3), ("Unassigned", 2)] :=
    (ranking_iff.mp hassignees).trans (by cbv)
  rw [hstatuses, hassignees] at heq
  exact ⟨hissues, text, ages, updateAges, hok, heq⟩

end Findings

end IssueQuery

import IssueQuery.Proofs.Outcome
import IssueQuery.Proofs.Tracker.Testing
import IssueQuery.Tracker.Memory
import IssueQuery.Tracker.Sample

namespace IssueQuery

open Text
open Calendar (Timestamp daysBefore microsPerDay)

def isListed (asked : Option (List String)) (values : List String) : Bool :=
  match asked with
  | none | some [] => true
  | some vs => vs.any fun v => values.any fun value => lower v == lower value

def isRecent (now : Timestamp) (w : Option DateWindow) (t : Timestamp) : Bool :=
  match w.bind (·.lastDays) with
  | some days => now.utcWall - days * microsPerDay ≤ t.utcWall
  | none => true

def isAssignedAs (name : String) (x : Issue) : Bool :=
  match Assignee.ofName name with
  | .asking => x.assignee.any (·.accountId == "john.doe")
  | .nobody => x.assignee.isNone
  | .named name => x.assignee.any fun u => lower name == lower u.displayName || lower name == u.accountId

/-- The issue satisfies an intent at a point in time; bounds on days restrict nothing. -/
def Intent.admits (now : Timestamp) (i : Intent) (x : Issue) : Bool :=
  let f := i.allFilters
  (Clause.present f.assignee).all (isAssignedAs · x) &&
    (Clause.present f.project).all (fun p => lower p == lower x.project) &&
    isListed f.status [x.status] && isListed f.issueTypes [x.issueType] &&
    isListed f.priorities [x.priority] && isRecent now f.updated x.updated &&
    isRecent now f.created x.created && isListed f.labels x.labels && isListed f.components x.components &&
    (Clause.present (i.search.map strip)).all fun s =>
      contains (lower (x.summary ++ " " ++ x.description.getD "")) (lower s)

def DateWindow.Countable (now : Timestamp) (w : DateWindow) : Prop :=
  ∀ days ∈ w.lastDays, 0 ≤ days ∧ ∃ cutoff, daysBefore days.toNat now = .ok cutoff

/-- The values are harmless, days can be counted back and the limit is positive. -/
structure Intent.Searchable (now : Timestamp) (i : Intent) : Prop where
  project : ∀ s ∈ i.allFilters.project, Harmless s
  assignee : ∀ s ∈ i.allFilters.assignee, Harmless s
  status : ∀ vs ∈ i.allFilters.status, ∀ v ∈ vs, Harmless v
  issueTypes : ∀ vs ∈ i.allFilters.issueTypes, ∀ v ∈ vs, Harmless v
  priorities : ∀ vs ∈ i.allFilters.priorities, ∀ v ∈ vs, Harmless v
  labels : ∀ vs ∈ i.allFilters.labels, ∀ v ∈ vs, Harmless v
  components : ∀ vs ∈ i.allFilters.components, ∀ v ∈ vs, Harmless v
  search : ∀ s ∈ i.search, Harmless s
  created : ∀ w ∈ i.allFilters.created, w.Countable now
  updated : ∀ w ∈ i.allFilters.updated, w.Countable now
  limit : ∀ n ∈ i.limit, 1 ≤ n

namespace Comparison

/-- What an issue must meet for a comparison, as far as it is recognised. -/
def meets (now : Timestamp) (x : Issue) (c : Comparison) : Bool :=
  (Condition.ofComparison c).all (·.holds now x)

variable {now : Timestamp} {x : Issue}

theorem all_ofValues {f : MatchField} {values : List String} (hf : f.values x = values.map lower)
    (asked : Option (List String)) :
    (ofValues f (asked.getD [])).all (meets now x) = isListed asked values := by
  have hone (v : String) : (f.values x).contains (lower v) = values.any fun value => lower v == lower value := by
    rw [hf, List.contains_eq_any_beq, List.any_map]
    rfl
  match asked with
  | none => rfl
  | some [] => rfl
  | some [v] =>
    show [equals f v].all (meets now x) = [v].any fun v => values.any fun value => lower v == lower value
    rw [List.all_cons, List.all_nil, Bool.and_true, List.any_cons, List.any_nil, Bool.or_false, ← hone v]
    rfl
  | some (v :: w :: vs) =>
    have hall : (f.values x).any (fun u => ((v :: w :: vs).map lower).contains u) =
        (v :: w :: vs).any fun v => (f.values x).contains (lower v) := by
      rw [Bool.eq_iff_iff, List.any_eq_true, List.any_eq_true]
      constructor
      · rintro ⟨u, hu, hm⟩
        obtain ⟨a, ha, rfl⟩ := List.mem_map.mp (List.contains_iff_mem.mp hm)
        exact ⟨a, ha, List.contains_iff_mem.mpr hu⟩
      · rintro ⟨a, ha, hm⟩
        exact ⟨lower a, List.contains_iff_mem.mp hm, List.contains_iff_mem.mpr (List.mem_map_of_mem ha)⟩
    show ([oneOf f (v :: w :: vs)].all (meets now x)) = _
    rw [List.all_cons, List.all_nil, Bool.and_true, meets, Condition.ofComparison, Option.all_some,
      Condition.holds, hall]
    exact congrArg (List.any (v :: w :: vs)) (funext hone)

theorem all_ofWindow (f : TimeField) {w : Option DateWindow}
    (hw : ∀ v ∈ w, ∀ days ∈ v.lastDays, 0 ≤ days) :
    (ofWindow f (w.bind DateWindow.canonical)).all (meets now x) = isRecent now w (f.time x) := by
  match w with
  | none => rfl
  | some ⟨none, start, stop⟩ => cases start <;> cases stop <;> rfl
  | some ⟨some n, start, stop⟩ =>
    obtain ⟨n, rfl⟩ := Int.eq_ofNat_of_zero_le (hw _ rfl n rfl)
    have hm : meets now x (lastDays f n) = decide (now.utcWall - n * microsPerDay ≤ (f.time x).utcWall) := by
      show decide (now.utcWall - Number.asciiValue (toString n).toList * microsPerDay ≤ _) = _
      rw [Number.asciiValue_toString]
    show [lastDays f n].all (meets now x) = _
    rw [List.all_cons, List.all_nil, Bool.and_true, hm]
    rfl

theorem meets_assignee (name : String) : meets now x (Assignee.ofName name).comparison = isAssignedAs name x := by
  unfold isAssignedAs
  cases ha : Assignee.ofName name with
  | asking => rfl
  | nobody => rfl
  | named other =>
    obtain rfl : name = other := by
      unfold Assignee.ofName at ha
      split at ha
      · cases ha
      · split at ha
        · cases ha
        · exact Assignee.named.inj ha
    cases hx : x.assignee <;>
      simp [meets, Assignee.comparison, Condition.ofComparison, Condition.holds, Condition.isAssignedTo, hx]

end Comparison

open Comparison (meets all_ofValues all_ofWindow meets_assignee) in
theorem Intent.all_meets {now : Timestamp} {i : Intent} (h : i.Searchable now) (x : Issue) :
    i.canonical.parts.flatten.all (meets now x) = i.admits now x := by
  have hassignee (name : Option String) : ((name.map Assignee.ofName).toList.map Assignee.comparison).all
      (meets now x) = name.all (isAssignedAs · x) := by
    cases name with
    | none => rfl
    | some name => simpa using meets_assignee name
  have hvalues (f : MatchField) (values : List String) (hf : f.values x = values.map lower)
      (asked : Option (List String)) :
      (Comparison.ofValues f (asked.getD [])).all (meets now x) = isListed asked values := all_ofValues hf asked
  have hproject (p : Option String) : (Comparison.ofValues .project p.toList).all (meets now x) =
      p.all fun p => lower p == lower x.project := by
    cases p with
    | none => rfl
    | some p =>
      have ha := hvalues .project [x.project] rfl (some [p])
      simpa [isListed] using ha
  have hsearch (s : Option String) : (s.toList.map Comparison.mentions).all (meets now x) =
      s.all fun s => contains (lower (x.summary ++ " " ++ x.description.getD "")) (lower s) := by
    cases s with
    | none => rfl
    | some s => exact Bool.and_true _
  have hwindow (f : TimeField) (w : Option DateWindow) (hw : ∀ v ∈ w, v.Countable now) :
      (Comparison.ofWindow f (w.bind DateWindow.canonical)).all (meets now x) = isRecent now w (f.time x) :=
    all_ofWindow f fun v hv n hn => (hw v hv n hn).1
  simp only [CanonicalIntent.parts, Intent.canonical, Clause.getD_presentList, List.flatten_cons,
    List.flatten_nil, List.append_nil, List.all_append, hassignee, hproject, hsearch,
    hwindow .updated _ h.updated, hwindow .created _ h.created]
  rw [hvalues .status [x.status] rfl, hvalues .type [x.issueType] rfl, hvalues .priority [x.priority] rfl,
    hvalues .labels x.labels rfl, hvalues .component x.components rfl]
  simp only [Intent.admits, Bool.and_assoc]
  rfl

theorem infix_strip (s : String) : (strip s).toList <:+: s.toList := by
  rw [strip, String.toList_ofList, stripChars, stripEnd, ← List.reverse_infix, List.reverse_reverse]
  exact (List.dropWhile_suffix _).isInfix.trans
    (List.reverse_infix.mpr (List.dropWhile_suffix isBlank).isInfix)

theorem Harmless.strip {s : String} (h : Harmless s) : Harmless (strip s) := by
  have hplain : Plain (Text.strip s).toList := fun c hc => h.plain c ((infix_strip s).subset hc)
  have hlower : (lower (Text.strip s)).toList <:+: (lower s).toList := by
    rw [h.lower_toList, lower, String.toList_ofList, lowerChars_ascii fun c hc => lt_of_isPlain (hplain c hc)]
    exact (infix_strip s).map asciiLower
  have hphrase {phrase : String} (hp : contains (lower s) phrase = false) :
      contains (lower (Text.strip s)) phrase = false := by
    rw [contains, ← Bool.not_eq_true, occursIn_iff] at hp ⊢
    exact fun hi => hp (hi.trans hlower)
  exact ⟨hplain, hphrase h.order, hphrase h.nobody⟩

namespace Intent.Searchable

variable {i : Intent} {now : Timestamp}

theorem parts_fine (h : i.Searchable now) :
    ∀ cs ∈ i.canonical.parts, ∀ c ∈ cs, c.Plain ∧ Condition.Counts now c := by
  have hlist {xs : Option (List String)} (f : MatchField) (hx : ∀ vs ∈ xs, ∀ v ∈ vs, Harmless v) :
      ∀ vs ∈ xs, ∀ c ∈ Comparison.ofValues f vs, c.Plain ∧ Condition.Counts now c := by
    intro vs hv c hc
    obtain ⟨v, rfl, rfl⟩ | ⟨hne, rfl⟩ := Comparison.mem_ofValues hc
    · exact ⟨hx [v] hv v (by simp), trivial⟩
    · exact ⟨⟨hne, hx vs hv⟩, trivial⟩
  have hwindow {w : Option DateWindow} (f : TimeField) (hw : ∀ v ∈ w, v.Countable now) :
      ∀ v ∈ w, ∀ c ∈ Comparison.ofWindow f v.canonical, c.Plain ∧ Condition.Counts now c := by
    intro v hv c hc
    obtain ⟨n, hn, rfl⟩ | ⟨d, rfl⟩ | ⟨d, rfl⟩ := Comparison.mem_ofWindow hc
    · exact hw v hv n hn
    · exact ⟨trivial, trivial⟩
    · exact ⟨trivial, trivial⟩
  apply i.forall_parts (P := fun c => c.Plain ∧ Condition.Counts now c)
  case assignee =>
    intro name hn
    rcases Assignee.comparison_ofName name with hc | hc | hc <;> rw [hc]
    · exact ⟨trivial, trivial⟩
    · exact ⟨trivial, trivial⟩
    · exact ⟨h.assignee name hn, trivial⟩
  case project => exact fun p hp => ⟨h.project p hp, trivial⟩
  case status => exact hlist _ h.status
  case issueTypes => exact hlist _ h.issueTypes
  case priorities => exact hlist _ h.priorities
  case updated => exact hwindow _ h.updated
  case created => exact hwindow _ h.created
  case labels => exact hlist _ h.labels
  case components => exact hlist _ h.components
  case search => exact fun s hs => ⟨(h.search s hs).strip, trivial⟩

end Intent.Searchable

theorem Query.Ends.stops {stop : List Char} (h : Ends stop) : Stops stop := by
  rcases h with rfl | ⟨order, rfl⟩
  · simp [Stops]
  · intro c hc
    obtain rfl : c = ' ' := by simpa using hc.symm
    decide

namespace CanonicalIntent

def ending (c : CanonicalIntent) : List Char :=
  match Clause.present c.order with
  | none => []
  | some order => " ORDER BY ".toList ++ order.toList

theorem ends_ending (c : CanonicalIntent) : Query.Ends c.ending := by
  unfold ending
  split
  · exact .inl rfl
  · exact .inr ⟨_, rfl⟩

theorem text_cases (c : CanonicalIntent) :
    (c.parts.flatten = [] ∧ (c.query.text = "" ∨ ∃ order, c.query.text = "ORDER BY " ++ order)) ∨
      ∃ w, c.condition = some w ∧ c.query.text.toList = w.toList ++ c.ending := by
  have ht : c.query.text = Query.render ⟨c.condition, c.order⟩ := rfl
  cases hc : c.condition with
  | none =>
    have hnone : Clause.present none = none := rfl
    refine .inl ⟨Query.flatten_eq_nil hc, ?_⟩
    rw [ht, hc]
    cases ho : Clause.present c.order with
    | none => exact .inl (by simp [Query.render, ho, hnone])
    | some order => exact .inr ⟨order, by simp [Query.render, ho, hnone]⟩
  | some w =>
    obtain ⟨first, rest, hw, _⟩ := Query.conjunction_eq_cons hc
    have hp := present_of_ne (s := w) (by simp [hw])
    refine .inr ⟨w, rfl, ?_⟩
    rw [ht, hc, ending]
    cases ho : Clause.present c.order with
    | none => simp [Query.render, ho, hp]
    | some order => simp [Query.render, ho, hp]

end CanonicalIntent

theorem Query.firstOf_pageSize {α : Type} {q : Query} (h : ∀ n ∈ q.limit, 1 ≤ n) (xs : List α) :
    firstOf q.pageSize xs = xs.take (q.limit.getD defaultPageSize).toNat := by
  have hsize : q.pageSize = q.limit.getD defaultPageSize := by
    rw [pageSize]
    split
    · rename_i hl
      rw [hl]
      rfl
    · rename_i hl
      exact absurd (h 0 hl) (by decide)
    · rename_i n _ hl
      rw [hl]
      rfl
  have hpos : ¬q.limit.getD defaultPageSize < 0 := by
    cases hl : q.limit with
    | none => decide
    | some n =>
      have hn := h n hl
      show ¬n < 0
      omega
  rw [hsize, firstOf, if_neg hpos]

namespace Memory

variable {i : Intent} {now made : Timestamp} {issues : List Issue}

open Condition in
theorem ofText_compile (h : i.Searchable now) :
    ofText (Query.compile i).text = ofComparisons i.canonical.parts.flatten := by
  have hplain : ∀ c ∈ i.canonical.parts.flatten, c.Plain := by
    intro c hc
    obtain ⟨cs, hcs, hc⟩ := List.mem_flatten.mp hc
    exact (h.parts_fine cs hcs c hc).1
  rw [Query.compile_eq_query]
  rcases i.canonical.text_cases with ⟨hnil, ht⟩ | ⟨w, hw, ht⟩
  · refine ofText_of_layout (.inl rfl) ?_ hplain
    rw [hnil]
    rcases ht with ht | ⟨order, ht⟩
    · rw [ht]
      exact .stop
    · have hcut : beforeOrder false (i.canonical.query.text).toList = [] := by
        rw [ht, String.toList_append]
        rfl
      rw [hcut]
      exact .stop
  · have hstop := i.canonical.ends_ending
    obtain ⟨gap, hg, hcut⟩ := beforeOrder_condition hstop (.of_conjunction hw hstop.stops) hplain
    refine ofText_of_layout hg ?_ hplain
    rw [ht, hcut]
    exact .of_conjunction hw hg.stops

theorem search_eq_filter (h : i.Searchable now) (hi : Condition.Comparable now issues) :
    search issues now (Query.compile i) =
      .ok ⟨(issues.filter (i.admits now)).take ((i.limit.getD Query.defaultPageSize).toNat),
        (Query.compile i).text, .count (issues.filter (i.admits now)).length⟩ := by
  have hdecides : ∀ c ∈ Condition.ofText (Query.compile i).text, c.Decides now issues := by
    intro c hc
    rw [ofText_compile h, Condition.mem_ofComparisons] at hc
    obtain ⟨d, hd, hc⟩ := hc
    obtain ⟨ds, hds, hd⟩ := List.mem_flatten.mp hd
    obtain ⟨hp, hn⟩ := h.parts_fine ds hds d hd
    exact Condition.decides_ofComparison hi hp hn hc
  have hadmits (x : Issue) : (Condition.ofText (Query.compile i).text).all (·.holds now x) = i.admits now x := by
    rw [← Intent.all_meets h, ofText_compile h, Bool.eq_iff_iff, List.all_eq_true, List.all_eq_true]
    constructor
    · intro hall c hc
      rw [Comparison.meets]
      cases hf : Condition.ofComparison c with
      | none => rfl
      | some condition => exact hall condition (Condition.mem_ofComparisons.mpr ⟨c, hc, hf⟩)
    · intro hall condition hm
      obtain ⟨c, hc, hf⟩ := Condition.mem_ofComparisons.mp hm
      have hmeets := hall c hc
      rwa [Comparison.meets, hf] at hmeets
  rw [search, Condition.keepAll_eq_filter hdecides]
  have hfirst := Query.firstOf_pageSize (q := Query.compile i) h.limit (issues.filter (i.admits now))
  simp only [hadmits]
  show Except.ok (SearchResult.mk (Query.firstOf (Query.compile i).pageSize _) _ _) = _
  rw [hfirst]
  rfl

theorem isAware_of_shift {t u : Timestamp} {micros : Int} (h : ofClock (t.shift micros) = .ok u) :
    u.isAware = t.isAware := by
  rw [Timestamp.shift] at h
  split at h
  · obtain rfl := Except.ok.inj h
    rfl
  · cases h

theorem comparable_sample (hs : Sample.issues made = .ok issues) (hm : made.isAware = now.isAware) :
    Condition.Comparable now issues := by
  obtain ⟨t₁, h₁, hs⟩ := Outcome.of_bind hs
  obtain ⟨t₂, h₂, hs⟩ := Outcome.of_bind hs
  obtain ⟨t₃, h₃, hs⟩ := Outcome.of_bind hs
  obtain ⟨t₄, h₄, hs⟩ := Outcome.of_bind hs
  obtain ⟨t₅, h₅, hs⟩ := Outcome.of_bind hs
  obtain ⟨t₆, h₆, hs⟩ := Outcome.of_bind hs
  obtain ⟨t₇, h₇, hs⟩ := Outcome.of_bind hs
  obtain ⟨t₈, h₈, hs⟩ := Outcome.of_bind hs
  obtain rfl := Except.ok.inj hs
  have haware {t : Timestamp} {micros : Int} (h : ofClock (made.shift micros) = .ok t) :
      t.isAware = now.isAware := (isAware_of_shift h).trans hm
  simp only [Condition.Comparable, List.forall_mem_cons]
  exact ⟨⟨haware h₁, haware h₂⟩, ⟨haware h₃, haware h₄⟩, ⟨haware h₅, haware h₆⟩,
    ⟨haware h₇, haware h₈⟩, by simp⟩

theorem search_compile (hs : Sample.issues made = .ok issues) (hm : made.isAware = now.isAware)
    (h : i.Searchable now) :
    search issues now (Query.compile i) =
      .ok ⟨(issues.filter (i.admits now)).take ((i.limit.getD Query.defaultPageSize).toNat),
        (Query.compile i).text, .count (issues.filter (i.admits now)).length⟩ :=
  search_eq_filter h (comparable_sample hs hm)

def noon (day : Nat) : Timestamp := .ofDate ⟨2024, 10, day⟩ (microsPerDay / 2) (some 0)

def recentWork : Intent where
  filters := some { Filters.none with
    project := some "bank", status := some ["OPEN", "in progress"], updated := some (.last 2) }
  search := some " Out "
  sort := some [⟨"updated", "desc"⟩]
  limit := some 1

theorem recentWork_searchable : recentWork.Searchable (noon 2) := by
  constructor
  case updated =>
    rintro w ⟨⟩ n ⟨⟩
    exact ⟨by decide, _, rfl⟩
  all_goals simp [recentWork, Intent.allFilters, Filters.none] <;> decide

theorem search_compile_recentWork :
    ∃ issues result, Sample.issues (noon 1) = .ok issues ∧
      search issues (noon 2) (Query.compile recentWork) = .ok result ∧
      result.issues.map (·.key) = ["BANK-123"] ∧ result.total = .count 2 :=
  have hs : Sample.issues (noon 1) = .ok _ := rfl
  ⟨_, _, hs, search_compile hs rfl recentWork_searchable, by decide +kernel, by decide +kernel⟩

end Memory

end IssueQuery

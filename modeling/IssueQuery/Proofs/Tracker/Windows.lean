import IssueQuery.Proofs.Intent.QuotedValues
import IssueQuery.Proofs.Tracker.Agreement

namespace IssueQuery

open Text

def Unmarked (s : String) : Prop :=
  ∀ c ∈ s.toList, c ≠ '"' ∧ c ≠ '>' ∧ c ≠ ' '

instance (s : String) : Decidable (Unmarked s) :=
  decidable_of_iff (s.toList.all fun c => c != '"' && c != '>' && c != ' ') (by simp [Unmarked, and_assoc])

def Comparison.Worded (c : Comparison) : Prop :=
  c.Plain ∨ ∃ s, Unmarked s ∧ (c = .assignedTo s ∨ c = .equals .project s)

namespace Condition

section Signs

theorem eq_of_isCaseOf {k c : Char} (hk : k.toNat < 0x41) (h : isCaseOf k c = true) : c = k := by
  -- What stands before the letters in the order of characters has no other case.
  have hother : otherCases.contains (k, c.toNat) = false := by
    have hne (l : Char) (hl : 0x41 ≤ l.toNat) : k ≠ l := by
      rintro rfl
      omega
    simp [otherCases, hne 's' (by decide), hne 'k' (by decide), hne 'i' (by decide)]
  rw [isCaseOf, hother, Bool.or_false, beq_iff_eq, asciiLower] at h
  split at h
  · rename_i hc
    simp only [Bool.and_eq_true, decide_eq_true_eq] at hc
    rw [← h, toNat_ofNat_of_valid (.inl (by omega))] at hk
    omega
  · exact h

theorem dropKeyword?_eq_none_of_not_mem {k : Char} (hk : k.toNat < 0x41) {word : List Char} (hw : k ∈ word)
    {cs : List Char} (h : k ∉ cs) : dropKeyword? word cs = none := by
  induction word generalizing cs with
  | nil => cases hw
  | cons w word ih =>
    cases cs with
    | nil => rfl
    | cons c cs =>
      rw [List.mem_cons, not_or] at h
      rw [dropKeyword?]
      split
      · rename_i hc
        rcases List.mem_cons.mp hw with rfl | hw
        · exact absurd (eq_of_isCaseOf hk hc).symm h.1
        · exact ih hw h.2
      · rfl

theorem dropSign?_eq_none {cs : List Char} (h : '>' ∉ cs) : dropSign? ">=" cs = none :=
  dropKeyword?_eq_none_of_not_mem (k := '>') (by decide) (by decide)
    fun hm => h ((suffix_skipBlanks cs).subset hm)

theorem suffix_of_anyKeyword? {names : List String} {cs rest : List Char} {name : String}
    (h : anyKeyword? names cs = some (name, rest)) : rest <:+ cs := by
  obtain ⟨n, -, hn⟩ := List.exists_of_findSome?_eq_some h
  obtain ⟨r, hr, hpair⟩ := Option.map_eq_some_iff.mp hn
  obtain ⟨-, rfl⟩ := Prod.mk.inj hpair
  exact suffix_of_dropKeyword? hr

theorem period?_eq_none {cs : List Char} (h : '>' ∉ cs) : period? cs = none := by
  cases hk : anyKeyword? ["updated", "created"] cs with
  | none =>
    rw [period?, hk]
    rfl
  | some read =>
    obtain ⟨name, rest⟩ := read
    have hrest : '>' ∉ rest := fun hm => h ((suffix_of_anyKeyword? hk).subset hm)
    simp only [period?, hk, dropSign?_eq_none hrest, Option.bind_eq_bind, Option.bind_some, Option.bind_none]

theorem wordMatches_eq_nil {α : Type} {p : List Char → Option (α × List Char)} {cs : List Char}
    (h : ∀ t, t <:+ cs → p t = none) (inWord : Bool) (used : Nat) : wordMatches p inWord used cs = [] := by
  induction cs generalizing inWord used with
  | nil => cases used <;> rfl
  | cons c cs ih =>
    have ih := ih fun t ht => h t (ht.trans (List.suffix_cons c cs))
    cases used with
    | succ used => exact ih (isWord c) used
    | zero => simp only [wordMatches, h (c :: cs) (List.suffix_refl _), ih, ite_self]

theorem order?_unmarked {s : String} (hs : Unmarked s) {t : List Char} (ht : t <:+ s.toList) (u : List Char) :
    order? (t ++ '"' :: u) = none := by
  have hblank : ' ' ∉ t := fun hm => (hs _ (ht.subset hm)).2.2 rfl
  apply order?_eq_none
  rw [dropKeyword?_before_quote (by decide), dropKeyword?_eq_none_of_not_mem (by decide) (by decide) hblank]
  rfl

theorem period?_unmarked {s : String} (hs : Unmarked s) {t : List Char} (ht : t <:+ s.toList) (u : List Char) :
    period? (t ++ '"' :: u) = none := by
  have hnames : ∀ name ∈ ["updated", "created"], '"' ∉ name.toList := by decide
  rcases anyKeyword?_suffix hnames t u with h | ⟨name, t', ht', h⟩
  · rw [period?, h]
    rfl
  · have hsign : '>' ∉ skipBlanks t' :=
      fun hm => (hs _ (((suffix_skipBlanks t').trans (ht'.trans ht)).subset hm)).2.1 rfl
    have hdrop : dropSign? ">=" (t' ++ '"' :: u) = none := by
      rw [dropSign?, skipBlanks_before_quote, dropKeyword?_before_quote (by decide),
        dropKeyword?_eq_none_of_not_mem (by decide) (by decide) hsign]
      rfl
    simp only [period?, h, hdrop, Option.bind_eq_bind, Option.bind_some, Option.bind_none]

end Signs

section Reading

variable {α : Type} {p : List Char → Option (α × List Char)} {step : Comparison → List α → List α}

theorem reads_worded (hr : Reads (wordMatches p false 0) Comparison.Plain step)
    (hv : ∀ s, Unmarked s → ∀ t, t <:+ s.toList → ∀ u, p (t ++ '"' :: u) = none)
    (ha : ∀ u, wordMatches p false 0 ("assignee = \"".toList ++ u) = wordMatches p false 0 u)
    (hp : ∀ u, wordMatches p false 0 ("project = \"".toList ++ u) = wordMatches p false 0 u)
    (hs : ∀ s found, step (.assignedTo s) found = found ∧ step (.equals .project s) found = found) :
    Reads (wordMatches p false 0) Comparison.Worded step where
  opening := hr.opening
  closing := hr.closing
  conjunction := hr.conjunction
  comparison c hc u hu := by
    rcases hc with hc | ⟨s, hs', rfl | rfl⟩
    · exact hr.comparison c hc u hu
    · have ht : (Comparison.assignedTo s).text.toList ++ u = "assignee = \"".toList ++ (s.toList ++ '"' :: u) := by
        simp [Comparison.text, Clause.quote]
      rw [ht, ha, wordMatches_value false fun t ht => hv s hs' t ht u, (hs s _).1]
    · have ht : (Comparison.equals .project s).text.toList ++ u =
          "project = \"".toList ++ (s.toList ++ '"' :: u) := by
        simp [Comparison.text, Clause.quote, MatchField.name]
      rw [ht, hp, wordMatches_value false fun t ht => hv s hs' t ht u, (hs s _).2]

theorem order?_reads_worded : Reads (wordMatches order? false 0) Comparison.Worded fun _ found => found :=
  reads_worded order?_reads (fun _ hs _ ht u => order?_unmarked hs ht u) (fun _ => rfl) (fun _ => rfl)
    fun _ _ => ⟨rfl, rfl⟩

theorem period?_reads_worded : Reads (wordMatches period? false 0) Comparison.Worded
    fun c found => (periodOf c).toList ++ found :=
  reads_worded period?_reads (fun _ hs _ ht u => period?_unmarked hs ht u) (fun _ => rfl) (fun _ => rfl)
    fun _ _ => ⟨rfl, rfl⟩

theorem beforeOrder_of_passed {v u : List Char}
    (h : wordMatches order? false 0 (v ++ u) = wordMatches order? false 0 u) :
    beforeOrder false (v ++ u) = v ++ beforeOrder false u := by
  have hwhole := beforeOrder_append false (v ++ u)
  have hrest := beforeOrder_append false u
  rw [h] at hwhole
  apply List.append_cancel_right (hwhole.trans _)
  rw [List.append_assoc, hrest]

theorem beforeOrder_begins (inWord : Bool) (cs : List Char) : beforeOrder inWord cs <+: cs :=
  ⟨_, beforeOrder_append inWord cs⟩

theorem stops_beforeOrder {u : List Char} (h : Stops u) : Stops (beforeOrder false u) := by
  cases u with
  | nil => exact h
  | cons c u =>
    rw [beforeOrder]
    split
    · simp [Stops]
    · simpa [Stops] using h

theorem windows_reads : Reads (fun u => wordMatches period? false 0 (beforeOrder false u)) Comparison.Worded
    fun c found => (periodOf c).toList ++ found where
  opening u := by
    have hcut := beforeOrder_of_passed (v := ['(']) (order?_reads_worded.opening u)
    exact (congrArg _ hcut).trans (period?_reads_worded.opening _)
  closing u := by
    have hcut := beforeOrder_of_passed (v := [')']) (order?_reads_worded.closing u)
    exact (congrArg _ hcut).trans (period?_reads_worded.closing _)
  conjunction u := by
    have hcut := beforeOrder_of_passed (order?_reads_worded.conjunction u)
    exact (congrArg _ hcut).trans (period?_reads_worded.conjunction _)
  comparison c hc u hu := by
    have hcut := beforeOrder_of_passed (order?_reads_worded.comparison c hc u hu)
    exact (congrArg _ hcut).trans (period?_reads_worded.comparison c hc _ (stops_beforeOrder hu))

theorem windows_of_layout {cs ds : List Comparison} {stop u : List Char} (h : Layout stop (cs ++ ds) u)
    (hc : ∀ c ∈ cs, c.Worded) (hd : ∀ c ∈ ds, '>' ∉ c.text.toList) (hs : '>' ∉ stop) :
    wordMatches period? false 0 (beforeOrder false u) = cs.filterMap periodOf := by
  -- Where the order begins behind the names is not known, as the words to search for may name it too.
  have hrest (v : List Char) (hv : Layout stop ds v) : wordMatches period? false 0 (beforeOrder false v) = [] := by
    have hnone := hv.not_mem (by decide) hd hs
    apply wordMatches_eq_nil
    intro t ht
    exact period?_eq_none fun hm => hnone ((beforeOrder_begins false v).subset (ht.subset hm))
  have hread := h.read_append windows_reads hc hrest
  rwa [foldr_toList] at hread

end Reading

end Condition

namespace Phrases

/-- The values of a question: names without blanks and signs, the values of keywords, words to search for, and a number
of days that can be read again. -/
structure Spoken (i : Intent) : Prop where
  assignee : ∀ s ∈ i.allFilters.assignee, Unmarked s
  project : ∀ s ∈ i.allFilters.project, Unmarked s
  status : ∀ vs ∈ i.allFilters.status, ∀ v ∈ vs, Harmless v
  issueTypes : ∀ vs ∈ i.allFilters.issueTypes, ∀ v ∈ vs, Harmless v
  priorities : ∀ vs ∈ i.allFilters.priorities, ∀ v ∈ vs, Harmless v
  search : ∀ s ∈ i.search, '>' ∉ s.toList
  updated : ∀ w ∈ i.allFilters.updated, ∃ n : Nat, w = DateWindow.last n ∧
    integerOfDigits (toString n).toList = .ok n

section Spoken

variable {prompt : List Char}

theorem assignee_unmarked : ∀ s ∈ assignee prompt, Unmarked s := by
  intro s hs
  rcases of_assignee hs with rfl | rfl | ⟨word, -, hw, rfl⟩
  · decide
  · decide
  · intro c hc
    rw [String.toList_ofList] at hc
    have hclass := hw c hc
    exact ⟨ne_of_isWord hclass (by decide), ne_of_isWord hclass (by decide), ne_of_isWord hclass (by decide)⟩

theorem project_unmarked : ∀ s ∈ project prompt, Unmarked s := by
  intro s hs c hc
  obtain ⟨word, -, hw, rfl⟩ := of_project hs
  obtain ⟨d, hd, hc⟩ : ∃ d ∈ word, c ∈ upperChar d := by simpa [upper] using hc
  have hclass := hw d hd
  refine ⟨?_, ?_, ?_⟩
  · rintro rfl
    exact upperChar_not_sign (m := 0x22) (by decide) hclass hc
  · rintro rfl
    exact upperChar_not_sign (m := 0x3e) (by decide) hclass hc
  · rintro rfl
    exact absurd (upperChar_not_blank hclass hc) (by decide)

theorem keywords_harmless :
    (∀ row ∈ statusWords, ∀ v ∈ row.2, Harmless v) ∧ (∀ row ∈ issueTypeWords, ∀ v ∈ row.2, Harmless v) ∧
      ∀ row ∈ priorityWords, ∀ v ∈ row.2, Harmless v := by
  decide

theorem valuesOf_harmless {table : Keywords} (ht : ∀ row ∈ table, ∀ v ∈ row.2, Harmless v) :
    ∀ vs ∈ valuesOf table prompt, ∀ v ∈ vs, Harmless v := by
  intro vs hvs v hv
  obtain ⟨row, hrow, hin⟩ := mem_of_valuesOf hvs hv
  exact ht row hrow v hin

theorem ofKeywords_spoken {text : String} {i : Intent} (h : ofKeywords text = .ok i) : Spoken i := by
  obtain ⟨window, hupdated, h⟩ := Outcome.of_bind h
  obtain ⟨n, -, h⟩ := Outcome.of_bind h
  obtain rfl := Except.ok.inj h
  obtain ⟨hstatus, htypes, hpriorities⟩ := keywords_harmless
  exact {
    assignee := assignee_unmarked
    project := project_unmarked
    status := valuesOf_harmless hstatus
    issueTypes := valuesOf_harmless htypes
    priorities := valuesOf_harmless hpriorities
    search := search_not_mem (by decide) (by decide)
    updated := updated_readable hupdated }

theorem presets_spoken : ∀ preset ∈ presets, Spoken preset.2 := by
  have hlast (m : Nat) (hm : m ≤ 999999999) : ∀ w ∈ some (DateWindow.last m), ∃ n : Nat, w = DateWindow.last n ∧
      integerOfDigits (toString n).toList = .ok n := by
    rintro w ⟨⟩
    exact ⟨m, rfl, Condition.integerOfDigits_toString hm⟩
  have hnone : ∀ w ∈ (none : Option DateWindow), ∃ n : Nat, w = DateWindow.last n ∧
      integerOfDigits (toString n).toList = .ok n := by
    simp
  simp only [presets, List.forall_mem_cons]
  refine ⟨?_, ?_, ?_, ?_, ?_, by simp⟩
  all_goals
    constructor
    case updated => first | exact hnone | exact hlast 7 (by decide) | exact hlast 30 (by decide)
    all_goals decide

theorem intent_spoken {text : String} {i : Intent} (h : intent text = .ok i) : Spoken i := by
  rw [intent] at h
  simp only at h
  split at h
  · rename_i found
    obtain rfl := Except.ok.inj h
    exact presets_spoken _ (List.mem_of_find?_eq_some found)
  · exact ofKeywords_spoken h

end Spoken

section Questions

open Comparison (ofValues ofWindow)

variable {i : Intent}

theorem parts_search (i : Intent) : i.canonical.parts.flatten =
    { i with search := none }.canonical.parts.flatten ++ i.canonical.search.toList.map .mentions := by
  simp [CanonicalIntent.parts, Intent.canonical, Intent.allFilters, Clause.present]

theorem worded_parts (hs : Spoken i) (hn : Narrow i) :
    ∀ c ∈ { i with search := none }.canonical.parts.flatten, c.Worded := by
  have hvalues {xs : Option (List String)} (f : MatchField) (hx : ∀ vs ∈ xs, ∀ v ∈ vs, Harmless v) :
      ∀ vs ∈ xs, ∀ c ∈ ofValues f vs, c.Worded := by
    intro vs hvs c hc
    obtain ⟨v, rfl, rfl⟩ | ⟨hne, rfl⟩ := Comparison.mem_ofValues hc
    · exact .inl (hx [v] hvs v (by simp))
    · exact .inl ⟨hne, hx vs hvs⟩
  have hparts : ∀ cs ∈ { i with search := none }.canonical.parts, ∀ c ∈ cs, c.Worded := by
    apply Intent.forall_parts
    case assignee =>
      intro name hname
      rcases Assignee.comparison_ofName name with hc | hc | hc <;> rw [hc]
      · exact .inl trivial
      · exact .inl trivial
      · exact .inr ⟨name, hs.assignee name hname, .inl rfl⟩
    case project => exact fun p hp => .inr ⟨p, hs.project p hp, .inr rfl⟩
    case status => exact hvalues _ hs.status
    case issueTypes => exact hvalues _ hs.issueTypes
    case priorities => exact hvalues _ hs.priorities
    case updated =>
      intro w hw c hc
      obtain ⟨n, rfl⟩ := hn.updated w hw
      obtain rfl : c = .lastDays .updated n := List.mem_singleton.mp hc
      exact .inl (Int.natCast_nonneg n)
    case created =>
      intro w hw
      cases hn.created.symm.trans hw
    case labels =>
      intro vs hvs
      cases hn.labels.symm.trans hvs
    case components =>
      intro vs hvs
      cases hn.components.symm.trans hvs
    case search =>
      intro s hsearch
      cases hsearch
  intro c hc
  obtain ⟨cs, hcs, hc⟩ := List.mem_flatten.mp hc
  exact hparts cs hcs c hc

open Condition in
theorem filterMap_periodOf_parts (hn : Narrow i) : { i with search := none }.canonical.parts.flatten.filterMap periodOf =
    (i.allFilters.updated.bind (·.lastDays)).toList.map fun n => within .updated (toString n).toList := by
  have hassignee (as : List Assignee) : (as.map Assignee.comparison).filterMap periodOf = [] := by
    simp only [List.filterMap_eq_nil_iff, List.forall_mem_map]
    rintro (_ | _ | _) _ <;> rfl
  have hvalues (f : MatchField) (vs : List String) : (ofValues f vs).filterMap periodOf = [] := by
    rw [List.filterMap_eq_nil_iff]
    intro c hc
    obtain ⟨v, -, rfl⟩ | ⟨-, rfl⟩ := Comparison.mem_ofValues hc <;> rfl
  have hdays (ns : List Int) : (ns.map (Comparison.lastDays .updated)).filterMap periodOf =
      ns.map fun n => within .updated (toString n).toList := by
    rw [List.filterMap_map, ← List.filterMap_eq_map]
    rfl
  have hupdated : ofWindow .updated (i.allFilters.updated.bind DateWindow.canonical) =
      (i.allFilters.updated.bind (·.lastDays)).toList.map (.lastDays .updated) := ofWindow_last hn.updated .updated
  have hcreated : ofWindow .created (i.allFilters.created.bind DateWindow.canonical) = [] := by
    rw [hn.created]
    rfl
  have hfilters : ({ i with search := none } : Intent).allFilters = i.allFilters := rfl
  simp only [CanonicalIntent.parts, Intent.canonical, hfilters, hupdated, hcreated, List.flatten_cons,
    List.flatten_nil, List.filterMap_append, hassignee, hvalues, hdays]
  simp [Clause.present]

theorem ending_not_sign (hn : Narrow i) : '>' ∉ i.canonical.ending := by
  unfold CanonicalIntent.ending
  split
  · simp
  · rename_i order ho
    obtain ⟨fields, hs, rfl⟩ := Option.map_eq_some_iff.mp (mem_of_present ho)
    obtain ⟨stated, hp, rfl⟩ := Option.map_eq_some_iff.mp hs
    rw [presentList, Option.filter_eq_some_iff] at hp
    obtain rfl := hn.sort stated hp.1
    decide

theorem mentions_not_sign (hs : Spoken i) :
    ∀ c ∈ i.canonical.search.toList.map Comparison.mentions, '>' ∉ c.text.toList := by
  intro c hc
  obtain ⟨s, hsearch, rfl⟩ := List.mem_map.mp hc
  obtain ⟨t, ht, rfl⟩ := Option.map_eq_some_iff.mp (mem_of_present (Option.mem_toList.mp hsearch))
  have hstrip : '>' ∉ (strip t).toList := fun hm => hs.search t ht (mem_of_mem_strip hm)
  simpa [Comparison.text, Clause.quote] using hstrip

end Questions

open Condition in
theorem windows_question {text : String} {i : Intent} (h : intent text = .ok i) :
    wordMatches period? false 0 (beforeOrder false (Query.compile i).text.toList) =
      (i.allFilters.updated.bind (·.lastDays)).toList.map fun n => within .updated (toString n).toList := by
  have hs := intent_spoken h
  have hn := (intent_narrow h).2
  rw [← filterMap_periodOf_parts hn, Query.compile_eq_query]
  rcases i.canonical.text_cases with ⟨hnil, ht⟩ | ⟨w, hw, ht⟩
  · rw [parts_search, List.append_eq_nil_iff] at hnil
    rw [hnil.1]
    rcases ht with ht | ⟨order, ht⟩ <;> rw [ht]
    · rfl
    · rw [String.toList_append]
      rfl
  · have hlayout := Layout.of_conjunction hw i.canonical.ends_ending.stops
    rw [parts_search, ← ht] at hlayout
    exact windows_of_layout hlayout (worded_parts hs hn) (mentions_not_sign hs) (ending_not_sign hn)

end Phrases

end IssueQuery

import IssueQuery.Proofs.Tracker.Patterns
import IssueQuery.Proofs.Tracker.Phrases

namespace IssueQuery.Condition

open Text

def ofComparison : Comparison → Option Condition
  | .mine => some mine
  | .unassigned => some unassigned
  | .assignedTo name => some (assignedTo name)
  | .equals f v => some (equals f v)
  | .oneOf f vs => some (oneOf f vs)
  | .lastDays f n => some (within f (toString n).toList)
  | .notBefore .. | .notAfter .. => none
  | .mentions s => some (mentions s)

def ofComparisons (cs : List Comparison) : List Condition :=
  (if cs.contains .mine then [mine] else []) ++ (if cs.contains .unassigned then [unassigned] else []) ++
    cs.filterMap assignmentOf ++ cs.filterMap equationOf ++ cs.filterMap membershipOf ++
    cs.filterMap periodOf ++ cs.filterMap mentionOf

theorem mem_ofComparisons {cs : List Comparison} {condition : Condition} :
    condition ∈ ofComparisons cs ↔ ∃ c ∈ cs, ofComparison c = some condition := by
  have hif {p : Prop} [Decidable p] {a b : Condition} : a ∈ (if p then [b] else []) ↔ p ∧ a = b := by
    split <;> simp [*]
  simp only [ofComparisons, List.mem_append, List.mem_filterMap, hif, List.contains_iff_mem]
  constructor
  · rintro ((((((⟨h, rfl⟩ | ⟨h, rfl⟩) | ⟨c, h, hc⟩) | ⟨c, h, hc⟩) | ⟨c, h, hc⟩) | ⟨c, h, hc⟩) | ⟨c, h, hc⟩)
    · exact ⟨_, h, rfl⟩
    · exact ⟨_, h, rfl⟩
    all_goals
      refine ⟨c, h, ?_⟩
      cases c <;>
        simp_all [assignmentOf, equationOf, membershipOf, periodOf, mentionOf, ofComparison]
  · rintro ⟨c, h, hc⟩
    cases c <;> simp only [ofComparison, Option.some.injEq, reduceCtorEq] at hc <;> subst hc
    · exact .inl (.inl (.inl (.inl (.inl (.inl ⟨h, rfl⟩)))))
    · exact .inl (.inl (.inl (.inl (.inl (.inr ⟨h, rfl⟩)))))
    · exact .inl (.inl (.inl (.inl (.inr ⟨_, h, rfl⟩))))
    · exact .inl (.inl (.inl (.inr ⟨_, h, rfl⟩)))
    · exact .inl (.inl (.inr ⟨_, h, rfl⟩))
    · exact .inl (.inr ⟨_, h, rfl⟩)
    · exact .inr ⟨_, h, rfl⟩

theorem foldr_toList {α β : Type} (f : α → Option β) (xs : List α) :
    xs.foldr (fun a found => (f a).toList ++ found) [] = xs.filterMap f := by
  induction xs with
  | nil => rfl
  | cons a xs ih => cases h : f a <;> simp [h, ih]

theorem foldr_or (own : Comparison) (cs : List Comparison) :
    cs.foldr (fun c found => c == own || found) false = cs.contains own := by
  induction cs with
  | nil => rfl
  | cons c cs ih => rw [List.foldr_cons, ih, List.contains_cons, Bool.beq_comm]

theorem ascii_passes : PassesValues fun u : List Char => u.all fun c => c.toNat < 0x80 where
  value v hv u := by
    have ha : (v.toList.all fun c => decide (c.toNat < 0x80)) = true := by
      simpa using fun c hc => lt_of_isPlain (hv.plain c hc)
    simp [ha]
  separator _ := rfl
  days n u _ := by
    have ha : ((toString n).toList.all fun c => decide (c.toNat < 0x80)) = true := by
      rw [List.all_eq_true]
      intro c hc
      simpa using lt_of_isPlain (isPlain_of_mem_toString hc)
    rw [List.all_append, ha]
    simp
  opening _ := rfl
  closing _ := rfl
  conjunction _ := rfl

theorem ascii_reads : Reads (fun u : List Char => u.all fun c => c.toNat < 0x80) Comparison.Plain
    fun _ found => found where
  opening := ascii_passes.opening
  closing := ascii_passes.closing
  conjunction := ascii_passes.conjunction
  comparison c hc u hu := by
    refine ascii_passes.text hc (fun u _ => ?_) hu
    have ha : (c.start.toList.all fun c => decide (c.toNat < 0x80)) = true := by
      cases c with
      | mine | unassigned | assignedTo | mentions => simp only [Comparison.start]; decide
      | equals f | oneOf f => cases f <;> simp only [Comparison.start, MatchField.name] <;> decide
      | lastDays f | notBefore f | notAfter f =>
        cases f <;> simp only [Comparison.start, TimeField.name] <;> decide
    rw [List.all_append, ha, Bool.true_and]

theorem foldr_self {α β : Type} (xs : List α) (b : β) : xs.foldr (fun _ found => found) b = b := by
  induction xs with
  | nil => rfl
  | cons a xs ih => exact ih

def IsGap (gap : List Char) : Prop :=
  gap = [] ∨ gap = [' ']

theorem IsGap.stops {gap : List Char} (h : IsGap gap) : Stops gap := by
  rcases h with rfl | rfl
  · simp [Stops]
  · intro c hc
    obtain rfl : c = ' ' := by simpa using hc.symm
    decide

theorem IsGap.wordMatches {gap : List Char} (h : IsGap gap) {α : Type}
    (p : List Char → Option (α × List Char)) : wordMatches p false 0 gap = [] := by
  rcases h with rfl | rfl <;> rfl

theorem ofText_eq (text : String) :
    let cs := beforeOrder false text.toList
    ofText text = (if occursIn askingPhrase (lowerChars cs) then [mine] else []) ++
      (if occursIn nobodyPhrase (lowerChars cs) then [unassigned] else []) ++
      wordMatches assignment? false 0 cs ++ wordMatches equation? false 0 cs ++
      wordMatches membership? false 0 cs ++ wordMatches period? false 0 cs ++
      wordMatches mention? false 0 cs := rfl

theorem ofText_of_layout {text : String} {gap : List Char} (hg : IsGap gap) {cs : List Comparison}
    (hl : Layout gap cs (beforeOrder false text.toList)) (hc : ∀ c ∈ cs, c.Plain) :
    ofText text = ofComparisons cs := by
  have hwords {p : List Char → Option (Condition × List Char)} {find : Comparison → Option Condition}
      (hr : Reads (wordMatches p false 0) Comparison.Plain fun c found => (find c).toList ++ found) :
      wordMatches p false 0 (beforeOrder false text.toList) = cs.filterMap find := by
    rw [hl.read hr hc, hg.wordMatches, foldr_toList]
  have hphrase {phrase : List Char} {own : Comparison} (hgap : hasPhrase phrase gap = false)
      (hr : Reads (hasPhrase phrase) Comparison.Plain fun c found => c == own || found) :
      hasPhrase phrase (beforeOrder false text.toList) = cs.contains own := by
    rw [hl.read hr hc, hgap, foldr_or]
  have hlower : lowerChars (beforeOrder false text.toList) = (beforeOrder false text.toList).map asciiLower := by
    have hall := hl.read ascii_reads hc
    have hgap : (gap.all fun c => decide (c.toNat < 0x80)) = true := by rcases hg with rfl | rfl <;> decide
    rw [foldr_self, hgap] at hall
    exact lowerChars_ascii (by simpa using hall)
  have hasking := hphrase (by rcases hg with rfl | rfl <;> rfl) askingPhrase_reads
  have hnobody := hphrase (by rcases hg with rfl | rfl <;> rfl) nobodyPhrase_reads
  rw [hasPhrase, ← hlower] at hasking hnobody
  rw [ofText_eq, hasking, hnobody, hwords assignment?_reads, hwords equation?_reads, hwords membership?_reads,
    hwords period?_reads, hwords mention?_reads]
  rfl

theorem beforeOrder_condition {stop condition : List Char} (hs : Query.Ends stop) {cs : List Comparison}
    (hl : Layout stop cs (condition ++ stop)) (hc : ∀ c ∈ cs, c.Plain) :
    ∃ gap, IsGap gap ∧ beforeOrder false (condition ++ stop) = condition ++ gap := by
  have hread := hl.read order?_reads hc
  rw [foldr_self] at hread
  -- No order begins within the condition, so that the one found is what stands behind it.
  have hwhole := beforeOrder_append false (condition ++ stop)
  rw [hread] at hwhole
  rcases hs with rfl | ⟨order, rfl⟩
  · exact ⟨[], .inl rfl, by simpa [wordMatches] using hwhole⟩
  · have ho : (wordMatches order? false 0 (" ORDER BY ".toList ++ order)).head?.getD [] =
        "ORDER BY ".toList ++ order := rfl
    have hb : condition ++ (" ORDER BY ".toList ++ order) =
        (condition ++ [' ']) ++ ("ORDER BY ".toList ++ order) := by simp
    rw [ho] at hwhole
    refine ⟨[' '], .inr rfl, List.append_cancel_right (hwhole.trans hb)⟩

end IssueQuery.Condition

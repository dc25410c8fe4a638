import IssueQuery.Proofs.Tracker.Windows

namespace IssueQuery

open Text
open Calendar (Timestamp Date daysBefore microsPerDay maxMicros)

section Clocks

def Calendar.Timestamp.InUsualYears (t : Timestamp) : Prop :=
  2000 ≤ t.date.year ∧ t.date.year ≤ 9000

instance (t : Timestamp) : Decidable t.InUsualYears :=
  inferInstanceAs (Decidable (_ ∧ _))

theorem number_of_usual_year {n : Nat} (h : 2000 ≤ (Date.ofNumber n).year ∧ (Date.ofNumber n).year ≤ 9000) :
    30 ≤ n ∧ n < 3652059 := by
  have hyear : (Date.ofNumber n).year = (Calendar.splitYear n).1 := rfl
  rw [hyear] at h
  simp only [Calendar.splitYear] at h
  omega

theorem Calendar.Timestamp.InUsualYears.wall {t : Timestamp} (h : t.InUsualYears) :
    30 * (microsPerDay : Int) ≤ t.wall ∧ t.wall < maxMicros := by
  have hday := number_of_usual_year h
  simp only [maxMicros, microsPerDay] at hday ⊢
  omega

variable {t : Timestamp}

theorem shift_back (hwall : t.wall < maxMicros) (micros : Nat) :
    t.shift (-micros) = if micros ≤ t.wall then .ok { t with wall := t.wall + -micros } else .error .outOfRange := by
  have hlow : 0 ≤ t.wall + -micros ↔ micros ≤ t.wall := by omega
  have hhigh : t.wall + -micros < maxMicros := by omega
  simp only [Timestamp.shift, Timestamp.inRange, hlow, hhigh, Bool.and_eq_true, decide_eq_true_eq, and_true]

theorem daysBefore_eq_ok (hwall : t.wall < maxMicros) {n : Nat} (h : (n * microsPerDay : Nat) ≤ t.wall) :
    ∃ cutoff, daysBefore n t = .ok cutoff := by
  have hn : ¬n > 999999999 := by
    simp only [maxMicros, microsPerDay] at hwall h
    omega
  rw [daysBefore, if_neg hn, shift_back hwall, if_pos h]
  exact ⟨_, rfl⟩

def tooEarly (n : Nat) : Calendar.ClockFault :=
  if n > 999999999 then .spanTooLong n else .outOfRange

theorem daysBefore_eq_error (hwall : t.wall < maxMicros) {n : Nat} (h : t.wall < (n * microsPerDay : Nat)) :
    daysBefore n t = .error (tooEarly n) := by
  rw [daysBefore, tooEarly]
  split
  · rfl
  · rw [shift_back hwall, if_neg (Int.not_le.mpr h)]

end Clocks

theorem Sample.issues_ok {made : Timestamp} (h : made.InUsualYears) :
    ∃ issues, Sample.issues made = .ok issues ∧
      issues.map (·.key) = ["BANK-123", "BANK-124", "PROJ-456", "BANK-125"] := by
  obtain ⟨hlow, hhigh⟩ := h.wall
  have hback (micros : Nat) (hm : micros ≤ 30 * microsPerDay) : ∃ t, ofClock (made.shift (-micros)) = .ok t := by
    rw [shift_back hhigh, if_pos (by omega)]
    exact ⟨_, rfl⟩
  have hdays (days : Nat) (hd : days ≤ 30) : ∃ t, daysAgo made days = .ok t :=
    hback _ (Nat.mul_le_mul_right _ hd)
  obtain ⟨t₁, h₁⟩ := hdays 5 (by decide)
  obtain ⟨t₂, h₂⟩ := hdays 1 (by decide)
  obtain ⟨t₃, h₃⟩ := hdays 10 (by decide)
  obtain ⟨t₄, h₄⟩ := hdays 2 (by decide)
  obtain ⟨t₅, h₅⟩ := hdays 30 (by decide)
  obtain ⟨t₆, h₆⟩ := hdays 7 (by decide)
  obtain ⟨t₇, h₇⟩ := hdays 3 (by decide)
  obtain ⟨t₈, h₈⟩ : ∃ t, hoursAgo made 6 = .ok t := hback _ (by decide)
  refine ⟨[paymentBug t₁ t₂, dashboardStory t₃ t₄, migrationTask t₅ t₆, loginBug t₇ t₈], ?_, rfl⟩
  rw [issues, h₁, h₂, h₃, h₄, h₅, h₆, h₇, h₈]
  rfl

namespace Condition

theorem of_wordMatches {α : Type} {p : List Char → Option (α × List Char)} {a : α} {cs : List Char} {inWord : Bool}
    {used : Nat} (h : a ∈ wordMatches p inWord used cs) : ∃ t rest, p t = some (a, rest) := by
  induction cs generalizing inWord used with
  | nil => cases used <;> cases h
  | cons c cs ih =>
    cases used with
    | succ used => exact ih h
    | zero =>
      rw [wordMatches] at h
      split at h
      · exact ih h
      · split at h
        · rename_i hp
          rcases List.mem_cons.mp h with rfl | h
          · exact ⟨_, _, hp⟩
          · exact ih h
        · exact ih h

def IsTimeless : Condition → Prop
  | .within .. => False
  | _ => True

variable {now : Timestamp} {issues : List Issue} {c : Condition}

theorem IsTimeless.decides (h : c.IsTimeless) : c.Decides now issues := by
  cases c with
  | within => exact h.elim
  | _ => exact ⟨_, rfl, fun _ _ => rfl⟩

theorem of_signed? {names : List String} {sign : String} {make : String → String → Condition} {cs rest : List Char}
    (h : signed? names sign make cs = some (c, rest)) : ∃ name value, c = make name value := by
  simp only [signed?, Option.bind_eq_bind, Option.bind_eq_some_iff] at h
  obtain ⟨⟨name, _⟩, -, ⟨value, _⟩, -, h⟩ := h
  exact ⟨name, value, (Prod.mk.inj (Option.some.inj h)).1.symm⟩

theorem of_membership? {cs rest : List Char} (h : membership? cs = some (c, rest)) :
    ∃ f values, c = oneOf f values := by
  simp only [membership?, Option.bind_eq_bind, Option.bind_eq_some_iff] at h
  obtain ⟨_, -, _, -, _, -, _, -, _, -, h⟩ := h
  exact ⟨_, _, (Prod.mk.inj (Option.some.inj h)).1.symm⟩

theorem timeless_of_signed {names : List String} {sign : String} {make : String → String → Condition}
    {cs : List Char} (h : c ∈ wordMatches (signed? names sign make) false 0 cs)
    (hm : ∀ name value, (make name value).IsTimeless) : c.IsTimeless := by
  obtain ⟨t, rest, ht⟩ := of_wordMatches h
  obtain ⟨name, value, rfl⟩ := of_signed? ht
  exact hm name value

theorem mem_ofText {text : String} (h : c ∈ ofText text) :
    c ∈ wordMatches period? false 0 (beforeOrder false text.toList) ∨ c.IsTimeless := by
  simp only [ofText_eq, assignment?_eq, equation?_eq, mention?_eq, List.mem_append] at h
  rcases h with ((((((h | h) | h) | h) | h) | h) | h)
  · split at h
    · obtain rfl := List.mem_singleton.mp h
      exact .inr trivial
    · cases h
  · split at h
    · obtain rfl := List.mem_singleton.mp h
      exact .inr trivial
    · cases h
  · exact .inr (timeless_of_signed h fun _ _ => trivial)
  · exact .inr (timeless_of_signed h fun _ _ => trivial)
  · obtain ⟨t, rest, ht⟩ := of_wordMatches h
    obtain ⟨f, values, rfl⟩ := of_membership? ht
    exact .inr trivial
  · exact .inl h
  · exact .inr (timeless_of_signed h fun _ _ => trivial)

theorem mem_ofText_of_window {text : String}
    (h : c ∈ wordMatches period? false 0 (beforeOrder false text.toList)) : c ∈ ofText text := by
  simp only [ofText_eq, List.mem_append]
  exact .inl (.inr h)

theorem keepAll_eq_error {fault : Fault} {cs : List Condition}
    (hall : ∀ c ∈ cs, c.Decides now issues ∨ c.test now = .error fault) (hone : ∃ c ∈ cs, c.test now = .error fault) :
    keepAll now cs issues = .error fault := by
  induction cs generalizing issues with
  | nil =>
    obtain ⟨c, hc, -⟩ := hone
    cases hc
  | cons c cs ih =>
    obtain ⟨hc, hcs⟩ := List.forall_mem_cons.mp hall
    rw [keepAll, List.foldlM_cons]
    -- What is left of the issues by a condition that can be tested is decided by the others as before.
    by_cases hfails : c.test now = .error fault
    · have hkeep : keep now issues c = .error fault := by
        rw [keep, hfails]
        rfl
      rw [hkeep]
      rfl
    · rw [(hc.resolve_right hfails).keep]
      apply ih
      · exact fun d hd => (hcs d hd).imp_left fun hdecides => hdecides.filter _
      · obtain ⟨d, hd, hfault⟩ := hone
        rcases List.mem_cons.mp hd with rfl | hd
        · exact absurd hfault hfails
        · exact ⟨d, hd, hfault⟩

theorem select_sublist {α : Type} {test : α → Outcome Bool} {xs ys : List α} (h : select test xs = .ok ys) :
    ys.Sublist xs := by
  induction xs generalizing ys with
  | nil =>
    obtain rfl := Except.ok.inj h
    exact .slnil
  | cons x xs ih =>
    obtain ⟨passes, -, h⟩ := Outcome.of_bind h
    obtain ⟨rest, hrest, h⟩ := Outcome.of_bind h
    obtain rfl := Except.ok.inj h
    split
    · exact (ih hrest).cons_cons x
    · exact (ih hrest).cons x

theorem keepAll_sublist {cs : List Condition} {found : List Issue} (h : keepAll now cs issues = .ok found) :
    found.Sublist issues := by
  induction cs generalizing issues with
  | nil =>
    obtain rfl := Except.ok.inj h
    exact List.Sublist.refl _
  | cons c cs ih =>
    rw [keepAll, List.foldlM_cons] at h
    obtain ⟨kept, hkept, h⟩ := Outcome.of_bind h
    obtain ⟨test, -, hkept⟩ := Outcome.of_bind hkept
    exact (ih h).trans (select_sublist hkept)

end Condition

theorem Query.firstOf_sublist {α : Type} (n : Int) (xs : List α) : (firstOf n xs).Sublist xs := by
  rw [firstOf]
  split <;> exact List.take_sublist _ xs

namespace Memory

/-- Some of the issues in their order, each of them once, of at least as many that are found. -/
structure IsPage (issues : List Issue) (r : SearchResult String) : Prop where
  sublist : r.issues.Sublist issues
  distinct : (r.issues.map (·.key)).Nodup
  total : r.issues.length ≤ r.total.toInt

variable {issues : List Issue} {now made : Timestamp} {q : Query}

theorem search_isPage (hkeys : (issues.map (·.key)).Nodup) {r : SearchResult String}
    (h : search issues now q = .ok r) : IsPage issues r := by
  obtain ⟨found, hfound, h⟩ := Outcome.of_bind h
  obtain rfl := Except.ok.inj h
  have hfirst := Query.firstOf_sublist q.pageSize found
  have hsub := hfirst.trans (Condition.keepAll_sublist hfound)
  exact {
    sublist := hsub
    distinct := (hsub.map _).nodup hkeys
    total := Int.ofNat_le.mpr hfirst.length_le }

theorem search_eq_ok {found : List Issue} (h : Condition.keepAll now (Condition.ofText q.text) issues = .ok found) :
    search issues now q = .ok ⟨Query.firstOf q.pageSize found, q.text, .count found.length⟩ := by
  rw [search, h]
  rfl

theorem search_eq_error {fault : Fault} (h : Condition.keepAll now (Condition.ofText q.text) issues = .error fault) :
    search issues now q = .error fault := by
  rw [search, h]
  rfl

section Questions

open Phrases Condition

variable {text : String} {i : Intent}

theorem last_inj {m n : Nat} : DateWindow.last m = DateWindow.last n ↔ m = n := by
  constructor
  · intro h
    exact Int.ofNat.inj (Option.some.inj (congrArg DateWindow.lastDays h))
  · rintro rfl
    rfl

theorem window_question (h : intent text = .ok i) {c : Condition}
    (hc : c ∈ wordMatches period? false 0 (beforeOrder false (Query.compile i).text.toList)) :
    ∃ n : Nat, i.allFilters.updated = some (DateWindow.last n) ∧ c = within .updated (toString n).toList := by
  rw [windows_question h] at hc
  obtain ⟨days, hdays, rfl⟩ := List.mem_map.mp hc
  obtain ⟨w, hw, hdays⟩ := Option.bind_eq_some_iff.mp (Option.mem_toList.mp hdays)
  obtain ⟨n, rfl, -⟩ := (intent_spoken h).updated w hw
  obtain rfl : (n : Int) = days := Option.some.inj hdays
  exact ⟨n, hw, rfl⟩

theorem keepAll_question (h : intent text = .ok i) (hnow : now.InUsualYears) (hi : Comparable now issues)
    (hearly : ∀ n : Nat, i.allFilters.updated = some (DateWindow.last n) → (n * microsPerDay : Nat) ≤ now.wall) :
    ∃ found, keepAll now (ofText (Query.compile i).text) issues = .ok found := by
  refine ⟨_, keepAll_eq_filter fun c hc => ?_⟩
  rcases mem_ofText hc with hc | hc
  · obtain ⟨n, hn, rfl⟩ := window_question h hc
    obtain ⟨cutoff, hcutoff⟩ := daysBefore_eq_ok hnow.wall.2 (hearly n hn)
    exact decides_within hi .updated hcutoff
  · exact hc.decides

theorem keepAll_question_tooEarly (h : intent text = .ok i) (hnow : now.InUsualYears) {n : Nat}
    (hn : i.allFilters.updated = some (DateWindow.last n)) (hearly : now.wall < (n * microsPerDay : Nat)) :
    keepAll now (ofText (Query.compile i).text) issues = .error (.clock (tooEarly n)) := by
  obtain ⟨m, hm, hread⟩ := (intent_spoken h).updated _ hn
  obtain rfl := last_inj.mp hm
  have htest : (within .updated (toString n).toList).test now = .error (.clock (tooEarly n)) := by
    rw [test, hread]
    show ofClock (daysBefore n now) >>= _ = _
    rw [daysBefore_eq_error hnow.wall.2 hearly]
    rfl
  apply keepAll_eq_error
  · intro c hc
    rcases mem_ofText hc with hc | hc
    · obtain ⟨m, hm, rfl⟩ := window_question h hc
      obtain rfl := last_inj.mp (Option.some.inj (hn.symm.trans hm))
      exact .inr htest
    · exact .inl hc.decides
  · refine ⟨_, mem_ofText_of_window ?_, htest⟩
    rw [windows_question h, hn]
    exact List.mem_singleton.mpr rfl

/-- The tracker of the sample issues, whenever they were made, shows a page of them where it answers a question, and
it fails exactly where the question looks for updates before the calendar begins. -/
theorem search_question (h : intent text = .ok i) (hmade : made.InUsualYears) (hnow : now.InUsualYears)
    (haware : made.isAware = now.isAware) :
    ∃ issues, Sample.issues made = .ok issues ∧
      (∀ r, search issues now (Query.compile i) = .ok r → IsPage issues r) ∧
      ((∃ r, search issues now (Query.compile i) = .ok r) ↔
        ∀ n : Nat, i.allFilters.updated = some (DateWindow.last n) → (n * microsPerDay : Nat) ≤ now.wall) ∧
      ∀ n : Nat, i.allFilters.updated = some (DateWindow.last n) → now.wall < (n * microsPerDay : Nat) →
        search issues now (Query.compile i) = .error (.clock (tooEarly n)) := by
  obtain ⟨issues, hs, hkeys⟩ := Sample.issues_ok hmade
  have hfails (n : Nat) (hn : i.allFilters.updated = some (DateWindow.last n))
      (hearly : now.wall < (n * microsPerDay : Nat)) :
      search issues now (Query.compile i) = .error (.clock (tooEarly n)) :=
    search_eq_error (keepAll_question_tooEarly h hnow hn hearly)
  have hnodup : (issues.map (·.key)).Nodup := by
    rw [hkeys]
    decide
  refine ⟨issues, hs, fun r hr => search_isPage hnodup hr, ⟨?_, ?_⟩, hfails⟩
  · rintro ⟨r, hr⟩ n hn
    by_contra hearly
    rw [hfails n hn (Int.not_le.mp hearly)] at hr
    cases hr
  · intro hearly
    obtain ⟨found, hfound⟩ := keepAll_question h hnow (comparable_sample hs haware) hearly
    exact ⟨_, search_eq_ok hfound⟩

def updatedLast (n : Nat) : Intent :=
  { Intent.empty with filters := some { Filters.none with updated := some (DateWindow.last n) } }

theorem search_question_nineDays :
    ∃ issues r, Sample.issues (noon 1) = .ok issues ∧
      search issues (noon 2) (Query.compile (updatedLast 9)) = .ok r ∧ IsPage issues r := by
  have h : intent "What was updated in the last 9 days?" = .ok (updatedLast 9) := rfl
  have hmade : (noon 1).InUsualYears := by decide
  have hnow : (noon 2).InUsualYears := by decide
  obtain ⟨issues, hs, hpage, hiff, -⟩ := search_question h hmade hnow rfl
  obtain ⟨r, hr⟩ := hiff.mpr fun n hn => by
    obtain rfl : 9 = n := last_inj.mp (Option.some.inj hn)
    decide
  exact ⟨issues, r, hs, hr, hpage r hr⟩

theorem search_question_outOfRange :
    intent "issues updated last 9999999 days" = .ok (updatedLast 9999999) ∧
      (∃ issues, Sample.issues (noon 2) = .ok issues ∧
        search issues (noon 2) (Query.compile (updatedLast 9999999)) = .error (.clock .outOfRange)) ∧
      ¬∀ text i now issues, intent text = .ok i → now.InUsualYears → Sample.issues now = .ok issues →
        (∃ r, search issues now (Query.compile i) = .ok r) ∨
          ∃ cause, search issues now (Query.compile i) = .error (.transport cause) := by
  have h : intent "issues updated last 9999999 days" = .ok (updatedLast 9999999) := rfl
  have hnow : (noon 2).InUsualYears := by decide
  obtain ⟨issues, hs, -⟩ := Sample.issues_ok hnow
  have hfails : search issues (noon 2) (Query.compile (updatedLast 9999999)) = .error (.clock .outOfRange) :=
    search_eq_error (keepAll_question_tooEarly h hnow rfl (by decide))
  refine ⟨h, ⟨issues, hs, hfails⟩, fun hall => ?_⟩
  rcases hall _ _ _ _ h hnow hs with ⟨r, hr⟩ | ⟨cause, hr⟩
  · rw [hfails] at hr
    cases hr
  · rw [hfails] at hr
    cases hr

end Questions

end Memory

end IssueQuery

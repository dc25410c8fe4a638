import IssueQuery.Proofs.Text.Pieces
import IssueQuery.Proofs.Text.Words
import IssueQuery.Text.Quoted
import Mathlib.Tactic.SplitIfs

namespace IssueQuery.Text

def OneLine (s : String) : Prop :=
  ∀ c ∈ s.toList, isLineEnd c = false

instance (s : String) : Decidable (OneLine s) :=
  List.decidableBAll (isLineEnd · = false) s.toList

theorem isLineEnd_eq_false_of_not_blank {c : Char} (h : isBlank c = false) : isLineEnd c = false := by
  rw [← Bool.not_eq_true] at h ⊢
  intro hc
  apply h
  simp only [isLineEnd, isBlank, Bool.or_eq_true, Bool.and_eq_true, beq_iff_eq, decide_eq_true_eq] at *
  omega

theorem isLineEnd_eq_false_of_isPrintable {c : Char} (h : isPrintable c = true) : isLineEnd c = false := by
  by_cases hs : c = ' '
  · rw [hs]
    rfl
  · apply isLineEnd_eq_false_of_not_blank
    apply isBlank_eq_false_of_class (p := fun c => isPrintable c && c != ' ') (by decide +kernel)
    simp [h, hs]

section Lines

theorem linesAfter_of_oneLine {cs : List Char} (h : ∀ c ∈ cs, isLineEnd c = false) (line : List Char) :
    linesAfter (cs ++ ['\n']) line = [line.reverse ++ cs] := by
  induction cs generalizing line with
  | nil => simp [linesAfter, isLineEnd]
  | cons c cs ih =>
    rw [List.forall_mem_cons] at h
    have hstep : linesAfter (c :: cs ++ ['\n']) line = linesAfter (cs ++ ['\n']) (c :: line) := by
      rw [List.cons_append, linesAfter, if_neg (by rw [h.1]; exact Bool.false_ne_true)]
      rintro rest rfl
      exact absurd h.1 (by decide)
    rw [hstep, ih h.2]
    simp

theorem linesAfter_oneLine {cs line : List Char} (hline : ∀ c ∈ line, isLineEnd c = false) :
    ∀ l ∈ linesAfter cs line, ∀ c ∈ l, isLineEnd c = false := by
  fun_induction linesAfter cs line with
  | case1 => simp
  | case2 line => simpa using hline
  | case3 cs line ih =>
    rw [List.forall_mem_cons]
    exact ⟨by simpa using hline, ih (by simp)⟩
  | case4 c cs line _ hc ih =>
    rw [List.forall_mem_cons]
    exact ⟨by simpa using hline, ih (by simp)⟩
  | case5 c cs line _ hc ih => exact ih (List.forall_mem_cons.mpr ⟨by simpa using hc, hline⟩)

theorem oneLine_of_mem_lines {s l : String} (h : l ∈ lines s) : OneLine l := by
  obtain ⟨cs, hcs, rfl⟩ := List.mem_map.mp h
  have hl := linesAfter_oneLine (fun _ hc => absurd hc List.not_mem_nil) cs hcs
  simpa [OneLine] using hl

theorem lines_append_newline_iff {s : String} : lines (s ++ "\n") = [s] ↔ OneLine s := by
  constructor
  · intro h
    exact oneLine_of_mem_lines (h ▸ List.mem_singleton_self s)
  · intro h
    have hs := linesAfter_of_oneLine h []
    simp [lines, hs]

end Lines

section Parts

variable {s t : String}

@[simp] theorem oneLine_append : OneLine (s ++ t) ↔ OneLine s ∧ OneLine t := by
  simp [OneLine, or_imp, forall_and]

theorem oneLine_join {sep : String} (hsep : OneLine sep) {parts : List String} :
    OneLine (join sep parts) ↔ ∀ part ∈ parts, OneLine part := by
  cases parts with
  | nil => simp [join, OneLine]
  | cons part parts =>
    unfold OneLine
    rw [toList_join_cons, List.forall_mem_append, List.forall_mem_cons]
    refine and_congr_right fun _ => ?_
    simp only [List.mem_flatMap, List.mem_append]
    constructor
    · exact fun h p hp c hc => h c ⟨p, hp, .inr hc⟩
    · rintro h c ⟨p, hp, hc | hc⟩
      · exact hsep c hc
      · exact h p hp c hc

theorem splitRuns_not {p : Char → Bool} {cs word : List Char} (hword : ∀ c ∈ word, p c = false) :
    ∀ w ∈ splitRuns p cs word, ∀ c ∈ w, p c = false := by
  fun_induction splitRuns p cs word with
  | case1 => simp
  | case2 => simpa using hword
  | case3 c cs word hc hempty ih => exact ih (by simp)
  | case4 c cs word hc hempty ih =>
    rw [List.forall_mem_cons]
    exact ⟨by simpa using hword, ih (by simp)⟩
  | case5 c cs word hc ih => exact ih (List.forall_mem_cons.mpr ⟨by simpa using hc, hword⟩)

theorem oneLine_join_words (s : String) : OneLine (join " " (words s)) := by
  rw [oneLine_join (by decide)]
  intro w hw
  obtain ⟨cs, hcs, rfl⟩ := List.mem_map.mp hw
  intro c hc
  rw [String.toList_ofList] at hc
  exact isLineEnd_eq_false_of_not_blank (splitRuns_not (fun _ hc => absurd hc List.not_mem_nil) cs hcs c hc)

end Parts

section Quoted

theorem lowerHexDigit_not_lineEnd (n : Nat) : isLineEnd (lowerHexDigit (n % 16)) = false := by
  have hall : ∀ m < 16, isLineEnd (lowerHexDigit m) = false := by decide
  exact hall _ (Nat.mod_lt _ (by decide))

theorem hexCode_not_lineEnd (width n : Nat) : ∀ c ∈ hexCode width n, isLineEnd c = false := by
  induction width generalizing n with
  | zero => simp [hexCode]
  | succ width ih =>
    rw [hexCode, List.forall_mem_append]
    exact ⟨ih _, by simpa using lowerHexDigit_not_lineEnd n⟩

theorem quotedChar_not_lineEnd {mark : Char} (hm : isLineEnd mark = false) (c : Char) :
    ∀ d ∈ quotedChar mark c, isLineEnd d = false := by
  have hcode (kind : Char) (width : Nat) (hk : isLineEnd kind = false) :
      ∀ d ∈ '\\' :: kind :: hexCode width c.toNat, isLineEnd d = false := by
    rw [List.forall_mem_cons, List.forall_mem_cons]
    exact ⟨rfl, hk, hexCode_not_lineEnd width _⟩
  unfold quotedChar
  dsimp only
  split_ifs with hmark hn hr ht hp hx hu
  · simp only [Bool.or_eq_true, beq_iff_eq] at hmark
    rcases hmark with rfl | rfl
    · exact hcode c 0 hm
    · exact hcode '\\' 0 rfl
  · exact hcode 'n' 0 rfl
  · exact hcode 'r' 0 rfl
  · exact hcode 't' 0 rfl
  · simpa using isLineEnd_eq_false_of_isPrintable hp
  · exact hcode 'x' 2 rfl
  · exact hcode 'u' 4 rfl
  · exact hcode 'U' 8 rfl

theorem oneLine_quoted (s : String) : OneLine (quoted s) := by
  have hm : isLineEnd (quoteMark s.toList) = false := by
    unfold quoteMark
    split <;> decide
  unfold OneLine quoted
  rw [String.toList_ofList, List.cons_append, List.forall_mem_cons, List.forall_mem_append]
  refine ⟨hm, ?_, by simpa using hm⟩
  intro d hd
  obtain ⟨c, -, hd⟩ := List.mem_flatMap.mp hd
  exact quotedChar_not_lineEnd hm c d hd

end Quoted

end IssueQuery.Text

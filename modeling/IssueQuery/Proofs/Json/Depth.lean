import IssueQuery.Json.Reader

namespace IssueQuery.Json

def opened (n : Nat) : List Char :=
  List.replicate n '['

theorem opened_succ (n : Nat) (rest : List Char) : opened (n + 1) ++ rest = '[' :: (opened n ++ rest) := rfl

theorem skipSpace_opened (n : Nat) (rest : List Char) :
    skipSpace (opened (n + 1) ++ rest) = opened (n + 1) ++ rest := by
  rw [opened_succ]
  rfl

theorem readValue_opened {n : Nat} (digits depth : Nat) {fuel : Nat} (hf : 2 * depth < fuel) (hn : depth < n)
    (rest : List Char) : readValue digits depth fuel (opened n ++ rest) = .error (.tooDeep false) := by
  -- Each list takes one unit of the fuel for its value and one for its first item.
  induction depth generalizing n fuel with
  | zero =>
    obtain ⟨m, rfl⟩ : ∃ m, n = m + 1 := ⟨n - 1, by omega⟩
    obtain ⟨f, rfl⟩ : ∃ f, fuel = f + 1 := ⟨fuel - 1, by omega⟩
    rw [opened_succ, readValue]
  | succ depth ih =>
    obtain ⟨m, rfl⟩ : ∃ m, n = m + 2 := ⟨n - 2, by omega⟩
    obtain ⟨f, rfl⟩ : ∃ f, fuel = f + 2 := ⟨fuel - 2, by omega⟩
    have hinner : readValue digits depth f (opened (m + 1) ++ rest) = .error (.tooDeep false) :=
      ih (by omega) (by omega)
    have hitems : readItems digits depth (f + 1) (opened (m + 1) ++ rest) = .error (.tooDeep false) := by
      rw [readItems, hinner]
    rw [opened_succ, readValue, skipSpace_opened]
    rw [opened_succ] at hitems ⊢
    change (readItems digits depth (f + 1) ('[' :: (opened m ++ rest))).map _ = _
    rw [hitems]
    rfl

theorem read_tooDeep {n : Nat} (hn : maxDepth < n) (rest : List Char) :
    read (String.ofList (opened n ++ rest)) = .error (.tooDeep false) := by
  obtain ⟨m, rfl⟩ : ∃ m, n = m + 1 := ⟨n - 1, by omega⟩
  have hlength : (opened (m + 1) ++ rest).length = m + 1 + rest.length := by
    simp [opened]
  have hvalue : readValue Limits.standard.digits Limits.standard.depth (2 * (opened (m + 1) ++ rest).length + 2)
      (skipSpace (opened (m + 1) ++ rest)) = .error (.tooDeep false) := by
    rw [skipSpace_opened]
    exact readValue_opened Number.maxDigits maxDepth (by omega) hn rest
  have hall : readAll .standard (opened (m + 1) ++ rest) = .error (.tooDeep false) := by
    unfold readAll
    split
    · rename_i h
      rw [opened_succ] at h
      exact absurd (List.cons.inj h).1 (by decide)
    · rw [hvalue]
  rw [read, readWithin, String.toList_ofList, hall]
  rfl

end IssueQuery.Json

import IssueQuery.Proofs.Text.Searching

namespace IssueQuery.Text

def blanks : List Nat :=
  [0x9, 0xa, 0xb, 0xc, 0xd, 0x1c, 0x1d, 0x1e, 0x1f, 0x20, 0x85, 0xa0, 0x1680, 0x2000, 0x2001, 0x2002,
    0x2003, 0x2004, 0x2005, 0x2006, 0x2007, 0x2008, 0x2009, 0x200a, 0x2028, 0x2029, 0x202f, 0x205f, 0x3000]

theorem mem_blanks_of_isBlank {c : Char} (h : isBlank c = true) : c.toNat ∈ blanks := by
  simp only [isBlank, Bool.or_eq_true, Bool.and_eq_true, beq_iff_eq, decide_eq_true_eq] at h
  simp only [blanks, List.mem_cons, List.not_mem_nil, or_false]
  omega

theorem isBlank_eq_false_of_class {p : Char → Bool} (hp : ∀ n ∈ blanks, p (Char.ofNat n) = false)
    {c : Char} (h : p c = true) : isBlank c = false := by
  rw [← Bool.not_eq_true]
  intro hb
  have hc := hp c.toNat (mem_blanks_of_isBlank hb)
  rw [Char.ofNat_toNat, h] at hc
  cases hc

theorem isBlank_eq_false_of_isWord {c : Char} (h : isWord c = true) : isBlank c = false :=
  isBlank_eq_false_of_class (by decide +kernel) h

theorem isBlank_eq_false_of_isDigit {c : Char} (h : isDigit c = true) : isBlank c = false :=
  isBlank_eq_false_of_class (by decide +kernel) h

theorem toNat_ofNat_of_valid {n : Nat} (hn : n.isValidChar) : (Char.ofNat n).toNat = n := by
  rw [Char.ofNat, dif_pos hn]
  rfl

theorem mem_blanks_of_ofNat {n : Nat} (h : isBlank (Char.ofNat n) = true) : n ∈ blanks := by
  by_cases hn : n.isValidChar
  · rw [← toNat_ofNat_of_valid hn]
    exact mem_blanks_of_isBlank h
  · rw [Char.ofNat, dif_neg hn] at h
    exact absurd h (by decide)

section Upper

theorem mem_mapped {expansions : List (Nat × List Nat)} {shifts : List (Nat × Nat × Nat × Nat)} {c d : Char}
    (h : d ∈ mapped expansions shifts c) :
    (∃ e ∈ expansions, ∃ n ∈ e.2, d = Char.ofNat n) ∨
      (∃ r ∈ shifts, ∃ n, r.2.2.2 ≤ n ∧ n ≤ r.2.2.2 + (r.2.1 - r.1) ∧ d = Char.ofNat n) ∨ d = c := by
  rw [mapped] at h
  split at h
  · rename_i ns hns
    obtain ⟨before, after, hall, -⟩ := List.lookup_eq_some_iff.mp hns
    obtain ⟨n, hn, rfl⟩ := List.mem_map.mp h
    refine .inl ⟨(c.toNat, ns), ?_, n, hn, rfl⟩
    rw [hall]
    simp
  · rw [List.mem_singleton] at h
    cases hs : shifted? shifts c.toNat with
    | none =>
      rw [hs] at h
      exact .inr (.inr h)
    | some m =>
      rw [hs] at h
      rw [shifted?, Option.map_eq_some_iff] at hs
      obtain ⟨⟨first, last, step, target⟩, hr, rfl⟩ := hs
      have hrange := List.find?_some hr
      simp only [Bool.and_eq_true, decide_eq_true_eq] at hrange
      refine .inr (.inl ⟨_, List.mem_of_find?_eq_some hr, _, ?_, ?_, h⟩)
      · simp only
        omega
      · simp only
        omega

theorem upperExpansions_not_blank :
    ∀ e ∈ upperExpansions, e.2 ≠ [] ∧ ∀ n ∈ e.2, isBlank (Char.ofNat n) = false := by
  decide +kernel

theorem upperShifts_not_blank :
    ∀ r ∈ upperShifts, ∀ n ∈ blanks, ¬(r.2.2.2 ≤ n ∧ n ≤ r.2.2.2 + (r.2.1 - r.1)) := by
  decide +kernel

theorem asciiUpper_not_blank : ∀ n < 0x80, isWord (Char.ofNat n) = true →
    isBlank (asciiUpper (Char.ofNat n)) = false := by
  decide +kernel

theorem mapped_ne_nil {expansions : List (Nat × List Nat)} (h : ∀ e ∈ expansions, e.2 ≠ [])
    (shifts : List (Nat × Nat × Nat × Nat)) (c : Char) : mapped expansions shifts c ≠ [] := by
  rw [mapped]
  split
  · rename_i ns hns
    obtain ⟨before, after, hall, -⟩ := List.lookup_eq_some_iff.mp hns
    have hmem : (c.toNat, ns) ∈ expansions := by
      rw [hall]
      simp
    simpa using h _ hmem
  · simp

theorem upperChar_ne_nil (c : Char) : upperChar c ≠ [] := by
  rw [upperChar]
  split
  · simp
  · exact mapped_ne_nil (fun e he => (upperExpansions_not_blank e he).1) _ c

theorem upperChar_not_blank {c d : Char} (h : isWord c = true) (hd : d ∈ upperChar c) : isBlank d = false := by
  rw [upperChar] at hd
  split at hd
  · rename_i hc
    obtain rfl := List.mem_singleton.mp hd
    have hu := asciiUpper_not_blank c.toNat hc
    rw [Char.ofNat_toNat] at hu
    exact hu h
  · rcases mem_mapped hd with ⟨e, he, n, hn, rfl⟩ | ⟨r, hr, n, hlow, hhigh, rfl⟩ | rfl
    · exact (upperExpansions_not_blank e he).2 n hn
    · rw [← Bool.not_eq_true]
      exact fun hb => upperShifts_not_blank r hr n (mem_blanks_of_ofNat hb) ⟨hlow, hhigh⟩
    · exact isBlank_eq_false_of_isWord h

theorem eq_of_ofNat_eq {m : Nat} (hm : m.isValidChar) (h0 : m ≠ 0) {n : Nat} (h : Char.ofNat n = Char.ofNat m) :
    n = m := by
  by_cases hn : n.isValidChar
  · rw [← toNat_ofNat_of_valid hn, h, toNat_ofNat_of_valid hm]
  · rw [Char.ofNat, dif_neg hn] at h
    have hzero := congrArg Char.toNat h
    rw [toNat_ofNat_of_valid hm] at hzero
    exact absurd hzero.symm h0

def signs : List Nat := [0x22, 0x3e]

theorem upperTables_not_sign :
    (∀ e ∈ upperExpansions, ∀ m ∈ signs, m ∉ e.2) ∧
      ∀ r ∈ upperShifts, ∀ m ∈ signs, ¬(r.2.2.2 ≤ m ∧ m ≤ r.2.2.2 + (r.2.1 - r.1)) := by
  decide +kernel

theorem asciiUpper_not_sign : ∀ n < 0x80, isWord (Char.ofNat n) = true → ∀ m ∈ signs,
    asciiUpper (Char.ofNat n) ≠ Char.ofNat m := by
  decide +kernel

theorem upperChar_not_sign {m : Nat} (hm : m ∈ signs) {c : Char} (h : isWord c = true) :
    Char.ofNat m ∉ upperChar c := by
  have hvalid : ∀ m ∈ signs, m.isValidChar ∧ m ≠ 0 ∧ isWord (Char.ofNat m) = false := by decide
  obtain ⟨hv, h0, hsign⟩ := hvalid m hm
  intro hd
  rw [upperChar] at hd
  split at hd
  · rename_i hc
    have hu := asciiUpper_not_sign c.toNat hc
    rw [Char.ofNat_toNat] at hu
    exact hu h m hm (List.mem_singleton.mp hd).symm
  · rcases mem_mapped hd with ⟨e, he, n, hn, hq⟩ | ⟨r, hr, n, hlow, hhigh, hq⟩ | rfl
    · obtain rfl := eq_of_ofNat_eq hv h0 hq.symm
      exact upperTables_not_sign.1 e he n hm hn
    · obtain rfl := eq_of_ofNat_eq hv h0 hq.symm
      exact upperTables_not_sign.2 r hr n hm ⟨hlow, hhigh⟩
    · rw [h] at hsign
      cases hsign

theorem upperChar_not_quote {c : Char} (h : isWord c = true) : '"' ∉ upperChar c :=
  upperChar_not_sign (m := 0x22) (by decide) h

theorem flatMap_upperChar_not_blank {cs : List Char} (hne : cs ≠ []) (h : ∀ c ∈ cs, isWord c = true) :
    cs.flatMap upperChar ≠ [] ∧ ∀ d ∈ cs.flatMap upperChar, isBlank d = false := by
  constructor
  · cases cs with
    | nil => exact absurd rfl hne
    | cons c cs =>
      rw [List.flatMap_cons]
      exact List.append_ne_nil_of_left_ne_nil (upperChar_ne_nil c) _
  · intro d hd
    obtain ⟨c, hc, hd⟩ := List.mem_flatMap.mp hd
    exact upperChar_not_blank (h c hc) hd

end Upper

theorem of_firstMatch {α : Type} {p : List Char → Option α} {cs : List Char} {a : α}
    (h : firstMatch p cs = some a) : ∃ t, p t = some a := by
  induction cs with
  | nil => exact ⟨[], h⟩
  | cons c cs ih =>
    rw [firstMatch] at h
    cases hp : p (c :: cs) with
    | none =>
      rw [hp] at h
      exact ih h
    | some b =>
      rw [hp] at h
      exact ⟨c :: cs, hp.trans h⟩

theorem of_run? {p : Char → Bool} {cs taken rest : List Char} (h : run? p cs = some (taken, rest)) :
    taken ≠ [] ∧ ∀ c ∈ taken, p c = true := by
  rw [run?] at h
  split at h
  · cases h
  · rename_i hne
    obtain ⟨rfl, -⟩ := Prod.mk.inj (Option.some.inj h)
    exact ⟨by simpa using hne, List.all_eq_true.mp List.all_takeWhile⟩

end IssueQuery.Text

import IssueQuery.Proofs.Calendar.Numbering
import IssueQuery.Proofs.Number.Reading
import Mathlib.Data.List.Basic

namespace IssueQuery.Calendar

open Text
open Number (asciiValue)

theorem length_padZeros {width n : Nat} (hw : 0 < width) (h : n < 10 ^ width) :
    (padZeros width n).toList.length = width := by
  have hd : n.repr.length ≤ width := (Nat.length_repr_le_iff hw).mpr h
  have ht : (toString n).length = n.repr.length := rfl
  simp only [padZeros, String.toList_append, String.toList_ofList, List.length_append, List.length_replicate,
    String.length_toList, ht]
  omega

theorem isAsciiDigit_of_isDigit {c : Char} (h : c.isDigit = true) : isAsciiDigit c = true := by
  have hn := Number.isDigit_bounds h
  simp [isAsciiDigit, hn]

theorem isAsciiBlank_of_isDigit {c : Char} (h : c.isDigit = true) : isAsciiBlank c = false := by
  simp [isAsciiBlank, Number.isNumberBlank_of_isDigit h]

theorem oneOrTwo?_two {m n : Char} (hm : m.isDigit = true) (hn : n.isDigit = true) (one : Bool)
    (rest : List Char) : oneOrTwo? one (m :: n :: rest) = some ([m, n], rest) := by
  simp [oneOrTwo?, isAsciiDigit_of_isDigit hm, isAsciiDigit_of_isDigit hn]

theorem YearFirst.ofText?_parts {a b c e m n x y : Char}
    (h : ∀ d ∈ [a, b, c, e, m, n, x, y], d.isDigit = true) (hm : 1 ≤ asciiValue [m, n])
    (hm' : asciiValue [m, n] ≤ 12) :
    YearFirst.ofText? [a, b, c, e, '-', m, n, '-', x, y] =
      ofDay? (asciiValue [a, b, c, e]) (asciiValue [m, n]) [x, y] [] := by
  simp only [List.forall_mem_cons] at h
  obtain ⟨ha, hb, hc, he, hm₁, hn, hx, hy, -⟩ := h
  have hsign : a ≠ '-' := by
    rintro rfl
    exact absurd ha (by decide)
  have hskip : skipAsciiBlanks [a, b, c, e, '-', m, n, '-', x, y] = [a, b, c, e, '-', m, n, '-', x, y] := by
    simp [skipAsciiBlanks, isAsciiBlank_of_isDigit ha]
  have hyear : [a, b, c, e].takeWhile isAsciiDigit = [a, b, c, e] := by
    simp [isAsciiDigit_of_isDigit ha, isAsciiDigit_of_isDigit hb, isAsciiDigit_of_isDigit hc,
      isAsciiDigit_of_isDigit he]
  have hmonth : ¬(asciiValue [m, n] = 0 ∨ 12 < asciiValue [m, n]) := by omega
  have hhyphen : isAsciiDigit '-' = false ∧ '-' ∈ separators := by decide
  have hrest : ofMonth? (asciiValue [a, b, c, e]) (some '-') [m, n, '-', x, y] =
      ofDay? (asciiValue [a, b, c, e]) (asciiValue [m, n]) [x, y] [] := by
    simp [ofMonth?, oneOrTwo?_two hm₁ hn, oneOrTwo?_two hx hy, hmonth]
  simp [ofText?, hskip, hsign, hyear, hhyphen, hrest]

theorem toList_iso (d : Date) : d.iso.toList = (padZeros 4 d.year).toList ++ '-' ::
    ((padZeros 2 d.month).toList ++ '-' :: (padZeros 2 d.day).toList) := by
  simp [Date.iso]

theorem daysInMonth_le (year month : Nat) : daysInMonth year month ≤ 31 := by
  unfold daysInMonth
  split
  · split <;> decide
  all_goals decide

theorem Date.toDay_valid {d : Date} (h : d.Valid) : (Day.mk d.year d.month d.day).Valid := by
  obtain ⟨hy, -, hm, hm', hd, hd'⟩ := h
  refine ⟨hm, hm', hd, ?_⟩
  rw [Day.daysInMonth_congr (Day.isLeap_inCycle hy d.month d.day)]
  exact hd'

theorem YearFirst.ofText?_iso {d : Date} (h : d.Valid) :
    YearFirst.ofText? d.iso.toList = some (.ofDay ⟨d.year, d.month, d.day⟩) := by
  obtain ⟨hy, hy', hm, hm', hd, hd'⟩ := id h
  have hlast := daysInMonth_le d.year d.month
  have hyear : d.year < 10 ^ 4 := Nat.lt_succ_of_le hy'
  obtain ⟨a, b, c, e, hyt⟩ := List.length_eq_four.mp (length_padZeros (n := d.year) (by decide) hyear)
  obtain ⟨m, n, hmt⟩ := List.length_eq_two.mp (length_padZeros (n := d.month) (by decide) (by omega))
  obtain ⟨x, y, hdt⟩ := List.length_eq_two.mp (length_padZeros (n := d.day) (by decide) (by omega))
  have hyv := asciiValue_padZeros 4 d.year
  have hmv := asciiValue_padZeros 2 d.month
  have hdv := asciiValue_padZeros 2 d.day
  rw [hyt] at hyv
  rw [hmt] at hmv
  rw [hdt] at hdv
  have hdigit : ∀ k ∈ [a, b, c, e, m, n, x, y], k.isDigit = true := by
    have hyd : ∀ k ∈ [a, b, c, e], k.isDigit = true := by
      intro k hk
      exact isDigit_of_mem_padZeros (hyt ▸ hk)
    have hmd : ∀ k ∈ [m, n], k.isDigit = true := fun k hk => isDigit_of_mem_padZeros (hmt ▸ hk)
    have hdd : ∀ k ∈ [x, y], k.isDigit = true := fun k hk => isDigit_of_mem_padZeros (hdt ▸ hk)
    intro k hk
    rcases List.mem_append.mp (show k ∈ [a, b, c, e] ++ ([m, n] ++ [x, y]) from hk) with hk | hk
    · exact hyd k hk
    · rcases List.mem_append.mp hk with hk | hk
      · exact hmd k hk
      · exact hdd k hk
  have hread := ofText?_parts hdigit (by omega) (by omega)
  have hpos : ¬(d.year : Int) ≤ -1000 := by omega
  rw [toList_iso, hyt, hmt, hdt]
  refine hread.trans ?_
  rw [ofDay?, hyv, hmv, hdv]
  simp only [hpos, if_false, Date.toDay_valid h, if_true]
  rfl

theorem mem_iso {d : Date} {c : Char} (h : c ∈ d.iso.toList) : c.isDigit = true ∨ c = '-' := by
  rw [toList_iso, List.mem_append, List.mem_cons, List.mem_append, List.mem_cons] at h
  rcases h with h | h | h | h | h
  · exact .inl (isDigit_of_mem_padZeros h)
  · exact .inr h
  · exact .inl (isDigit_of_mem_padZeros h)
  · exact .inr h
  · exact .inl (isDigit_of_mem_padZeros h)

namespace Timestamp

theorem missingWords_iso {d : Date} (h : d.Valid) : d.iso ∉ missingWords := by
  obtain ⟨-, hy', -⟩ := h
  have hyear : (padZeros 4 d.year).toList.length = 4 := length_padZeros (by decide) (Nat.lt_succ_of_le hy')
  obtain ⟨a, b, c, e, ht⟩ := List.length_eq_four.mp hyear
  have ha : a.isDigit = true := isDigit_of_mem_padZeros (ht ▸ List.mem_cons_self)
  have hwords : ∀ w ∈ missingWords, w.toList.head?.any (·.isDigit) = false := by decide
  intro hm
  have hhead := hwords _ hm
  rw [toList_iso, ht] at hhead
  simp [ha] at hhead

theorem ofText?_iso {d : Date} (h : d.Valid) : ∃ t, ofText? d.iso = some t ∧ t.wallDate = d := by
  have hcs : stripEnd (·.toNat == 0) d.iso.toList = d.iso.toList := by
    apply stripEnd_of_forall
    intro c hc
    rcases mem_iso hc with hc | rfl
    · have hn := Number.isDigit_bounds hc
      simp only [beq_eq_false_iff_ne]
      omega
    · decide
  have hwords : missingWords.contains d.iso = false := by
    simpa using missingWords_iso h
  have hattos : (YearFirst.ofDay ⟨d.year, d.month, d.day⟩).attos / 10 ^ 12 =
      (Day.mk d.year d.month d.day).toNumber * microsPerDay := by
    have hstart (day : Day) : (YearFirst.ofDay day).attos = day.toNumber * 86400 * 10 ^ 18 := by
      simp [YearFirst.attos, YearFirst.ofDay, Number.asciiValue]
    rw [hstart, microsPerDay]
    omega
  refine ⟨⟨(Day.mk d.year d.month d.day).toNumber * microsPerDay, none⟩, ?_, ?_⟩
  · simp only [ofText?, hcs, String.ofList_toList, hwords, YearFirst.ofText?_iso h]
    rw [YearFirst.timestamp?, hattos]
    rfl
  · have hday : (Day.mk d.year d.month d.day).toNumber * microsPerDay / microsPerDay =
        (Day.mk d.year d.month d.day).toNumber := by
      simp only [microsPerDay]
      omega
    obtain ⟨hy, hy', -⟩ := id h
    have hrange : (decide ((1 : Int) ≤ d.year) && decide ((d.year : Int) ≤ maxYear)) = true := by
      simp only [Bool.and_eq_true, decide_eq_true_eq]
      omega
    rw [wallDate, civilDay, hday, Day.ofNumber_toNumber (Date.toDay_valid h)]
    simp only [hrange, if_true]
    rfl

end Timestamp

end IssueQuery.Calendar

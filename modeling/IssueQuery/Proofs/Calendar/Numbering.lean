import IssueQuery.Calendar.Reading

namespace IssueQuery.Calendar

def yearLength (year : Nat) : Nat :=
  if isLeap year then 366 else 365

def yearAt (b c e : Nat) : Nat := 100 * b + 4 * c + e + 1

theorem exists_yearAt {year : Nat} (hy : 1 ≤ year) (hc : year ≤ 400) :
    ∃ b c e, b < 4 ∧ c < 25 ∧ e < 4 ∧ year = yearAt b c e :=
  ⟨(year - 1) / 100, (year - 1) % 100 / 4, (year - 1) % 4, by omega, by omega, by omega, by
    simp only [yearAt]; omega⟩

section Years

variable {b c e : Nat}

theorem isLeap_yearAt (hb : b < 4) (hc : c < 25) (he : e < 4) :
    isLeap (yearAt b c e) = true ↔ e = 3 ∧ (c ≠ 24 ∨ b = 3) := by
  have h4 : yearAt b c e % 4 = 0 ↔ e = 3 := by simp only [yearAt]; omega
  simp only [isLeap, Bool.and_eq_true, Bool.or_eq_true, beq_iff_eq, bne_iff_ne, ne_eq, h4]
  refine and_congr_right ?_
  rintro rfl
  have h100 : yearAt b c 3 % 100 = 0 ↔ c = 24 := by simp only [yearAt]; omega
  rw [h100]
  by_cases h24 : c = 24
  · subst h24
    simp only [not_true, false_or, yearAt]
    omega
  · simp [h24]

theorem yearLength_yearAt (hb : b < 4) (hc : c < 25) (he : e < 4) :
    yearLength (yearAt b c e) = if e = 3 ∧ (c ≠ 24 ∨ b = 3) then 366 else 365 := by
  simp only [yearLength, isLeap_yearAt hb hc he]

theorem daysBeforeYear_yearAt (hb : b < 4) (hc : c < 25) (he : e < 4) :
    daysBeforeYear (yearAt b c e) = 36524 * b + 1461 * c + 365 * e := by
  have h4 : (100 * b + 4 * c + e) / 4 = 25 * b + c := by omega
  have h100 : (100 * b + 4 * c + e) / 100 = b := by omega
  have h400 : (100 * b + 4 * c + e) / 400 = 0 := by omega
  simp only [daysBeforeYear, yearAt, Nat.add_sub_cancel, h4, h100, h400]
  omega

theorem splitYear_yearAt (hb : b < 4) (hc : c < 25) (he : e < 4) {rest : Nat}
    (hr : rest < yearLength (yearAt b c e)) :
    splitYear (36524 * b + 1461 * c + 365 * e + rest) = (yearAt b c e, rest) := by
  have hrest : rest < 366 ∧ (rest = 365 → e = 3 ∧ (c ≠ 24 ∨ b = 3)) := by
    rw [yearLength_yearAt hb hc he] at hr
    split at hr <;> omega
  -- The last day of a leap year would begin a fifth year or a fifth century; the minima keep it back.
  have hcycle : (36524 * b + 1461 * c + 365 * e + rest) / 146097 = 0 := by omega
  have hin : (36524 * b + 1461 * c + 365 * e + rest) % 146097 = 36524 * b + 1461 * c + 365 * e + rest := by omega
  have hcenturies : min ((36524 * b + 1461 * c + 365 * e + rest) / 36524) 3 = b := by omega
  have hleft : 36524 * b + 1461 * c + 365 * e + rest - b * 36524 = 1461 * c + (365 * e + rest) := by omega
  have hquads : (1461 * c + (365 * e + rest)) / 1461 = c := by omega
  have hyears : (1461 * c + (365 * e + rest)) % 1461 = 365 * e + rest := by omega
  have hyear : min ((365 * e + rest) / 365) 3 = e := by omega
  have hday : 365 * e + rest - e * 365 = rest := by omega
  simp only [splitYear, hcycle, hin, hcenturies, hleft, hquads, hyears, hyear, hday, yearAt]
  simp

end Years

theorem splitYear_daysBeforeYear {year rest : Nat} (hy : 1 ≤ year) (hc : year ≤ 400)
    (hr : rest < yearLength year) : splitYear (daysBeforeYear year + rest) = (year, rest) := by
  obtain ⟨b, c, e, hb, hc', he, rfl⟩ := exists_yearAt hy hc
  rw [daysBeforeYear_yearAt hb hc' he, splitYear_yearAt hb hc' he hr]

theorem exists_year_of_lt {n : Nat} (h : n < 146097) :
    ∃ year rest, 1 ≤ year ∧ year ≤ 400 ∧ rest < yearLength year ∧ n = daysBeforeYear year + rest := by
  obtain ⟨b, c, e, rest, hb, hc, he, hn, hrest⟩ : ∃ b c e rest, b < 4 ∧ c < 25 ∧ e < 4 ∧
      n = 36524 * b + 1461 * c + 365 * e + rest ∧ rest < 366 ∧ (rest = 365 → e = 3 ∧ (c ≠ 24 ∨ b = 3)) := by
    let b := min (n / 36524) 3
    let left := n - b * 36524
    let c := left / 1461
    let e := min (left % 1461 / 365) 3
    exact ⟨b, c, e, left % 1461 - e * 365, by omega, by omega, by omega, by omega, by omega, by omega⟩
  refine ⟨yearAt b c e, rest, by simp only [yearAt]; omega, by simp only [yearAt]; omega, ?_, ?_⟩
  · rw [yearLength_yearAt hb hc he]
    split <;> omega
  · rw [daysBeforeYear_yearAt hb hc he, hn]

theorem daysBeforeMonth_succ (year : Nat) {month : Nat} (h : 1 ≤ month) :
    daysBeforeMonth year (month + 1) = daysBeforeMonth year month + daysInMonth year month := by
  cases month with
  | zero => omega
  | succ month => rfl

theorem daysBeforeMonth_all (year : Nat) : daysBeforeMonth year 13 = yearLength year := by
  cases h : isLeap year <;> simp [daysBeforeMonth, daysInMonth, yearLength, h]

theorem daysBeforeMonth_le (year : Nat) {first month : Nat} (hf : 1 ≤ first) (hm : first ≤ month) :
    daysBeforeMonth year first ≤ daysBeforeMonth year month := by
  induction month with
  | zero => omega
  | succ month ih =>
    by_cases he : first = month + 1
    · exact Nat.le_of_eq (congrArg (daysBeforeMonth year) he)
    · have ih := ih (by omega)
      rw [daysBeforeMonth_succ year (by omega)]
      omega

theorem splitMonth_of_le {year month day : Nat} (first fuel : Nat) (hf : 1 ≤ first) (hm : first ≤ month)
    (hfuel : month ≤ first + fuel) (hd : day < daysInMonth year month) :
    splitMonth year first fuel (daysBeforeMonth year month - daysBeforeMonth year first + day) =
      (month, day) := by
  induction fuel generalizing first with
  | zero =>
    obtain rfl : first = month := by omega
    simp [splitMonth]
  | succ fuel ih =>
    by_cases he : first = month
    · subst he
      simp [splitMonth, hd]
    · have hnext := daysBeforeMonth_le year (show 1 ≤ first + 1 by omega) (show first + 1 ≤ month by omega)
      have ih := ih (first + 1) (by omega) (by omega) (by omega)
      rw [daysBeforeMonth_succ year hf] at hnext ih
      have hlater : ¬daysBeforeMonth year month - daysBeforeMonth year first + day <
          daysInMonth year first := by omega
      have hrest : daysBeforeMonth year month - daysBeforeMonth year first + day - daysInMonth year first =
          daysBeforeMonth year month - (daysBeforeMonth year first + daysInMonth year first) + day := by omega
      rw [splitMonth, if_neg hlater, hrest, ih]

theorem exists_month_of_lt {year rest : Nat} (h : rest < yearLength year) :
    ∃ month day, 1 ≤ month ∧ month ≤ 12 ∧ day < daysInMonth year month ∧
      rest = daysBeforeMonth year month + day := by
  have hsplit (n : Nat) (hn : rest < daysBeforeMonth year (n + 1)) :
      ∃ month day, 1 ≤ month ∧ month ≤ n ∧ day < daysInMonth year month ∧
        rest = daysBeforeMonth year month + day := by
    induction n with
    | zero => simp [daysBeforeMonth] at hn
    | succ n ih =>
      by_cases hl : rest < daysBeforeMonth year (n + 1)
      · obtain ⟨month, day, h1, hle, hd, hr⟩ := ih hl
        exact ⟨month, day, h1, by omega, hd, hr⟩
      · rw [daysBeforeMonth_succ year (by omega)] at hn
        exact ⟨n + 1, rest - daysBeforeMonth year (n + 1), by omega, by omega, by omega, by omega⟩
  exact hsplit 12 (by rw [daysBeforeMonth_all]; exact h)

namespace Date

def InCycle (d : Date) : Prop :=
  1 ≤ d.year ∧ d.year ≤ 400 ∧ 1 ≤ d.month ∧ d.month ≤ 12 ∧ 1 ≤ d.day ∧ d.day ≤ daysInMonth d.year d.month

theorem dayOfYear_lt {d : Date} (h : d.InCycle) :
    daysBeforeMonth d.year d.month + (d.day - 1) < yearLength d.year := by
  obtain ⟨-, -, hm, hm', hd, hd'⟩ := h
  have hnext := daysBeforeMonth_le d.year (show 1 ≤ d.month + 1 by omega) (show d.month + 1 ≤ 13 by omega)
  rw [daysBeforeMonth_succ d.year hm, daysBeforeMonth_all] at hnext
  omega

theorem ofNumber_toNumber {d : Date} (h : d.InCycle) : ofNumber d.toNumber = d := by
  have hlt := dayOfYear_lt h
  obtain ⟨hy, hy', hm, hm', hd, hd'⟩ := h
  have hyear := splitYear_daysBeforeYear hy hy' hlt
  have hmonth := splitMonth_of_le 1 11 (by omega) hm (by omega)
    (show d.day - 1 < daysInMonth d.year d.month by omega)
  have hfirst : daysBeforeMonth d.year 1 = 0 := rfl
  rw [hfirst, Nat.sub_zero] at hmonth
  have hday : d.day - 1 + 1 = d.day := by omega
  rw [ofNumber, toNumber, Nat.add_assoc, hyear]
  simp only [hmonth, hday]

theorem toNumber_lt {d : Date} (h : d.InCycle) : d.toNumber < 146097 := by
  have hlt := dayOfYear_lt h
  obtain ⟨hy, hy', -⟩ := h
  obtain ⟨b, c, e, hb, hc, he, hyear⟩ := exists_yearAt hy hy'
  rw [hyear, yearLength_yearAt hb hc he] at hlt
  rw [toNumber, hyear, daysBeforeYear_yearAt hb hc he]
  split at hlt <;> omega

theorem year_lt_iff {d : Date} (h : d.InCycle) : d.year < 400 ↔ d.toNumber < 145731 := by
  -- The last year of a cycle begins with day 145731.
  have hlt := dayOfYear_lt h
  obtain ⟨hy, hy', -⟩ := h
  obtain ⟨b, c, e, hb, hc, he, hyear⟩ := exists_yearAt hy hy'
  rw [hyear, yearLength_yearAt hb hc he] at hlt
  rw [toNumber, hyear, daysBeforeYear_yearAt hb hc he, Nat.add_assoc]
  generalize daysBeforeMonth (yearAt b c e) d.month + (d.day - 1) = rest at hlt ⊢
  simp only [yearAt]
  split at hlt <;> omega

theorem exists_inCycle {n : Nat} (h : n < 146097) : ∃ d : Date, d.InCycle ∧ d.toNumber = n := by
  obtain ⟨year, rest, hy, hy', hr, rfl⟩ := exists_year_of_lt h
  obtain ⟨month, day, hm, hm', hd, rfl⟩ := exists_month_of_lt hr
  refine ⟨⟨year, month, day + 1⟩, ⟨hy, hy', hm, hm', Nat.succ_pos day, hd⟩, ?_⟩
  simp only [toNumber, Nat.add_sub_cancel, Nat.add_assoc]

end Date

namespace Day

theorem inCycle_of_valid {d : Day} (h : d.Valid) : d.inCycle.1.InCycle := by
  obtain ⟨hm, hm', hd, hd'⟩ := h
  have hyear : 1 ≤ d.inCycle.1.year ∧ d.inCycle.1.year ≤ 400 := by
    simp only [inCycle, cycleYears]
    omega
  exact ⟨hyear.1, hyear.2, hm, hm', hd, hd'⟩

def ofCycle (d : Date) (cycles : Int) : Day :=
  ⟨d.year + cycles * cycleYears, d.month, d.day⟩

theorem inCycle_ofCycle {d : Date} (h : d.InCycle) (cycles : Int) : (ofCycle d cycles).inCycle = (d, cycles) := by
  obtain ⟨hy, hy', -⟩ := h
  have hyear : (((d.year : Int) + cycles * cycleYears - 1) % cycleYears).toNat + 1 = d.year := by
    simp only [cycleYears]
    omega
  have hcycles : ((d.year : Int) + cycles * cycleYears - 1) / cycleYears = cycles := by
    simp only [cycleYears]
    omega
  simp only [inCycle, ofCycle, hyear, hcycles]

theorem ofCycle_inCycle (d : Day) : ofCycle d.inCycle.1 d.inCycle.2 = d := by
  obtain ⟨year, month, day⟩ := d
  have hyear : ((((year - 1) % cycleYears).toNat + 1 : Nat) : Int) +
      (year - 1) / cycleYears * cycleYears = year := by
    simp only [cycleYears]
    omega
  simp only [inCycle, ofCycle, hyear]

theorem ofNumber_eq (n : Int) :
    ofNumber n = ofCycle (Date.ofNumber (n % cycleDays).toNat) (n / cycleDays) := rfl

theorem ofNumber_toNumber {d : Day} (h : d.Valid) : ofNumber d.toNumber = d := by
  have hc := inCycle_of_valid h
  have hlt := Date.toNumber_lt hc
  have hrest : (d.toNumber % cycleDays).toNat = d.inCycle.1.toNumber := by
    simp only [toNumber, cycleDays]
    omega
  have hcycles : d.toNumber / cycleDays = d.inCycle.2 := by
    simp only [toNumber, cycleDays]
    omega
  rw [ofNumber_eq, hrest, hcycles, Date.ofNumber_toNumber hc, ofCycle_inCycle]

theorem exists_ofCycle (n : Int) :
    ∃ d : Date, d.InCycle ∧ ofNumber n = ofCycle d (n / cycleDays) ∧ (d.toNumber : Int) = n % cycleDays := by
  have hlt : (n % cycleDays).toNat < 146097 := by
    simp only [cycleDays]
    omega
  obtain ⟨d, hd, hn⟩ := Date.exists_inCycle hlt
  refine ⟨d, hd, by rw [ofNumber_eq, ← hn, Date.ofNumber_toNumber hd], ?_⟩
  simp only [cycleDays] at hn ⊢
  omega

theorem ofNumber_valid (n : Int) : (ofNumber n).Valid := by
  obtain ⟨d, hd, hn, -⟩ := exists_ofCycle n
  rw [hn, Valid, inCycle_ofCycle hd]
  obtain ⟨-, -, hm, hm', hd, hd'⟩ := hd
  exact ⟨hm, hm', hd, hd'⟩

theorem isLeap_inCycle {year : Nat} (h : 1 ≤ year) (month day : Nat) :
    isLeap (Day.mk year month day).inCycle.1.year = isLeap year := by
  obtain ⟨k, hk⟩ : ∃ k, (((year : Int) - 1) % cycleYears).toNat + 1 + 400 * k = year :=
    ⟨(year - 1) / 400, by simp only [cycleYears]; omega⟩
  generalize hy : (((year : Int) - 1) % cycleYears).toNat + 1 = first at hk
  have h4 : first % 4 = year % 4 := by omega
  have h100 : first % 100 = year % 100 := by omega
  have h400 : first % 400 = year % 400 := by omega
  simp only [inCycle, hy, isLeap, h4, h100, h400]

theorem daysInMonth_congr {y z : Nat} (h : isLeap y = isLeap z) (month : Nat) :
    daysInMonth y month = daysInMonth z month := by
  unfold daysInMonth
  rw [h]

end Day

end IssueQuery.Calendar

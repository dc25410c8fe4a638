import IssueQuery.Proofs.Calendar.ClockText
import Mathlib.Logic.Function.Iterate
import Mathlib.Tactic.SplitIfs

namespace IssueQuery.Calendar

theorem daysBeforeYear_succ {year : Nat} (hy : 1 ≤ year) :
    daysBeforeYear (year + 1) = daysBeforeYear year + yearLength year := by
  obtain ⟨past, rfl⟩ := Nat.exists_eq_add_of_le' hy
  have hleap : isLeap (past + 1) = true ↔ 4 ∣ past + 1 ∧ (¬100 ∣ past + 1 ∨ 400 ∣ past + 1) := by
    simp [isLeap, Nat.dvd_iff_mod_eq_zero]
  -- The centuries are no more than what they are taken from, so that nothing is cut off at zero.
  have hcenturies : past / 100 ≤ past * 365 + past / 4 := by omega
  simp only [daysBeforeYear, yearLength, hleap, Nat.add_sub_cancel, Nat.succ_div]
  split_ifs <;> omega

theorem daysInMonth_pos (year month : Nat) : 1 ≤ daysInMonth year month := by
  unfold daysInMonth
  split <;> first | omega | (split <;> omega)

namespace Day

def monthLength (d : Day) : Nat :=
  daysInMonth d.inCycle.1.year d.month

def next (d : Day) : Day :=
  if d.day < d.monthLength then { d with day := d.day + 1 }
  else if d.month < 12 then { d with month := d.month + 1, day := 1 }
  else ⟨d.year + 1, 1, 1⟩

theorem next_valid {d : Day} (h : d.Valid) : d.next.Valid := by
  obtain ⟨hm, hm', hd, hd'⟩ := h
  unfold next
  split_ifs with hday hmonth
  · exact ⟨hm, hm', Nat.le_add_left 1 d.day, hday⟩
  · exact ⟨Nat.le_add_left 1 d.month, hmonth, Nat.le_refl 1, daysInMonth_pos _ _⟩
  · exact ⟨Nat.le_refl 1, show 1 ≤ 12 by decide, Nat.le_refl 1, daysInMonth_pos _ _⟩

theorem inCycle_succ (year : Int) (month day : Nat) :
    (∃ y : Nat, 1 ≤ y ∧ (Day.mk year month day).inCycle = (⟨y, month, day⟩, (year - 1) / cycleYears) ∧
      (Day.mk (year + 1) 1 1).inCycle = (⟨y + 1, 1, 1⟩, (year - 1) / cycleYears)) ∨
    (Day.mk year month day).inCycle = (⟨400, month, day⟩, (year - 1) / cycleYears) ∧
      (Day.mk (year + 1) 1 1).inCycle = (⟨1, 1, 1⟩, (year - 1) / cycleYears + 1) := by
  by_cases hlast : (year - 1) % cycleYears = 399
  · have hfirst : year % (cycleYears : Int) = 0 := by
      simp only [cycleYears] at hlast ⊢
      omega
    have hcycles : year / (cycleYears : Int) = (year - 1) / cycleYears + 1 := by
      simp only [cycleYears] at hlast ⊢
      omega
    exact .inr (by simp [inCycle, hlast, hfirst, hcycles])
  · have hyear : (year % (cycleYears : Int)).toNat = ((year - 1) % cycleYears).toNat + 1 := by
      simp only [cycleYears] at hlast ⊢
      omega
    have hcycles : year / (cycleYears : Int) = (year - 1) / cycleYears := by
      simp only [cycleYears] at hlast ⊢
      omega
    exact .inl ⟨_, Nat.le_add_left 1 _, rfl, by simp [inCycle, hyear, hcycles]⟩

theorem toNumber_of_inCycle {d : Day} {year month day : Nat} {cycles : Int}
    (h : d.inCycle = (⟨year, month, day⟩, cycles)) :
    d.toNumber = daysBeforeYear year + daysBeforeMonth year month + (day - 1 : Nat) + cycles * cycleDays := by
  simp only [toNumber, h, Date.toNumber, Int.natCast_add]

theorem toNumber_newYear (year : Int) : (Day.mk (year + 1) 1 1).toNumber = (Day.mk year 12 31).toNumber + 1 := by
  have hall (y : Nat) : daysBeforeMonth y 12 + 31 = yearLength y := by
    rw [← daysBeforeMonth_all, daysBeforeMonth_succ y (by decide)]
    rfl
  have hfirst (y : Nat) : daysBeforeMonth y 1 = 0 := rfl
  -- The next year lies in the same cycle or begins another one.
  obtain ⟨y, hy, hlast, hnext⟩ | ⟨hlast, hnext⟩ := inCycle_succ year 12 31
  · have hlength := hall y
    rw [toNumber_of_inCycle hlast, toNumber_of_inCycle hnext, hfirst, daysBeforeYear_succ hy]
    omega
  · have hlength := hall 400
    have hcycle : daysBeforeYear 400 + yearLength 400 = cycleDays := by decide
    have hstart : daysBeforeYear 1 = 0 := rfl
    rw [toNumber_of_inCycle hlast, toNumber_of_inCycle hnext, hfirst, hstart, Int.add_mul]
    omega

theorem toNumber_next {d : Day} (h : d.Valid) : d.next.toNumber = d.toNumber + 1 := by
  obtain ⟨year, month, day⟩ := d
  obtain ⟨y, hy⟩ : ∃ y, ((year - 1) % cycleYears).toNat + 1 = y := ⟨_, rfl⟩
  have hin (m k : Nat) : (Day.mk year m k).inCycle = (⟨y, m, k⟩, (year - 1) / cycleYears) := by
    simp only [inCycle, hy]
  have hm : 1 ≤ month := h.1
  have hm' : month ≤ 12 := h.2.1
  have hd : 1 ≤ day := h.2.2.1
  have hd' : day ≤ daysInMonth y month := by simpa only [hin] using h.2.2.2
  simp only [next, monthLength, hin]
  split_ifs with hday hmonth
  · rw [toNumber_of_inCycle (hin month day), toNumber_of_inCycle (hin month (day + 1))]
    omega
  · rw [toNumber_of_inCycle (hin month day), toNumber_of_inCycle (hin (month + 1) 1), daysBeforeMonth_succ y hm]
    omega
  · obtain rfl : month = 12 := by omega
    obtain rfl : day = 31 := Nat.le_antisymm hd' (Nat.not_lt.mp hday)
    exact toNumber_newYear year

theorem toNumber_ofNumber (n : Int) : (ofNumber n).toNumber = n := by
  obtain ⟨d, hd, hn, hnumber⟩ := exists_ofCycle n
  rw [hn, toNumber, inCycle_ofCycle hd]
  simp only [hnumber, cycleDays]
  omega

theorem ofNumber_succ (n : Int) : ofNumber (n + 1) = (ofNumber n).next := by
  have hvalid := ofNumber_valid n
  rw [← ofNumber_toNumber (next_valid hvalid), toNumber_next hvalid, toNumber_ofNumber]

theorem year_ofNumber_bounds (n : Int) :
    (1 ≤ (ofNumber n).year ∧ (ofNumber n).year ≤ maxYear) ↔ 0 ≤ n ∧ n < 3652059 := by
  obtain ⟨d, hd, hn, hnumber⟩ := exists_ofCycle n
  have hlast := Date.year_lt_iff hd
  obtain ⟨hy, hy', -⟩ := hd
  rw [hn]
  simp only [ofCycle, cycleYears, cycleDays, maxYear] at hnumber ⊢
  omega

end Day

/-- What a clock shows: a day that exists and the microseconds that have passed in it. -/
@[ext]
structure Clock where
  day : Day
  micros : Nat
  valid : day.Valid
  inDay : micros < microsPerDay

namespace Clock

def tick (c : Clock) : Clock :=
  if h : c.micros + 1 < microsPerDay then { c with micros := c.micros + 1, inDay := h }
  else ⟨c.day.next, 0, Day.next_valid c.valid, by decide⟩

/-- One clock shows what the other shows so many microseconds later, or so many earlier where the number is negative. -/
def LaterBy (micros : Int) (c d : Clock) : Prop :=
  tick^[micros.toNat] c = tick^[(-micros).toNat] d

def InYears (c : Clock) : Prop :=
  1 ≤ c.day.year ∧ c.day.year ≤ maxYear

theorem emod_microsPerDay_lt (n : Int) : (n % microsPerDay).toNat < microsPerDay := by
  simp only [microsPerDay]
  omega

def ofMicros (n : Int) : Clock where
  day := Day.ofNumber (n / microsPerDay)
  micros := (n % microsPerDay).toNat
  valid := Day.ofNumber_valid _
  inDay := emod_microsPerDay_lt n

def toMicros (c : Clock) : Int :=
  c.day.toNumber * microsPerDay + c.micros

theorem toMicros_ofMicros (n : Int) : (ofMicros n).toMicros = n := by
  simp only [toMicros, ofMicros, Day.toNumber_ofNumber, microsPerDay]
  omega

theorem ofMicros_toMicros (c : Clock) : ofMicros c.toMicros = c := by
  have hin := c.inDay
  have hday : c.toMicros / microsPerDay = c.day.toNumber := by
    simp only [toMicros, microsPerDay] at hin ⊢
    omega
  have hrest : (c.toMicros % microsPerDay).toNat = c.micros := by
    simp only [toMicros, microsPerDay] at hin ⊢
    omega
  ext
  · simp only [ofMicros, hday, Day.ofNumber_toNumber c.valid]
  · exact hrest

theorem ofMicros_inj {m n : Int} : ofMicros m = ofMicros n ↔ m = n :=
  (Function.LeftInverse.injective toMicros_ofMicros).eq_iff

theorem exists_ofMicros (c : Clock) : ∃ n, c = ofMicros n :=
  ⟨c.toMicros, (ofMicros_toMicros c).symm⟩

theorem tick_ofMicros (n : Int) : (ofMicros n).tick = ofMicros (n + 1) := by
  unfold tick
  split
  · rename_i h
    simp only [ofMicros, microsPerDay] at h
    have hday : n / (microsPerDay : Int) = (n + 1) / microsPerDay := by
      simp only [microsPerDay]
      omega
    ext
    · simp only [ofMicros, hday]
    · simp only [ofMicros, microsPerDay]
      omega
  · rename_i h
    simp only [ofMicros, microsPerDay] at h
    have hday : (n + 1) / (microsPerDay : Int) = n / microsPerDay + 1 := by
      simp only [microsPerDay]
      omega
    ext
    · simp only [ofMicros, hday, Day.ofNumber_succ]
    · simp only [ofMicros, microsPerDay]
      omega

theorem iterate_tick_ofMicros (k : Nat) (n : Int) : tick^[k] (ofMicros n) = ofMicros (n + k) := by
  induction k generalizing n with
  | zero => simp
  | succ k ih =>
    rw [Function.iterate_succ_apply, tick_ofMicros, ih, Int.natCast_succ, Int.add_right_comm, Int.add_assoc]

theorem laterBy_ofMicros_iff {m n micros : Int} : (ofMicros m).LaterBy micros (ofMicros n) ↔ n = m + micros := by
  rw [LaterBy, iterate_tick_ofMicros, iterate_tick_ofMicros, ofMicros_inj]
  omega

theorem inYears_ofMicros_iff {n : Int} : (ofMicros n).InYears ↔ Timestamp.inRange n = true := by
  simp only [InYears, ofMicros, Day.year_ofNumber_bounds, Timestamp.inRange, Bool.and_eq_true, decide_eq_true_eq]
  simp only [maxMicros, microsPerDay]
  omega

end Clock

namespace Timestamp

def clock (t : Timestamp) : Clock :=
  .ofMicros t.wall

/-- The microseconds by which that clock is ahead of UTC; without an offset it is a clock in UTC. -/
def ahead (t : Timestamp) : Int :=
  t.offset.getD 0

/-- A timestamp is written when a clock in UTC shows that. -/
def StandsFor (t : Timestamp) (utc : Clock) : Prop :=
  utc.LaterBy t.ahead t.clock

/-- Two timestamps are written at one time, in a year from 1 to 9999. -/
def SameInstant (t u : Timestamp) : Prop :=
  ∃ utc : Clock, utc.InYears ∧ t.StandsFor utc ∧ u.StandsFor utc

/-- So many microseconds pass from one timestamp to another, a negative number where the other is the earlier. -/
def Elapsed (start stop : Timestamp) (micros : Int) : Prop :=
  ∃ first last, start.StandsFor first ∧ stop.StandsFor last ∧ first.LaterBy micros last

variable {t u : Timestamp} {utc : Clock}

theorem standsFor_iff : t.StandsFor utc ↔ utc = .ofMicros t.utcWall := by
  obtain ⟨n, rfl⟩ := Clock.exists_ofMicros utc
  rw [StandsFor, clock, Clock.laterBy_ofMicros_iff, Clock.ofMicros_inj, ahead, utcWall]
  omega

theorem sameInstant_iff : t.SameInstant u ↔ inRange t.utcWall = true ∧ t.utcWall = u.utcWall := by
  constructor
  · rintro ⟨utc, hutc, ht, hu⟩
    obtain rfl := standsFor_iff.mp ht
    exact ⟨Clock.inYears_ofMicros_iff.mp hutc, Clock.ofMicros_inj.mp (standsFor_iff.mp hu)⟩
  · rintro ⟨hrange, heq⟩
    exact ⟨_, Clock.inYears_ofMicros_iff.mpr hrange, standsFor_iff.mpr rfl, standsFor_iff.mpr (by rw [heq])⟩

theorem elapsed_iff {start stop : Timestamp} {micros : Int} :
    Elapsed start stop micros ↔ micros = stop.utcWall - start.utcWall := by
  constructor
  · rintro ⟨first, last, hstart, hstop, hlater⟩
    obtain rfl := standsFor_iff.mp hstart
    obtain rfl := standsFor_iff.mp hstop
    have hwall := Clock.laterBy_ofMicros_iff.mp hlater
    omega
  · rintro rfl
    exact ⟨_, _, standsFor_iff.mpr rfl, standsFor_iff.mpr rfl, Clock.laterBy_ofMicros_iff.mpr (by omega)⟩

theorem toUtc_eq_ok_iff : t.toUtc = .ok u ↔ inRange t.utcWall = true ∧ u = ⟨t.utcWall, some 0⟩ := by
  unfold toUtc
  split
  · rename_i hrange
    rw [Except.ok.injEq, and_iff_right hrange, eq_comm]
  · rename_i hrange
    simp [hrange]

theorem toUtc_of_inYears (h : t.StandsFor utc) (hutc : utc.InYears) :
    ∃ u, t.toUtc = .ok u ∧ u.offset = some 0 ∧ u.StandsFor utc := by
  obtain rfl := standsFor_iff.mp h
  exact ⟨_, toUtc_eq_ok_iff.mpr ⟨Clock.inYears_ofMicros_iff.mp hutc, rfl⟩, rfl, standsFor_iff.mpr (by simp [utcWall])⟩

theorem toUtc_of_not_inYears (h : t.StandsFor utc) (hutc : ¬utc.InYears) : t.toUtc = .error .outOfRange := by
  obtain rfl := standsFor_iff.mp h
  exact if_neg (mt Clock.inYears_ofMicros_iff.mpr hutc)

theorem daysBetween_of_toUtc {start stop first last : Timestamp} (hstart : start.toUtc = .ok first)
    (hstop : stop.toUtc = .ok last) :
    Elapsed start stop (last.wall - first.wall) ∧
      daysBetween start stop = .ok (daysOfMicros (last.wall - first.wall)) := by
  constructor
  · obtain ⟨-, rfl⟩ := toUtc_eq_ok_iff.mp hstart
    obtain ⟨-, rfl⟩ := toUtc_eq_ok_iff.mp hstop
    exact elapsed_iff.mpr rfl
  · rw [daysBetween, hstart, hstop]
    rfl

theorem toUtc_congr (h : t.SameInstant u) : ∃ utc, t.toUtc = .ok utc ∧ u.toUtc = .ok utc := by
  obtain ⟨hrange, hwall⟩ := sameInstant_iff.mp h
  exact ⟨_, toUtc_eq_ok_iff.mpr ⟨hrange, rfl⟩, toUtc_eq_ok_iff.mpr ⟨hwall ▸ hrange, by rw [hwall]⟩⟩

theorem daysBetween_congr {start stop start' stop' : Timestamp} (hstart : start.SameInstant start')
    (hstop : stop.SameInstant stop') :
    ∃ days, daysBetween start stop = .ok days ∧ daysBetween start' stop' = .ok days := by
  obtain ⟨first, hfirst, hfirst'⟩ := toUtc_congr hstart
  obtain ⟨last, hlast, hlast'⟩ := toUtc_congr hstop
  exact ⟨_, (daysBetween_of_toUtc hfirst hlast).2, (daysBetween_of_toUtc hfirst' hlast').2⟩

end Timestamp

end IssueQuery.Calendar

import IssueQuery.Calendar.Iso
import IssueQuery.Proofs.Calendar.DayText

namespace IssueQuery.Calendar

open Text

section Cycles

variable {k year n : Nat}

theorem isLeap_cycles (k year : Nat) : isLeap (400 * k + year) = isLeap year := by
  have h4 : (400 * k + year) % 4 = year % 4 := by omega
  have h100 : (400 * k + year) % 100 = year % 100 := by omega
  have h400 : (400 * k + year) % 400 = year % 400 := by omega
  simp only [isLeap, h4, h100, h400]

theorem daysInMonth_cycles (k year : Nat) : daysInMonth (400 * k + year) = daysInMonth year :=
  funext (Day.daysInMonth_congr (isLeap_cycles k year))

theorem daysBeforeYear_cycles (k : Nat) (h : 1 ≤ year) :
    daysBeforeYear (400 * k + year) = 146097 * k + daysBeforeYear year := by
  have h1 : 400 * k + year - 1 = 400 * k + (year - 1) := by omega
  have h4 : (400 * k + (year - 1)) / 4 = 100 * k + (year - 1) / 4 := by omega
  have h100 : (400 * k + (year - 1)) / 100 = 4 * k + (year - 1) / 100 := by omega
  have h400 : (400 * k + (year - 1)) / 400 = k + (year - 1) / 400 := by omega
  simp only [daysBeforeYear, h1, h4, h100, h400]
  omega

theorem daysBeforeMonth_cycles (k year month : Nat) :
    daysBeforeMonth (400 * k + year) month = daysBeforeMonth year month := by
  fun_induction daysBeforeMonth year month with
  | case1 => rfl
  | case2 => rfl
  | case3 month hm ih => rw [daysBeforeMonth.eq_3 _ _ hm, ih, daysInMonth_cycles]

theorem splitMonth_cycles (k year month fuel n : Nat) :
    splitMonth (400 * k + year) month fuel n = splitMonth year month fuel n := by
  fun_induction splitMonth year month fuel n with
  | case1 => rfl
  | case2 month n fuel h => rw [splitMonth, daysInMonth_cycles, if_pos h]
  | case3 month n fuel h ih => rw [splitMonth, daysInMonth_cycles, if_neg h, ih]

theorem splitYear_cycles (k : Nat) (h : n < 146097) :
    splitYear (146097 * k + n) = (400 * k + (splitYear n).1, (splitYear n).2) := by
  have hcycles : (146097 * k + n) / 146097 = k := by omega
  have hrest : (146097 * k + n) % 146097 = n := by omega
  have hfirst : n / 146097 = 0 := by omega
  have hn : n % 146097 = n := by omega
  simp only [splitYear, hcycles, hrest, hfirst, hn, Prod.mk.injEq, and_true]
  omega

namespace Date

theorem ofNumber_of_splitYear {rest month day : Nat} (hy : splitYear n = (year, rest))
    (hm : splitMonth year 1 11 rest = (month, day)) : ofNumber n = ⟨year, month, day + 1⟩ := by
  simp only [ofNumber, hy, hm]

theorem ofNumber_cycles (k : Nat) (h : n < 146097) :
    ofNumber (146097 * k + n) = ⟨400 * k + (ofNumber n).year, (ofNumber n).month, (ofNumber n).day⟩ := by
  obtain ⟨year, rest, hy⟩ : ∃ year rest, splitYear n = (year, rest) := ⟨_, _, rfl⟩
  obtain ⟨month, day, hm⟩ : ∃ month day, splitMonth year 1 11 rest = (month, day) := ⟨_, _, rfl⟩
  have hcycles : splitYear (146097 * k + n) = (400 * k + year, rest) := by rw [splitYear_cycles k h, hy]
  rw [ofNumber_of_splitYear hy hm, ofNumber_of_splitYear hcycles ((splitMonth_cycles k year 1 11 rest).trans hm)]

theorem exists_ofNumber (n : Nat) :
    ∃ k d, InCycle d ∧ n = 146097 * k + d.toNumber ∧ ofNumber n = ⟨400 * k + d.year, d.month, d.day⟩ := by
  obtain ⟨d, hd, hn⟩ := exists_inCycle (n := n % 146097) (by omega)
  refine ⟨n / 146097, d, hd, by omega, ?_⟩
  have hsplit : n = 146097 * (n / 146097) + d.toNumber := by omega
  rw [hsplit, ofNumber_cycles _ (toNumber_lt hd), ofNumber_toNumber hd, ← hsplit]

theorem toNumber_ofNumber (n : Nat) : (ofNumber n).toNumber = n := by
  obtain ⟨k, d, hd, hn, hdate⟩ := exists_ofNumber n
  rw [hdate, hn]
  simp only [toNumber, daysBeforeYear_cycles k hd.1, daysBeforeMonth_cycles, Nat.add_assoc]

theorem ofNumber_valid (h : n < 3652059) : (ofNumber n).Valid := by
  obtain ⟨k, d, hd, hn, hdate⟩ := exists_ofNumber n
  have hlast := year_lt_iff hd
  obtain ⟨hy, hy', hm, hm', hday, hday'⟩ := hd
  rw [hdate, Valid, daysInMonth_cycles]
  exact ⟨by simp only; omega, by simp only [maxYear]; omega, hm, hm', hday, hday'⟩

end Date

end Cycles

namespace Iso

section Parts

variable {n seconds : Nat}

theorem number?_padZeros {least width : Nat} (hl : least ≤ width) (hw : 0 < width) (h : n < 10 ^ width) :
    number? least width (padZeros width n).toList = some n := by
  have hall : (padZeros width n).toList.all isAsciiDigit = true :=
    List.all_eq_true.mpr fun c hc => isAsciiDigit_of_isDigit (isDigit_of_mem_padZeros hc)
  rw [number?, length_padZeros hw h, hall, asciiValue_padZeros]
  simp [hl]

theorem number?_two (h : n < 100) : number? 2 2 (padZeros 2 n).toList = some n :=
  number?_padZeros (Nat.le_refl 2) (by decide) h

theorem not_mem_padZeros {mark : Char} (hm : mark.isDigit = false) (width n : Nat) :
    mark ∉ (padZeros width n).toList := by
  intro h
  rw [isDigit_of_mem_padZeros h] at hm
  cases hm

theorem date?_iso {d : Date} (h : d.Valid) : date? d.iso.toList = some d := by
  have hno (width n : Nat) : '-' ∉ (padZeros width n).toList := not_mem_padZeros rfl width n
  have hsplit : splitOnChar '-' d.iso.toList =
      [(padZeros 4 d.year).toList, (padZeros 2 d.month).toList, (padZeros 2 d.day).toList] := by
    rw [toList_iso, splitOnChar_append (hno _ _), splitOnChar_append (hno _ _), splitOnChar_of_not_mem (hno _ _)]
  obtain ⟨hy, hy', hm, hm', hd, hd'⟩ := id h
  have hlast := daysInMonth_le d.year d.month
  have hyear : number? 4 4 (padZeros 4 d.year).toList = some d.year :=
    number?_padZeros (Nat.le_refl 4) (by decide) (Nat.lt_succ_of_le hy')
  have hmonth : number? 2 2 (padZeros 2 d.month).toList = some d.month := number?_two (by omega)
  have hday : number? 2 2 (padZeros 2 d.day).toList = some d.day := number?_two (by omega)
  rw [date?, hsplit]
  simp only [hyear, hmonth, hday]
  exact if_pos h

theorem clock?_padZeros (h : seconds < 86400) : clock? (padZeros 2 (seconds / 3600)).toList
    (padZeros 2 (seconds / 60 % 60)).toList (padZeros 2 (seconds % 60)).toList = some seconds := by
  rw [clock?, number?_two (show seconds / 3600 < 100 by omega), number?_two (show seconds / 60 % 60 < 100 by omega),
    number?_two (show seconds % 60 < 100 by omega)]
  have hbounds : (decide (seconds / 3600 < 24) && decide (seconds / 60 % 60 < 60) && decide (seconds % 60 < 60)) =
      true := by
    simp only [Bool.and_eq_true, decide_eq_true_eq]
    omega
  have htotal : (seconds / 3600 * 60 + seconds / 60 % 60) * 60 + seconds % 60 = seconds := by omega
  simp only [Option.bind_eq_bind, Option.bind_some, hbounds, if_true, htotal]

end Parts

end Iso

namespace Timestamp

open Iso

def clockFields (seconds : Nat) : List Char :=
  (padZeros 2 (seconds / 3600)).toList ++ ':' :: ((padZeros 2 (seconds / 60 % 60)).toList ++
    ':' :: (padZeros 2 (seconds % 60)).toList)

def fractionText (fraction : Nat) : List Char :=
  if fraction = 0 then [] else '.' :: (padZeros 6 fraction).toList

theorem toList_clockText (micros : Nat) : (clockText micros).toList =
    clockFields (micros / microsPerSecond) ++ fractionText (micros % microsPerSecond) := by
  unfold clockText hoursText fractionText clockFields
  simp only [String.toList_append, beq_iff_eq, List.append_assoc]
  split <;> simp

theorem mem_clockFields {seconds : Nat} {c : Char} (h : c ∈ clockFields seconds) : c.isDigit = true ∨ c = ':' := by
  simp only [clockFields, List.mem_append, List.mem_cons] at h
  rcases h with h | h | h | h | h
  · exact .inl (isDigit_of_mem_padZeros h)
  · exact .inr h
  · exact .inl (isDigit_of_mem_padZeros h)
  · exact .inr h
  · exact .inl (isDigit_of_mem_padZeros h)

theorem splitOnChar_clockFields (seconds : Nat) : splitOnChar ':' (clockFields seconds) =
    [(padZeros 2 (seconds / 3600)).toList, (padZeros 2 (seconds / 60 % 60)).toList,
      (padZeros 2 (seconds % 60)).toList] := by
  have hno (width n : Nat) : ':' ∉ (padZeros width n).toList := not_mem_padZeros rfl width n
  rw [clockFields, splitOnChar_append (hno _ _), splitOnChar_append (hno _ _), splitOnChar_of_not_mem (hno _ _)]

theorem time?_clockText {micros : Nat} (h : micros < microsPerDay) :
    time? (clockText micros).toList = some micros := by
  have hno : ∀ c ∈ clockFields (micros / microsPerSecond), (c != '.') = true := by
    intro c hc
    rcases mem_clockFields hc with hc | rfl
    · simp only [bne_iff_ne, ne_eq]
      rintro rfl
      cases hc
    · rfl
  have hfraction : micros % microsPerSecond < 10 ^ 6 := Nat.mod_lt micros (by decide)
  have hseconds : micros / microsPerSecond < 86400 := by
    simp only [microsPerDay, microsPerSecond] at *
    omega
  have htake : ((clockText micros).toList.takeWhile (· != '.')) = clockFields (micros / microsPerSecond) := by
    rw [toList_clockText, List.takeWhile_append_of_pos hno, fractionText]
    split <;> simp
  have hdrop : ((clockText micros).toList.dropWhile (· != '.')) = fractionText (micros % microsPerSecond) := by
    rw [toList_clockText, List.dropWhile_append_of_pos hno, fractionText]
    split <;> simp
  have hwhole : micros / microsPerSecond * microsPerSecond + micros % microsPerSecond = micros :=
    Nat.div_add_mod' micros microsPerSecond
  simp only [time?, htake, hdrop, splitOnChar_clockFields, clock?_padZeros hseconds, Option.bind_eq_bind,
    Option.bind_some]
  by_cases hzero : micros % microsPerSecond = 0
  · rw [hzero, Nat.add_zero] at hwhole
    simp [fractionText, hzero, hwhole]
  · have hlen : (padZeros 6 (micros % microsPerSecond)).toList.length = 6 := length_padZeros (by decide) hfraction
    have hread : number? 1 6 (padZeros 6 (micros % microsPerSecond)).toList = some (micros % microsPerSecond) :=
      number?_padZeros (by decide) (by decide) hfraction
    simp [fractionText, hzero, hread, hlen, hwhole]

def zoneText (offset : Option Int) : List Char :=
  ((offset.map offsetText).getD "").toList

theorem toList_offsetText (offset : Int) : (offsetText offset).toList = (if offset < 0 then '-' else '+') ::
    if offset.natAbs % microsPerSecond = 0 ∧ offset.natAbs / microsPerSecond % 60 = 0 then
      (hoursText (offset.natAbs / microsPerSecond)).toList else (clockText offset.natAbs).toList := by
  unfold offsetText
  simp only [String.toList_append, Bool.and_eq_true, beq_iff_eq]
  split <;> split <;> simp

theorem offset?_hoursText {seconds : Nat} (h : seconds < 86400) (hwhole : seconds % 60 = 0) :
    offset? (hoursText seconds).toList = some ((seconds * microsPerSecond : Nat) : Int) := by
  have hno (width n : Nat) : ':' ∉ (padZeros width n).toList := not_mem_padZeros rfl width n
  have hread := clock?_padZeros h
  have hnone : (padZeros 2 0).toList = ['0', '0'] := by decide
  have hfields : (hoursText seconds).toList =
      (padZeros 2 (seconds / 3600)).toList ++ ':' :: (padZeros 2 (seconds / 60 % 60)).toList := by
    simp [hoursText]
  rw [hwhole, hnone] at hread
  rw [offset?, hfields, splitOnChar_append (hno _ _), splitOnChar_of_not_mem (hno _ _)]
  simp only [hread, Option.map_some]
  rfl

theorem colon_not_mem_fractionText (fraction : Nat) : ':' ∉ fractionText fraction := by
  have hno (width n : Nat) : ':' ∉ (padZeros width n).toList := not_mem_padZeros rfl width n
  unfold fractionText
  split
  · exact List.not_mem_nil
  · simp [hno]

theorem offset?_clockText {micros : Nat} (h : micros < microsPerDay) :
    offset? (clockText micros).toList = some (micros : Int) := by
  have hno (width n : Nat) : ':' ∉ (padZeros width n).toList := not_mem_padZeros rfl width n
  have hlast (seconds : Nat) : ':' ∉ (padZeros 2 seconds).toList ++ fractionText (micros % microsPerSecond) := by
    simp [hno, colon_not_mem_fractionText]
  have hsplit : ∃ a b c, splitOnChar ':' (clockText micros).toList = [a, b, c] := by
    rw [toList_clockText, clockFields]
    simp only [List.append_assoc, List.cons_append]
    rw [splitOnChar_append (hno _ _), splitOnChar_append (hno _ _), splitOnChar_of_not_mem (hlast _)]
    exact ⟨_, _, _, rfl⟩
  obtain ⟨a, b, c, hsplit⟩ := hsplit
  rw [offset?, hsplit, time?_clockText h]
  rfl

theorem offset?_text {offset : Int} (h : offset.natAbs < microsPerDay) :
    offset? (if offset.natAbs % microsPerSecond = 0 ∧ offset.natAbs / microsPerSecond % 60 = 0 then
      (hoursText (offset.natAbs / microsPerSecond)).toList else (clockText offset.natAbs).toList) =
      some (offset.natAbs : Int) := by
  split
  · rename_i hwhole
    have hseconds : offset.natAbs / microsPerSecond < 86400 := by
      simp only [microsPerDay, microsPerSecond] at *
      omega
    rw [offset?_hoursText hseconds hwhole.2, Nat.div_mul_cancel (Nat.dvd_of_mod_eq_zero hwhole.1)]
  · exact offset?_clockText h

theorem zone?_text {offset : Option Int} (h : ∀ o ∈ offset, o.natAbs < microsPerDay) :
    zone? (zoneText offset) = some offset := by
  cases offset with
  | none => rfl
  | some o =>
    have hread := offset?_text (h o rfl)
    simp only [zoneText, Option.map_some, Option.getD_some, toList_offsetText]
    by_cases hneg : o < 0
    · rw [if_pos hneg]
      simp only [zone?, hread, Option.map_some, Option.some.injEq]
      omega
    · rw [if_neg hneg]
      simp only [zone?, hread, Option.map_some, Option.some.injEq]
      omega

structure Valid (t : Timestamp) : Prop where
  wall : inRange t.wall = true
  offset : ∀ o ∈ t.offset, o.natAbs < microsPerDay

theorem toList_text (t : Timestamp) : t.text.toList =
    t.date.iso.toList ++ ' ' :: ((clockText (t.wall % microsPerDay).toNat).toList ++ zoneText t.offset) := by
  simp [text, textWith, zoneText]

theorem date_valid {t : Timestamp} (h : t.Valid) : t.date.Valid := by
  have hwall := h.wall
  simp only [inRange, Bool.and_eq_true, decide_eq_true_eq] at hwall
  apply Date.ofNumber_valid
  simp only [maxMicros, microsPerDay] at *
  omega

theorem ofDate_date {t : Timestamp} (h : t.Valid) : ofDate t.date (t.wall % microsPerDay).toNat t.offset = t := by
  have hwall := h.wall
  simp only [inRange, Bool.and_eq_true, decide_eq_true_eq] at hwall
  obtain ⟨wall, offset⟩ := t
  simp only [ofDate, date, Date.toNumber_ofNumber, mk.injEq, and_true]
  simp only [microsPerDay] at *
  omega

theorem isSign_clockText {micros : Nat} {c : Char} (h : c ∈ (clockText micros).toList) : Iso.isSign c = false := by
  have hdigit {d : Char} (hd : d.isDigit = true) : Iso.isSign d = false := by
    have hn := Number.isDigit_bounds hd
    simp only [Iso.isSign, Bool.or_eq_false_iff, beq_eq_false_iff_ne]
    constructor <;> rintro rfl <;> simp at hn
  rw [toList_clockText, List.mem_append] at h
  rcases h with h | h
  · rcases mem_clockFields h with h | rfl
    · exact hdigit h
    · rfl
  · unfold fractionText at h
    split at h
    · cases h
    · rcases List.mem_cons.mp h with rfl | h
      · rfl
      · exact hdigit (isDigit_of_mem_padZeros h)

theorem isSign_zoneText {offset : Option Int} {c : Char} (h : c ∈ (zoneText offset).head?) : Iso.isSign c = true := by
  cases offset with
  | none => cases h
  | some o =>
    simp only [zoneText, Option.map_some, Option.getD_some, toList_offsetText, List.head?_cons,
      Option.mem_some_iff] at h
    split at h <;> · subst h; rfl

theorem length_iso {d : Date} (h : d.Valid) : d.iso.toList.length = 10 := by
  obtain ⟨-, hy', -, hm', -, hd'⟩ := id h
  have hlast := daysInMonth_le d.year d.month
  rw [toList_iso, List.length_append, List.length_cons, List.length_append, List.length_cons,
    length_padZeros (by decide) (Nat.lt_succ_of_le hy'), length_padZeros (by decide) (by omega),
    length_padZeros (by decide) (by omega)]

theorem zone_of_rest (micros : Nat) (offset : Option Int) :
    ((clockText micros).toList ++ zoneText offset).dropWhile (!Iso.isSign ·) = zoneText offset := by
  have hno : ∀ c ∈ (clockText micros).toList, (!Iso.isSign c) = true := by
    intro c hc
    rw [isSign_clockText hc]
    rfl
  have hsign : ∀ c ∈ (zoneText offset).head?, (!Iso.isSign c) = false := by
    intro c hc
    rw [isSign_zoneText hc]
    rfl
  rw [List.dropWhile_append_of_pos hno, dropWhile_of_head? hsign]

theorem clock_of_rest (micros : Nat) (offset : Option Int) :
    ((clockText micros).toList ++ zoneText offset).takeWhile (!Iso.isSign ·) = (clockText micros).toList := by
  have hcut := List.takeWhile_append_dropWhile (p := (!Iso.isSign ·))
    (l := (clockText micros).toList ++ zoneText offset)
  rw [zone_of_rest] at hcut
  exact List.append_cancel_right hcut

theorem ofIso?_text {t : Timestamp} (h : t.Valid) : ofIso? t.text = some t := by
  have hvalid := date_valid h
  have hlen := length_iso hvalid
  have hmicros : (t.wall % microsPerDay).toNat < microsPerDay := by
    simp only [microsPerDay]
    omega
  have hday : t.text.toList.take 10 = t.date.iso.toList := by
    rw [toList_text, List.take_left' hlen]
  have hrest : t.text.toList.drop 11 =
      (clockText (t.wall % microsPerDay).toNat).toList ++ zoneText t.offset := by
    rw [toList_text, List.append_cons, List.drop_left' (by simp [hlen])]
  simp only [ofIso?, hday, hrest, zone_of_rest, clock_of_rest, date?_iso hvalid, time?_clockText hmicros,
    zone?_text h.offset, Option.bind_eq_bind, Option.bind_some, ofDate_date h]

theorem text_inj {t u : Timestamp} (ht : t.Valid) (hu : u.Valid) (h : t.text = u.text) : t = u := by
  have hread := ofIso?_text ht
  rw [h, ofIso?_text hu] at hread
  exact (Option.some.inj hread).symm

end Timestamp

end IssueQuery.Calendar

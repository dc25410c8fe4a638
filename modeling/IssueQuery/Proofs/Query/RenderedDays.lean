import IssueQuery.Proofs.Intent.Absence
import IssueQuery.Proofs.Intent.Range
import IssueQuery.Query.Clause

namespace IssueQuery

open Calendar (Date padZeros)
open Text (join)

def IsDayText (s : String) : Prop :=
  ∃ y m d : List Char, s.toList = y ++ '-' :: (m ++ '-' :: d) ∧ y.length = 4 ∧ m.length = 2 ∧ d.length = 2 ∧
    ∀ c ∈ y ++ m ++ d, c.isDigit = true

namespace Calendar.Date

theorem toList_shortIso (d : Date) : d.shortIso.toList = (toString d.year).toList ++ '-' ::
    ((padZeros 2 d.month).toList ++ '-' :: (padZeros 2 d.day).toList) := by
  simp [shortIso]

theorem padZeros_of_le (width : Nat) {n : Nat} (h : 10 ^ width ≤ n) : padZeros (width + 1) n = toString n := by
  have hlength : width + 1 ≤ n.repr.length := by
    by_contra hshort
    rcases Nat.eq_zero_or_pos width with rfl | hpos
    · have hone : 0 < n.repr.length := List.length_pos_iff.mpr (Number.toString_ne_nil n)
      omega
    · have hlt : n < 10 ^ width := (Nat.length_repr_le_iff hpos).mp (by omega)
      omega
  have htext : (toString n).length = n.repr.length := rfl
  have hzeros : width + 1 - (toString n).length = 0 := by omega
  simp only [padZeros, hzeros, List.replicate_zero]
  rfl

theorem shortIso_eq_iso {d : Date} (h : 1000 ≤ d.year) : d.shortIso = d.iso := by
  rw [shortIso, iso, padZeros_of_le 3 h]

theorem isDayText_shortIso_iff {d : Date} (h : d.Valid) : IsDayText d.shortIso ↔ 1000 ≤ d.year := by
  obtain ⟨-, hy, -, hm, -, hd⟩ := h
  have hlast := daysInMonth_le d.year d.month
  have hmonth : (padZeros 2 d.month).toList.length = 2 := length_padZeros (by decide) (by omega)
  have hday : (padZeros 2 d.day).toList.length = 2 := length_padZeros (by decide) (by omega)
  constructor
  · rintro ⟨y, m, r, htext, hyl, hml, hdl, -⟩
    have hlength := congrArg List.length htext
    rw [toList_shortIso] at hlength
    simp only [List.length_append, List.length_cons, hmonth, hday, hyl, hml, hdl] at hlength
    by_contra hshort
    have hle : (toString d.year).toList.length ≤ 3 := by
      rw [String.length_toList]
      exact (Nat.length_repr_le_iff (by decide)).mpr (by omega)
    omega
  · intro hyear
    refine ⟨(toString d.year).toList, _, _, toList_shortIso d, ?_, hmonth, hday, ?_⟩
    · rw [← padZeros_of_le 3 hyear]
      exact length_padZeros (by decide) (Nat.lt_succ_of_le hy)
    · simp only [List.forall_mem_append]
      exact ⟨⟨fun c => Number.isDigit_of_mem_toString, fun c => isDigit_of_mem_padZeros⟩,
        fun c => isDigit_of_mem_padZeros⟩

end Calendar.Date

namespace Payload

def boundMembers (lower upper : Option String) : OrderedMap Json :=
  (lower.map fun s => ("from", .text s)).toList ++ (upper.map fun s => ("to", .text s)).toList

def quotedBounds (lower upper : Option String) : Json :=
  .object (boundMembers lower upper)

variable {r : Calendar.Reader} {start stop : Option Date}

theorem window_quotedBounds (hr : r.ReadsDays) (hbound : start ≠ none ∨ stop ≠ none) (hstart : ∀ d ∈ start, d.Valid)
    (hstop : ∀ d ∈ stop, d.Valid) :
    window r (quotedBounds (start.map Date.iso) (stop.map Date.iso)) =
      .ok (some (DateWindow.between start stop)) := by
  have hread : windowBetween r (ofOption ofDay start, ofOption ofDay stop) =
      .ok (some (DateWindow.between start stop)) := by
    have hsome : (start.isNone && stop.isNone) = false := by
      cases start <;> cases stop <;> simp_all
    rw [windowBetween, day_ofOption hr hstart, day_ofOption hr hstop]
    show Except.ok (if start.isNone && stop.isNone then none else some (DateWindow.between start stop)) = _
    rw [hsome]
    rfl
  have hlast : Json.member (boundMembers (start.map Date.iso) (stop.map Date.iso)) "lastDays" = .null := by
    cases start <;> cases stop <;> rfl
  have hbounds : bounds (boundMembers (start.map Date.iso) (stop.map Date.iso)) =
      (ofOption ofDay start, ofOption ofDay stop) := by
    cases start <;> cases stop <;> rfl
  rw [quotedBounds, window_object, hlast, hbounds]
  exact hread

theorem intent_of_window {v : Json} {w : Option DateWindow} (h : window r v = .ok w) :
    intent r (.object [("filters", .object [("created", v)])]) =
        .ok { Intent.empty with filters := some { Filters.none with created := w } } ∧
      intent r (.object [("filters", .object [("updated", v)])]) =
        .ok { Intent.empty with filters := some { Filters.none with updated := w } } := by
  have hcreated : filters r (.object [("created", v)]) = .ok (some { Filters.none with created := w }) := by
    show (window r v >>= fun created => Except.ok (some { Filters.none with created := created })) = _
    rw [h]
    rfl
  have hupdated : filters r (.object [("updated", v)]) = .ok (some { Filters.none with updated := w }) := by
    show (window r v >>= fun updated => Except.ok (some { Filters.none with updated := updated })) = _
    rw [h]
    rfl
  constructor
  · rw [intent_object]
    show (filters r (.object [("created", v)]) >>= _) = _
    rw [hcreated]
    rfl
  · rw [intent_object]
    show (filters r (.object [("updated", v)]) >>= _) = _
    rw [hupdated]
    rfl

end Payload

namespace Clause

def quotedRange (field : String) (lower upper : Option String) : List String :=
  (lower.map fun s => field ++ " >= " ++ quote s).toList ++ (upper.map fun s => field ++ " <= " ++ quote s).toList

variable {start stop : Option Date}

theorem within?_between (field : String) (hbound : start ≠ none ∨ stop ≠ none) :
    within? field (.between start stop) =
      some (join " AND " (quotedRange field (start.map Date.shortIso) (stop.map Date.shortIso))) := by
  cases start <;> cases stop <;> simp_all [within?, DateWindow.between, quotedRange, join]

theorem map_shortIso {day : Option Date} (h : ∀ d ∈ day, 1000 ≤ d.year) :
    day.map Date.shortIso = day.map Date.iso :=
  Option.map_congr fun d hd => Date.shortIso_eq_iso (h d hd)

/-- The days of a condition are written in full and lead back to the window, by themselves and as a part of
a payload, exactly when their years have four digits. -/
theorem quotedDays_readBack_iff {r : Calendar.Reader} (hr : r.ReadsDays) (field : String)
    (hbound : start ≠ none ∨ stop ≠ none) (hstart : ∀ d ∈ start, d.Valid)
    (hstop : ∀ d ∈ stop, d.Valid) :
    let w := DateWindow.between start stop
    let lower := start.map Date.shortIso
    let upper := stop.map Date.shortIso
    let read := Payload.quotedBounds lower upper
    within? field w = some (join " AND " (quotedRange field lower upper)) ∧
      (((∀ s ∈ lower, IsDayText s) ∧ (∀ s ∈ upper, IsDayText s) ∧ Payload.window r read = .ok (some w) ∧
          Payload.intent r (.object [("filters", .object [("created", read)])]) =
            .ok { Intent.empty with filters := some { Filters.none with created := some w } } ∧
          Payload.intent r (.object [("filters", .object [("updated", read)])]) =
            .ok { Intent.empty with filters := some { Filters.none with updated := some w } }) ↔
        (∀ d ∈ start, 1000 ≤ d.year) ∧ ∀ d ∈ stop, 1000 ≤ d.year) := by
  intro w lower upper read
  have htexts {day : Option Date} (hday : ∀ d ∈ day, d.Valid) :
      (∀ s ∈ day.map Date.shortIso, IsDayText s) ↔ ∀ d ∈ day, 1000 ≤ d.year := by
    cases day with
    | none => simp
    | some d => simpa using Date.isDayText_shortIso_iff (hday d rfl)
  refine ⟨within?_between field hbound, ?_, ?_⟩
  · rintro ⟨hlower, hupper, -⟩
    exact ⟨(htexts hstart).mp hlower, (htexts hstop).mp hupper⟩
  · rintro ⟨hlower, hupper⟩
    have hread : Payload.window r read = .ok (some w) := by
      simp only [read, lower, upper, map_shortIso hlower, map_shortIso hupper]
      exact Payload.window_quotedBounds hr hbound hstart hstop
    exact ⟨(htexts hstart).mpr hlower, (htexts hstop).mpr hupper, hread, Payload.intent_of_window hread⟩

theorem quotedDays_readBack_fourDigits :
    let first : Date := ⟨1000, 1, 1⟩
    let last : Date := ⟨9999, 12, 31⟩
    Calendar.Reader.standard.ReadsDays ∧ first.Valid ∧ last.Valid ∧
      within? "created" (.between (some first) (some last)) =
        some "created >= \"1000-01-01\" AND created <= \"9999-12-31\"" ∧
      Payload.window .standard (Payload.quotedBounds (some "1000-01-01") (some "9999-12-31")) =
        .ok (some (.between (some first) (some last))) := by
  intro first last
  have hr := Calendar.Reader.readsDays_standard
  have hfirst : ∀ d ∈ some first, d.Valid ∧ 1000 ≤ d.year := by simpa using by decide
  have hlast : ∀ d ∈ some last, d.Valid ∧ 1000 ≤ d.year := by simpa using by decide
  obtain ⟨htext, hread⟩ := quotedDays_readBack_iff hr "created" (.inl (Option.some_ne_none first))
    (fun d hd => (hfirst d hd).1) (fun d hd => (hlast d hd).1)
  have hback := hread.mpr ⟨fun d hd => (hfirst d hd).2, fun d hd => (hlast d hd).2⟩
  have hfirstText : first.shortIso = "1000-01-01" := by decide +kernel
  have hlastText : last.shortIso = "9999-12-31" := by decide +kernel
  simp only [Option.map_some, hfirstText, hlastText] at htext hback
  exact ⟨hr, by decide, by decide, htext, hback.2.2.1⟩

theorem first_day_not_readBack :
    let first : Date := ⟨1, 1, 1⟩
    first.Valid ∧ within? "created" (.between (some first) none) = some "created >= \"1-01-01\"" ∧
      ¬∀ d : Date, d.Valid → IsDayText d.shortIso := by
  intro first
  have hvalid : first.Valid := by decide
  have htext : first.shortIso = "1-01-01" := by decide +kernel
  have hwritten : within? "created" (.between (some first) none) =
      some (join " AND " (quotedRange "created" (some first.shortIso) none)) :=
    within?_between "created" (.inl (Option.some_ne_none first))
  rw [htext] at hwritten
  refine ⟨hvalid, hwritten, fun h => ?_⟩
  have hyear := (Date.isDayText_shortIso_iff hvalid).mp (h first hvalid)
  exact absurd hyear (by decide)

end Clause

end IssueQuery

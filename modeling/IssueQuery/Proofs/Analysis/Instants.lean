import IssueQuery.Analysis.Measure
import IssueQuery.Proofs.Calendar.Clocks
import IssueQuery.Proofs.Outcome
import IssueQuery.Tracker.Sample
import Mathlib.Data.Option.Basic

namespace IssueQuery

open Calendar (Clock Moment Timestamp daysBetween daysOfMicros)

structure IssueOf.SameButWriting (i j : Issue) : Prop where
  rest : j = { i with created := j.created, updated := j.updated, resolutionDate := j.resolutionDate }
  created : Timestamp.SameInstant i.created j.created
  updated : Timestamp.SameInstant i.updated j.updated
  resolutionDate : Option.Rel (fun t u : Moment => Timestamp.SameInstant t u) i.resolutionDate j.resolutionDate

namespace Measure

/-- The measure has a value, and the same for each writing of the times. -/
def OfInstants (m : Measure) : Prop :=
  ∀ {records others : List Issue} {now later : Timestamp}, List.Forall₂ IssueOf.SameButWriting records others →
    now.SameInstant later → Outcome.Agree (m records now) (m others later)

section Times

variable {i j : Issue} {start stop start' stop' : Timestamp}

theorem agree_daysBetween (hstart : start.SameInstant start') (hstop : stop.SameInstant stop') :
    Outcome.Agree (ofClock (daysBetween start stop)) (ofClock (daysBetween start' stop')) := by
  obtain ⟨days, hdays, hdays'⟩ := Timestamp.daysBetween_congr hstart hstop
  exact ⟨days, by rw [hdays]; rfl, by rw [hdays']; rfl⟩

theorem agree_resolutionDays (h : i.SameButWriting j) : Outcome.Agree (resolutionDays i) (resolutionDays j) := by
  have hresolved := h.resolutionDate
  unfold resolutionDays
  generalize i.resolutionDate = resolved, j.resolutionDate = resolved' at hresolved ⊢
  cases hresolved with
  | none => exact ⟨none, rfl, rfl⟩
  | some htimes => exact (agree_daysBetween h.created htimes).map some

end Times

theorem ofInstants_ages (f : List Float → Value) : OfInstants fun records now => (ages records now).map f :=
  fun h hnow => (Outcome.Agree.mapM (fun _ _ hij => agree_daysBetween hij.created hnow) h).map f

theorem ofInstants_updateAges (f : List Float → Value) :
    OfInstants fun records now => (updateAges records now).map f :=
  fun h hnow => (Outcome.Agree.mapM (fun _ _ hij => agree_daysBetween hij.updated hnow) h).map f

theorem ofInstants_resolutionDays (f : List (Option Float) → Value) :
    OfInstants fun records _ => (records.mapM resolutionDays).map f :=
  fun h _ => (Outcome.Agree.mapM (fun _ _ hij => agree_resolutionDays hij) h).map f

theorem ofInstants_size : OfInstants size :=
  fun h _ => ⟨_, rfl, by rw [size, h.length_eq]⟩

theorem ofInstants_countOf {get : Issue → String} (hget : ∀ i created updated resolved,
    get { i with created := created, updated := updated, resolutionDate := resolved } = get i) :
    OfInstants (countOf get) := by
  intro records others now later h _
  have htexts : others.map get = records.map get := by
    induction h with
    | nil => rfl
    | cons hij _ ih =>
      rw [List.map_cons, List.map_cons, ih, hij.rest, hget]
  exact ⟨_, rfl, by rw [countOf, htexts]⟩

theorem ofInstants_calculations : ∀ e ∈ calculations, OfInstants e.2 := by
  simp only [calculations, List.forall_mem_cons]
  exact ⟨ofInstants_ages _, ofInstants_updateAges _, ofInstants_updateAges _, ofInstants_ages _,
    ofInstants_updateAges _, ofInstants_resolutionDays _, ofInstants_size,
    ofInstants_countOf fun _ _ _ _ => rfl, by simp⟩

theorem ofInstants_aggregations : ∀ e ∈ aggregations, OfInstants e.2 := by
  simp only [aggregations, List.forall_mem_cons]
  exact ⟨ofInstants_size, ofInstants_ages _, ofInstants_ages _, ofInstants_ages _,
    ofInstants_countOf fun _ _ _ _ => rfl, ofInstants_countOf fun _ _ _ _ => rfl,
    ofInstants_countOf fun _ _ _ _ => rfl, ofInstants_countOf fun _ _ _ _ => rfl, by simp⟩

/-- A measure has one value for all writings of the times. A timestamp stands for one instant and is taken to UTC with
it, which fails where the year there is none from 1 to 9999 and nowhere else. The days between two timestamps are those
of the microseconds that pass between them, which are one number, change their sign with the direction and add up. -/
theorem depend_on_instants :
    (∀ {records others : List Issue} {now later : Timestamp}, List.Forall₂ IssueOf.SameButWriting records others →
      now.SameInstant later →
      ∀ e ∈ calculations ++ aggregations, ∃ v, e.2 records now = .ok v ∧ e.2 others later = .ok v) ∧
    (∀ t : Timestamp, ∃ utc : Clock, (∀ c, t.StandsFor c ↔ c = utc) ∧
      (utc.InYears → ∃ u, ofClock t.toUtc = .ok u ∧ u.offset = some 0 ∧ u.StandsFor utc) ∧
      (¬utc.InYears → ∃ fault, ofClock t.toUtc = .error fault ∧ fault.kind = "OverflowError")) ∧
    (∀ {start stop first last : Timestamp}, start.toUtc = .ok first → stop.toUtc = .ok last →
      Timestamp.Elapsed start stop (last.wall - first.wall) ∧
        daysBetween start stop = .ok (daysOfMicros (last.wall - first.wall))) ∧
    (∀ start stop : Timestamp, ∃ micros, ∀ n, Timestamp.Elapsed start stop n ↔ n = micros) ∧
    (∀ {start stop : Timestamp} {micros : Int}, Timestamp.Elapsed start stop micros →
      Timestamp.Elapsed stop start (-micros)) ∧
    ∀ {start middle stop : Timestamp} {m n : Int}, Timestamp.Elapsed start middle m →
      Timestamp.Elapsed middle stop n → Timestamp.Elapsed start stop (m + n) := by
  refine ⟨fun h hnow e he => ?_, fun t => ?_, Timestamp.daysBetween_of_toUtc, fun start stop => ?_, fun h => ?_,
    fun hm hn => ?_⟩
  · rcases List.mem_append.mp he with he | he
    · exact ofInstants_calculations e he h hnow
    · exact ofInstants_aggregations e he h hnow
  · refine ⟨_, fun _ => Timestamp.standsFor_iff, fun hutc => ?_, fun hutc => ?_⟩
    · obtain ⟨u, hu, hoffset, hstands⟩ := Timestamp.toUtc_of_inYears (Timestamp.standsFor_iff.mpr rfl) hutc
      exact ⟨u, by rw [hu]; rfl, hoffset, hstands⟩
    · rw [Timestamp.toUtc_of_not_inYears (Timestamp.standsFor_iff.mpr rfl) hutc]
      exact ⟨_, rfl, rfl⟩
  · exact ⟨_, fun _ => Timestamp.elapsed_iff⟩
  · rw [Timestamp.elapsed_iff] at h ⊢
    omega
  · rw [Timestamp.elapsed_iff] at hm hn ⊢
    omega

def resolvedBug (created updated : Timestamp) : Issue :=
  { Sample.paymentBug created updated with resolutionDate := some (.single updated) }

def leapEvening : Timestamp := .ofDate ⟨2024, 2, 29⟩ 84600000000 (some (-5400000000))

def leapDayBugs : List Issue × List Issue :=
  ([resolvedBug leapEvening (.ofDate ⟨2025, 1, 1⟩ 0 (some 1172000001))],
    [resolvedBug (.ofDate ⟨2024, 3, 1⟩ 3600000000 none) (.ofDate ⟨2024, 12, 31⟩ 85227999999 none)])

theorem depend_on_instants_leapDay :
    List.Forall₂ IssueOf.SameButWriting leapDayBugs.1 leapDayBugs.2 ∧
      (∀ e ∈ calculations ++ aggregations, ∃ v, e.2 leapDayBugs.1 (.ofDate ⟨2025, 1, 2⟩ 0 none) = .ok v ∧
        e.2 leapDayBugs.2 (.ofDate ⟨2025, 1, 1⟩ 43200000000 (some (-43200000000))) = .ok v) ∧
      (∃ u, ofClock (Timestamp.toUtc ⟨3600000000, some 3600000000⟩) = .ok u ∧ u.offset = some 0 ∧
        u.StandsFor (Clock.ofMicros 0)) ∧
      (∃ fault, ofClock (Timestamp.toUtc ⟨0, some 1⟩) = .error fault ∧ fault.kind = "OverflowError") ∧
      daysBetween leapEvening (.ofDate ⟨2024, 3, 1⟩ 0 none) = .ok (daysOfMicros (-3600000000)) ∧
      Timestamp.Elapsed leapEvening leapEvening (-3600000000 + -(-3600000000)) := by
  have hcreated : leapEvening.SameInstant (.ofDate ⟨2024, 3, 1⟩ 3600000000 none) :=
    Timestamp.sameInstant_iff.mpr ⟨by decide, by decide⟩
  have hupdated : Timestamp.SameInstant (.ofDate ⟨2025, 1, 1⟩ 0 (some 1172000001))
      (.ofDate ⟨2024, 12, 31⟩ 85227999999 none) := Timestamp.sameInstant_iff.mpr ⟨by decide, by decide⟩
  have hnow : Timestamp.SameInstant (.ofDate ⟨2025, 1, 2⟩ 0 none)
      (.ofDate ⟨2025, 1, 1⟩ 43200000000 (some (-43200000000))) := Timestamp.sameInstant_iff.mpr ⟨by decide, by decide⟩
  have hbugs : List.Forall₂ IssueOf.SameButWriting leapDayBugs.1 leapDayBugs.2 :=
    .cons ⟨rfl, hcreated, hupdated, .some hupdated⟩ .nil
  have hfirst : leapEvening.toUtc = .ok ⟨63844851600000000, some 0⟩ :=
    Timestamp.toUtc_eq_ok_iff.mpr ⟨by decide, by decide⟩
  have hlast : (Timestamp.ofDate ⟨2024, 3, 1⟩ 0 none).toUtc = .ok ⟨63844848000000000, some 0⟩ :=
    Timestamp.toUtc_eq_ok_iff.mpr ⟨by decide, by decide⟩
  obtain ⟨hmeasures, hutc, hbetween, -, hback, hadd⟩ := depend_on_instants
  have hspan := hbetween hfirst hlast
  simp only [Int.reduceSub] at hspan
  obtain ⟨helapsed, hdays⟩ := hspan
  refine ⟨hbugs, hmeasures hbugs hnow, ?_, ?_, hdays, hadd helapsed (hback helapsed)⟩
  · obtain ⟨utc, hstands, hok, -⟩ := hutc ⟨3600000000, some 3600000000⟩
    have hzero : Clock.ofMicros 0 = utc := (hstands _).mp (Timestamp.standsFor_iff.mpr (congrArg _ (by decide)))
    subst hzero
    exact hok (Clock.inYears_ofMicros_iff.mpr (by decide))
  · obtain ⟨utc, hstands, -, hfail⟩ := hutc ⟨0, some 1⟩
    have hbefore : Clock.ofMicros (-1) = utc :=
      (hstands _).mp (Timestamp.standsFor_iff.mpr (congrArg _ (by decide)))
    subst hbefore
    exact hfail (mt Clock.inYears_ofMicros_iff.mp (by decide))

end Measure

end IssueQuery

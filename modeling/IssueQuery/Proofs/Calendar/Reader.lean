import IssueQuery.Calendar.StandardReader
import IssueQuery.Proofs.Calendar.DayText

namespace IssueQuery.Calendar

namespace Reader

/-- Every day from year 1 to year 9999 is read from its text. -/
def ReadsDays (r : Reader) : Prop :=
  ∀ d : Date, d.Valid → r.day d.iso = .ok (some d)

/-- A text is a day or none; reading it does not fail. -/
def ReadsTexts (r : Reader) : Prop :=
  ∀ s, ∃ d, r.day s = .ok d

/-- No reading of a text fails for want of a connection. -/
def NeedsNoConnection (r : Reader) : Prop :=
  ∀ s failure, r.day s = .error failure → failure.isA .connection = false

/-- A value stands for an instant or for none, or it has a wrong value or a wrong type. -/
def FailsByValue (r : Reader) : Prop :=
  ∀ v failure, r.instant v = .error failure → failure.isA .value = true ∨ failure.isA .type = true

theorem readsDays_standard : standard.ReadsDays := by
  intro d h
  obtain ⟨t, ht, hd⟩ := Timestamp.ofText?_iso h
  simp [standard, ht, hd, h]

theorem readsTexts_standard : standard.ReadsTexts :=
  fun _ => ⟨_, rfl⟩

theorem needsNoConnection_standard : standard.NeedsNoConnection := by
  intro s failure h
  cases h

theorem failsByValue_standard : standard.FailsByValue := by
  intro v failure h
  change (StandardReader.instant v).mapError TimeFault.failure = _ at h
  cases hv : StandardReader.instant v with
  | ok t =>
    rw [hv] at h
    cases h
  | error cause =>
    rw [hv] at h
    obtain rfl := Except.error.inj h
    cases cause with
    | table => exact .inr rfl
    | _ => exact .inl rfl

end Reader

end IssueQuery.Calendar

import IssueQuery.Issue.Payload
import IssueQuery.Proofs.Issue.Frames
import IssueQuery.Proofs.Outcome

namespace IssueQuery.IssuePayload

open Calendar (Reader)
open Document (frames)
open Outcome (FailsBy)

inductive Flaw (r : Reader) : Fault → Prop
  | noMembers (kind : String) : Flaw r (.noMembers kind)
  | noItems (kind : String) : Flaw r (.noItems kind)
  | incomplete (key : String) : Flaw r (.incompleteIssue key)
  | reader {v : Json} {failure : Failure} : r.instant v = .error failure → Flaw r (.foreign failure)

variable {r : Reader}

theorem members_flaws (v : Json) : FailsBy (Flaw r) (members v) := by
  cases v with
  | object ms => exact .ok ms
  | _ => exact .error (.noMembers _)

theorem membersOrNone_flaws (v : Json) : FailsBy (Flaw r) (membersOrNone v) := by
  unfold membersOrNone
  split
  · exact members_flaws v
  · exact .ok []

theorem itemsOrNone_flaws (v : Json) : FailsBy (Flaw r) (itemsOrNone v) := by
  unfold itemsOrNone items
  split
  · split
    · exact .ok _
    · exact .ok _
    · exact .ok _
    · exact .error (.noItems _)
  · exact .ok []

theorem nested_flaws (fields : OrderedMap Json) (field member fallback : String) :
    FailsBy (Flaw r) (nested fields field member fallback) :=
  (membersOrNone_flaws _).bind fun _ => .ok _

theorem user_flaws (v : Json) : FailsBy (Flaw r) (user v) := by
  unfold user
  split
  · exact .ok none
  · exact (members_flaws v).bind fun _ => .ok _

theorem names_flaws (v : Json) : FailsBy (Flaw r) (names v) :=
  (itemsOrNone_flaws v).bind fun _ => .ok _

theorem resolution_flaws (v : Json) : FailsBy (Flaw r) (resolution v) := by
  unfold resolution
  split
  · exact .ok none
  · exact (members_flaws v).bind fun _ => .ok _

theorem time_flaws (v : Json) : FailsBy (Flaw r) (time r v) := by
  unfold time
  split
  · cases hv : r.instant v with
    | ok t => exact .ok t
    | error failure => exact .error (.reader hv)
  · exact .ok none

/-- A payload is an object with a key and the times of creation and update, and these are its fields. -/
structure Dated (r : Reader) (raw : Json) (fields : OrderedMap Json) : Prop where
  top : ∃ top, raw = .object top ∧ membersOrNone (Json.member top "fields") = .ok fields ∧
    (Json.member top "key").isTruthy = true
  created : ∃ t, time r (Json.member fields "created") = .ok (some t)
  updated : ∃ t, time r (Json.member fields "updated") = .ok (some t)

theorem issue_of_dated {raw : Json} {fields : OrderedMap Json} (h : Dated r raw fields) :
    ∃ rest : Option String → Outcome RawIssue, (∀ text, FailsBy (Flaw r) (rest text)) ∧
      ∀ room, issue r room raw = description room (Json.member fields "description") >>= rest := by
  -- `rest` is all that is read after the description, and nothing of it asks for room.
  obtain ⟨⟨top, rfl, hfields, hkey⟩, ⟨created, hcreated⟩, ⟨updated, hupdated⟩⟩ := h
  apply Exists.intro
  apply And.intro
  case right =>
    intro room
    unfold issue
    simp only [members, hfields, hcreated, hupdated, hkey, bind, Except.bind]
    rfl
  case left =>
    intro text
    refine (nested_flaws _ _ _ _).bind fun status => (nested_flaws _ _ _ _).bind fun priority => ?_
    refine (nested_flaws _ _ _ _).bind fun issueType => (user_flaws _).bind fun assignee => ?_
    refine (user_flaws _).bind fun reporter => (nested_flaws _ _ _ _).bind fun project => ?_
    refine (time_flaws _).bind fun resolved => (resolution_flaws _).bind fun resolution => ?_
    refine (itemsOrNone_flaws _).bind fun labels => (names_flaws _).bind fun components => ?_
    exact (names_flaws _).bind fun fixVersions => .ok _

theorem issue_of_not_dated {raw : Json} (h : ∀ fields, ¬Dated r raw fields) :
    ∃ fault, Flaw r fault ∧ ∀ room, issue r room raw = .error fault := by
  cases raw with
  | object top =>
    cases hfields : membersOrNone (Json.member top "fields") with
    | error fault =>
      refine ⟨fault, membersOrNone_flaws _ _ hfields, fun room => ?_⟩
      simp only [issue, members, hfields, bind, Except.bind]
    | ok fields =>
      cases hcreated : time r (Json.member fields "created") with
      | error fault =>
        refine ⟨fault, time_flaws _ _ hcreated, fun room => ?_⟩
        simp only [issue, members, hfields, hcreated, bind, Except.bind]
      | ok created =>
        cases hupdated : time r (Json.member fields "updated") with
        | error fault =>
          refine ⟨fault, time_flaws _ _ hupdated, fun room => ?_⟩
          simp only [issue, members, hfields, hcreated, hupdated, bind, Except.bind]
        | ok updated =>
          refine ⟨_, .incomplete (if (Json.member top "key").isTruthy then (Json.member top "key").asText
            else "<no key>"), fun room => ?_⟩
          simp only [issue, members, hfields, hcreated, hupdated, bind, Except.bind]
          cases created with
          | none => rfl
          | some created =>
            cases updated with
            | none => rfl
            | some updated =>
              cases hkey : (Json.member top "key").isTruthy with
              | false => rfl
              | true => exact absurd ⟨⟨top, rfl, hfields, hkey⟩, ⟨created, hcreated⟩, ⟨updated, hupdated⟩⟩ (h fields)
  | _ => exact ⟨_, .noMembers _, fun _ => rfl⟩

theorem description_eq (room : Nat) (v : Json) :
    description room v = Document.needing (frames v) room
      (if (Document.flatten v).isEmpty then none else some (Document.flatten v)) := by
  rw [description, Document.flattenWithin_eq, Document.needing_bind, Document.needing]
  rfl

theorem issue_stackOverflow_iff {room : Nat} {raw : Json} :
    issue r room raw = .error .stackOverflow ↔
      ∃ fields, Dated r raw fields ∧ room < frames (Json.member fields "description") := by
  constructor
  · intro h
    by_cases hdated : ∃ fields, Dated r raw fields
    · obtain ⟨fields, hfields⟩ := hdated
      obtain ⟨rest, hflaws, hissue⟩ := issue_of_dated hfields
      rw [hissue, description_eq, Outcome.bind_eq_error_iff, Document.needing_eq_error_iff] at h
      rcases h with h | ⟨text, -, h⟩
      · exact ⟨fields, hfields, h⟩
      · cases hflaws text _ h
    · obtain ⟨fault, hflaw, hissue⟩ := issue_of_not_dated (not_exists.mp hdated)
      obtain rfl := Except.error.inj ((hissue room).symm.trans h)
      cases hflaw
  · rintro ⟨fields, hfields, hroom⟩
    obtain ⟨rest, -, hissue⟩ := issue_of_dated hfields
    rw [hissue, description_eq, Document.needing_eq_error_iff.mpr hroom]
    rfl

theorem issue_flaws (room : Nat) (raw : Json) :
    FailsBy (fun fault => Flaw r fault ∨ fault = .stackOverflow) (issue r room raw) := by
  by_cases hdated : ∃ fields, Dated r raw fields
  · obtain ⟨fields, hfields⟩ := hdated
    obtain ⟨rest, hflaws, hissue⟩ := issue_of_dated hfields
    rw [hissue, description_eq, Document.needing_bind]
    split
    · exact (hflaws _).imp fun _ => .inl
    · exact .error (.inr rfl)
  · obtain ⟨fault, hflaw, hissue⟩ := issue_of_not_dated (not_exists.mp hdated)
    rw [hissue]
    exact .error (.inl hflaw)

theorem issue_of_le {room more : Nat} (hle : room ≤ more) {raw : Json}
    (h : issue r room raw ≠ .error .stackOverflow) : issue r more raw = issue r room raw := by
  by_cases hdated : ∃ fields, Dated r raw fields
  · obtain ⟨fields, hfields⟩ := hdated
    obtain ⟨rest, -, hissue⟩ := issue_of_dated hfields
    have hroom : frames (Json.member fields "description") ≤ room := by
      by_contra hlack
      exact h (issue_stackOverflow_iff.mpr ⟨fields, hfields, Nat.not_le.mp hlack⟩)
    rw [hissue, hissue, description_eq, description_eq, Document.needing_eq_ok hroom,
      Document.needing_eq_ok (Nat.le_trans hroom hle)]
  · obtain ⟨fault, -, hissue⟩ := issue_of_not_dated (not_exists.mp hdated)
    rw [hissue, hissue]

end IssueQuery.IssuePayload

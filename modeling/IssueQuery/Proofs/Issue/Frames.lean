import IssueQuery.Issue.Document
import Mathlib.Tactic.SplitIfs

namespace IssueQuery.Document

mutual

/-- The frames that the plain text of a document takes on the stack. -/
def frames : Json → Nat
  | .object members => max objectFrames (1 + max (ownFrames members) (framesOfContent members))
  | .list items => listFrames + framesOfItems items
  | v => leafFrames v

def framesOfItems : List Json → Nat
  | [] => 0
  | v :: vs => max (frames v) (framesOfItems vs)

def framesOfContent : List (String × Json) → Nat
  | [] => 0
  | ("content", .list items) :: _ => framesOfItems items
  | (name, _) :: rest => if name == "content" then 0 else framesOfContent rest

end

/-- What takes some frames, and cannot be done with fewer. -/
def needing {α : Type} (frames room : Nat) (a : α) : Outcome α :=
  if frames ≤ room then .ok a else .error .stackOverflow

section Needing

variable {α β : Type} {frames room : Nat} {a : α}

theorem take_bind (frames room : Nat) (x : Outcome α) :
    (take frames room >>= fun _ => x) = if frames ≤ room then x else .error .stackOverflow := by
  unfold take
  split <;> rfl

theorem needing_bind (f : α → Outcome β) :
    (needing frames room a >>= f) = if frames ≤ room then f a else .error .stackOverflow := by
  unfold needing
  split <;> rfl

theorem needing_eq_ok (h : frames ≤ room) : needing frames room a = .ok a :=
  if_pos h

theorem needing_eq_error_iff : needing frames room a = .error .stackOverflow ↔ room < frames := by
  unfold needing
  split
  · simp_all
  · simp_all

end Needing

mutual

theorem flattenWithin_eq : ∀ (room : Nat) (v : Json), flattenWithin room v = needing (frames v) room (flatten v)
  | room, .object members => by
    rw [flattenWithin, flattenContentWithin_eq (room - 1) members, take_bind, take_bind, needing_bind, needing,
      frames, objectFrames, flatten]
    split_ifs <;> first | rfl | omega
  | room, .list items => by
    rw [flattenWithin, flattenItemsWithin_eq (room - listFrames) items, take_bind, needing_bind, needing, frames,
      flatten]
    split_ifs <;> first | rfl | omega
  | room, .null => take_bind _ room _
  | room, .bool b => take_bind _ room _
  | room, .int n => take_bind _ room _
  | room, .float x => take_bind _ room _
  | room, .text s => take_bind _ room _

theorem flattenItemsWithin_eq : ∀ (room : Nat) (items : List Json),
    flattenItemsWithin room items = needing (framesOfItems items) room (flattenItems items)
  | room, [] => rfl
  | room, v :: vs => by
    rw [flattenItemsWithin, flattenWithin_eq room v, flattenItemsWithin_eq room vs, needing_bind, needing_bind,
      needing, framesOfItems, flattenItems]
    split_ifs <;> first | rfl | omega

theorem flattenContentWithin_eq : ∀ (room : Nat) (members : List (String × Json)),
    flattenContentWithin room members = needing (framesOfContent members) room (flattenContent members)
  | room, [] => rfl
  | room, (name, v) :: rest => by
    by_cases hname : name = "content"
    · subst hname
      cases v with
      | list items => exact flattenItemsWithin_eq room items
      | _ => rfl
    · simp [flattenContentWithin, framesOfContent, flattenContent, hname, flattenContentWithin_eq room rest]

end

end IssueQuery.Document

import IssueQuery.Issue.Document
import Mathlib.Data.List.Basic

namespace IssueQuery.Document

open Text

section Nodes

mutual

def nodes : Json → List Json
  | .list items => .list items :: nodesOf items
  | .object members => .object members :: nodesOfContent members
  | v => [v]

def nodesOf : List Json → List Json
  | [] => []
  | v :: vs => nodes v ++ nodesOf vs

def nodesOfContent : List (String × Json) → List Json
  | [] => []
  | ("content", .list items) :: _ => nodesOf items
  | (name, _) :: rest => if name == "content" then [] else nodesOfContent rest

end

def nodeText? (members : OrderedMap Json) : Option String :=
  match members.get? "type" with
  | some (.text kind) => if kind = "text" then (members.get? "text").map Json.asText else none
  | _ => none

def leafText? : Json → Option String
  | .null => none
  | .list _ => none
  | .text s => some (strip s)
  | .object members => nodeText? members
  | v => some v.asText

def leafTexts (body : Json) : List String :=
  (nodes body).filterMap leafText?

def hasContent (members : OrderedMap Json) : Bool :=
  match members.get? "content" with
  | some (.list _) => true
  | _ => false

/-- A text node with an empty text and a list for its content. -/
def isHollow : Json → Bool
  | .object members => nodeText? members == some "" && hasContent members
  | _ => false

end Nodes

def beside (s t : String) : String :=
  if s = "" then t else if t = "" then s else s ++ " " ++ t

section Joining

variable {xs ys : List String}

theorem isPresent_iff {s : String} : isPresent s = true ↔ s ≠ "" := by
  simp [isPresent]

theorem join_eq_empty_iff (h : ∀ s ∈ xs, isPresent s = true) : join " " xs = "" ↔ xs = [] := by
  constructor
  · cases xs with
    | nil => exact fun _ => rfl
    | cons s xs =>
      intro hjoin
      have hs : s ≠ "" := isPresent_iff.mp (h s List.mem_cons_self)
      cases xs with
      | nil => exact absurd (String.intercalate_singleton.symm.trans hjoin) hs
      | cons t xs =>
        rw [join, String.intercalate_cons_cons] at hjoin
        simp at hjoin
  · rintro rfl
    exact String.intercalate_nil

theorem join_append (hx : ∀ s ∈ xs, isPresent s = true) (hy : ∀ s ∈ ys, isPresent s = true) :
    join " " (xs ++ ys) = beside (join " " xs) (join " " ys) := by
  unfold beside
  split
  · rename_i h
    rw [(join_eq_empty_iff hx).mp h, List.nil_append]
  · rename_i h
    split
    · rename_i h'
      rw [(join_eq_empty_iff hy).mp h', List.append_nil]
    · rename_i h'
      exact String.intercalate_append_of_ne_nil (mt (join_eq_empty_iff hx).mpr h) (mt (join_eq_empty_iff hy).mpr h')

def presentTexts (nodes : List Json) : List String :=
  (nodes.filterMap leafText?).filter isPresent

theorem isPresent_of_mem_presentTexts {nodes : List Json} : ∀ s ∈ presentTexts nodes, isPresent s = true :=
  fun _ hs => (List.mem_filter.mp hs).2

theorem join_presentTexts_append (vs ws : List Json) :
    join " " (presentTexts (vs ++ ws)) = beside (join " " (presentTexts vs)) (join " " (presentTexts ws)) := by
  rw [presentTexts, List.filterMap_append, List.filter_append]
  exact join_append isPresent_of_mem_presentTexts isPresent_of_mem_presentTexts

theorem join_presentTexts_singleton (v : Json) : join " " (presentTexts [v]) = (leafText? v).getD "" := by
  cases h : leafText? v with
  | none => simp [presentTexts, h, join]
  | some s =>
    by_cases hs : s = ""
    · simp [presentTexts, h, hs, isPresent, join]
    · have hpresent : isPresent s = true := isPresent_iff.mpr hs
      simp [presentTexts, h, hpresent, join]

theorem join_presentTexts_cons (v : Json) (vs : List Json) :
    join " " (presentTexts (v :: vs)) = beside ((leafText? v).getD "") (join " " (presentTexts vs)) := by
  rw [← List.singleton_append, join_presentTexts_append, join_presentTexts_singleton]

end Joining

section Items

theorem flattenItems_cons (v : Json) (vs : List Json) :
    flattenItems (v :: vs) = (if isPresent (flatten v) then [flatten v] else []) ++ flattenItems vs := by
  rw [flattenItems]
  split <;> rfl

theorem isPresent_of_mem_flattenItems {items : List Json} : ∀ s ∈ flattenItems items, isPresent s = true := by
  induction items with
  | nil => simp [flattenItems]
  | cons v vs ih =>
    intro s hs
    rw [flattenItems_cons, List.mem_append] at hs
    rcases hs with hs | hs
    · split at hs
      · rename_i hv
        rwa [List.mem_singleton.mp hs]
      · cases hs
    · exact ih s hs

theorem join_flattenItems_append (xs ys : List Json) : join " " (flattenItems (xs ++ ys)) =
    beside (join " " (flattenItems xs)) (join " " (flattenItems ys)) := by
  have happend : flattenItems (xs ++ ys) = flattenItems xs ++ flattenItems ys := by
    induction xs with
    | nil => simp [flattenItems]
    | cons v xs ih => rw [List.cons_append, flattenItems_cons, flattenItems_cons, ih, List.append_assoc]
  rw [happend]
  exact join_append isPresent_of_mem_flattenItems isPresent_of_mem_flattenItems

theorem join_flattenItems_cons (v : Json) (vs : List Json) :
    join " " (flattenItems (v :: vs)) = beside (flatten v) (join " " (flattenItems vs)) := by
  rw [← List.singleton_append, join_flattenItems_append]
  congr 1
  rw [flattenItems_cons, flattenItems, List.append_nil]
  split
  · exact String.intercalate_singleton
  · rename_i h
    rw [isPresent_iff, not_not] at h
    rw [h]
    exact String.intercalate_nil

end Items

section Content

theorem flattenContent_cons (name : String) (v : Json) (rest : List (String × Json)) :
    flattenContent ((name, v) :: rest) =
      if name = "content" then (match v with | .list items => flattenItems items | _ => [])
      else flattenContent rest := by
  by_cases h : name = "content"
  · subst h
    cases v <;> simp [flattenContent]
  · simp [flattenContent, h]

theorem nodesOfContent_cons (name : String) (v : Json) (rest : List (String × Json)) :
    nodesOfContent ((name, v) :: rest) =
      if name = "content" then (match v with | .list items => nodesOf items | _ => []) else nodesOfContent rest := by
  by_cases h : name = "content"
  · subst h
    cases v <;> simp [nodesOfContent]
  · simp [nodesOfContent, h]

theorem isPresent_of_mem_flattenContent {members : OrderedMap Json} :
    ∀ s ∈ flattenContent members, isPresent s = true := by
  induction members with
  | nil => simp [flattenContent]
  | cons e members ih =>
    obtain ⟨name, v⟩ := e
    rw [flattenContent_cons]
    split
    · cases v with
      | list items => exact isPresent_of_mem_flattenItems
      | _ => simp
    · exact ih

theorem content_of_not_hasContent {members : OrderedMap Json} (h : hasContent members = false) :
    flattenContent members = [] ∧ nodesOfContent members = [] := by
  induction members with
  | nil => exact ⟨rfl, rfl⟩
  | cons e members ih =>
    obtain ⟨name, v⟩ := e
    rw [flattenContent_cons, nodesOfContent_cons]
    rw [hasContent, OrderedMap.get?_cons] at h
    by_cases hname : name = "content"
    · rw [if_pos (by simpa using hname)] at h
      cases v <;> simp_all
    · rw [if_neg (by simpa using hname)] at h
      rw [if_neg hname, if_neg hname]
      exact ih h

theorem ownText_eq (members : OrderedMap Json) : ownText members = (nodeText? members).toList := by
  simp only [ownText, nodeText?, Json.member]
  cases members.get? "type" with
  | none => rfl
  | some kind =>
    cases members.get? "text" with
    | none => cases kind <;> simp
    | some v =>
      cases kind with
      | text name => by_cases h : name = "text" <;> simp [h]
      | _ => rfl

end Content

mutual

theorem flatten_eq : ∀ body, (∀ v ∈ nodes body, isHollow v = false) →
    flatten body = join " " (presentTexts (nodes body))
  | .null, _ => (join_presentTexts_singleton .null).symm
  | .bool b, _ => (join_presentTexts_singleton (.bool b)).symm
  | .int n, _ => (join_presentTexts_singleton (.int n)).symm
  | .float x, _ => (join_presentTexts_singleton (.float x)).symm
  | .text s, _ => (join_presentTexts_singleton (.text s)).symm
  | .list items, h => by
    rw [nodes, List.forall_mem_cons] at h
    rw [flatten, nodes, join_presentTexts_cons, leafText?, join_flattenItems items h.2]
    rfl
  | .object members, h => by
    rw [nodes, List.forall_mem_cons] at h
    rw [flatten, nodes, join_presentTexts_cons, leafText?, ownText_eq, ← join_flattenContent members h.2]
    cases htext : nodeText? members with
    | none => rfl
    | some s =>
      rw [Option.toList_some, Option.getD_some]
      by_cases hs : s = ""
      · -- The blank after an empty text is not written where nothing follows it.
        subst hs
        have hnone : hasContent members = false := by simpa [isHollow, htext] using h.1
        rw [(content_of_not_hasContent hnone).1]
        rfl
      · have hsingle : ∀ t ∈ [s], isPresent t = true := by simpa [isPresent_iff] using hs
        rw [join_append hsingle isPresent_of_mem_flattenContent]
        exact congrArg (beside · _) String.intercalate_singleton

theorem join_flattenItems : ∀ items, (∀ v ∈ nodesOf items, isHollow v = false) →
    join " " (flattenItems items) = join " " (presentTexts (nodesOf items))
  | [], _ => by rw [flattenItems, nodesOf]; rfl
  | v :: vs, h => by
    rw [nodesOf, List.forall_mem_append] at h
    rw [join_flattenItems_cons, nodesOf, join_presentTexts_append, flatten_eq v h.1, join_flattenItems vs h.2]

theorem join_flattenContent : ∀ members, (∀ v ∈ nodesOfContent members, isHollow v = false) →
    join " " (flattenContent members) = join " " (presentTexts (nodesOfContent members))
  | [], _ => by rw [flattenContent, nodesOfContent]; rfl
  | (name, v) :: rest, h => by
    rw [nodesOfContent_cons] at h
    rw [flattenContent_cons, nodesOfContent_cons]
    by_cases hname : name = "content"
    · rw [if_pos hname] at h
      rw [if_pos hname, if_pos hname]
      cases v with
      | list items => exact join_flattenItems items h
      | _ => rfl
    · rw [if_neg hname] at h
      rw [if_neg hname, if_neg hname]
      exact join_flattenContent rest h

end

/-- The text of a document without hollow nodes is that of its leaves in document order, joined by single blanks, and
the texts of two lists of nodes are joined as if they were one. -/
theorem flatten_keeps_texts :
    (∀ body, (∀ v ∈ nodes body, isHollow v = false) →
      flatten body = join " " ((leafTexts body).filter isPresent)) ∧
    ∀ xs ys, flatten (.list (xs ++ ys)) = beside (flatten (.list xs)) (flatten (.list ys)) := by
  refine ⟨flatten_eq, fun xs ys => ?_⟩
  rw [flatten, flatten, flatten]
  exact join_flattenItems_append xs ys

def report : Json :=
  .object [("type", .text "doc"), ("content", .list [
    .object [("type", .text "paragraph"), ("content", .list [
      .object [("type", .text "text"), ("text", .text "Fails")],
      .object [("type", .text "text"), ("text", .text ""), ("content", .null)],
      .object [("type", .text "text"), ("text", .text "on"), ("content", .list [.text " save ", .null, .list []])]])],
    .object [("type", .text "rule"), ("text", .text "unseen"), ("content", .text "unseen")],
    .text "  ", .int 3])]

theorem flatten_keeps_texts_report :
    (∀ v ∈ nodes report, isHollow v = false) ∧ leafTexts report = ["Fails", "", "on", "save", "", "3"] ∧
      flatten report = "Fails on save 3" := by
  have hnodes : ∀ v ∈ nodes report, isHollow v = false := by decide +kernel
  have htexts : leafTexts report = ["Fails", "", "on", "save", "", "3"] := by decide +kernel
  refine ⟨hnodes, htexts, ?_⟩
  rw [flatten_keeps_texts.1 report hnodes, htexts]
  decide +kernel

end IssueQuery.Document

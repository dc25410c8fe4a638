import IssueQuery.Proofs.Query.Quoting

namespace IssueQuery

open Text

namespace Comparison

def quoted : Comparison → List String
  | mine | unassigned | lastDays .. => []
  | assignedTo s | equals _ s | mentions s => [s]
  | oneOf _ vs => vs
  | notBefore _ d | notAfter _ d => [d.shortIso]

def days : Comparison → List Int
  | lastDays _ n => [n]
  | _ => []

end Comparison

namespace Query

def keywords : List String :=
  ["assignee", "project", "status", "type", "priority", "labels", "component", "created", "updated", "text",
    " = ", " >= ", " <= ", " ~ ", " IN ", " is EMPTY", "currentUser", "-", "d", " AND ", ", ", " ", "ORDER BY ",
    "ASC", "DESC"]

def IsWord (numbers : List Int) (w : List Char) : Prop :=
  w ∈ keywords.map String.toList ∨ ∃ n ∈ numbers, w = (toString n).toList

theorem keywords_bare : ∀ w ∈ keywords.map String.toList, '"' ∉ w ∧ '(' ∉ w ∧ ')' ∉ w := by
  decide

theorem isWord_bare (numbers : List Int) : Bare (IsWord numbers) := by
  intro w hw
  rcases hw with hw | ⟨n, -, rfl⟩
  · exact keywords_bare w hw
  · have hn {c : Char} (hc : c ∈ (toString n).toList) : c = '-' ∨ c.isDigit = true := Number.mem_toString_int hc
    refine ⟨fun hc => ?_, fun hc => ?_, fun hc => ?_⟩
    all_goals exact absurd (hn hc) (by decide)

end Query

namespace Composed

open Query (IsWord keywords)

variable {word : List Char → Prop} {numbers : List Int}

theorem keyword {s : String} (h : s ∈ keywords) : Composed (IsWord numbers) [] s.toList :=
  .word (.inl (List.mem_map_of_mem h))

theorem join {α : Type} {text : α → String} {values : α → List String} {sep : String}
    (hs : Composed word [] sep.toList) {xs : List α} (h : ∀ x ∈ xs, Composed word (values x) (text x).toList) :
    Composed word (xs.flatMap values) (Text.join sep (xs.map text)).toList := by
  have further (xs : List α) (h : ∀ x ∈ xs, Composed word (values x) (text x).toList) :
      Composed word (xs.flatMap values) ((xs.map text).flatMap fun t => sep.toList ++ t.toList) := by
    induction xs with
    | nil => exact .nil
    | cons x xs ih =>
      rw [List.forall_mem_cons] at h
      exact (hs.append h.1).append (ih h.2)
  cases xs with
  | nil => exact .nil
  | cons x xs =>
    rw [List.forall_mem_cons] at h
    rw [List.map_cons, toList_join_cons]
    exact h.1.append (further xs h.2)

theorem quotes {vs : List String} (h : ∀ v ∈ vs, '"' ∉ v.toList) :
    Composed (IsWord numbers) vs (Text.join ", " (vs.map Clause.quote)).toList := by
  have hsep : Composed (IsWord numbers) [] ", ".toList := keyword (by decide)
  have hj : Composed (IsWord numbers) (vs.flatMap fun v => [v]) (Text.join ", " (vs.map Clause.quote)).toList :=
    hsep.join fun v hv => .value (h v hv)
  rwa [List.flatMap_singleton'] at hj

theorem matchField (f : MatchField) : Composed (IsWord numbers) [] f.name.toList :=
  keyword (by cases f <;> decide)

theorem timeField (f : TimeField) : Composed (IsWord numbers) [] f.name.toList :=
  keyword (by cases f <;> decide)

theorem stated {name sign v : String} (hname : Composed (IsWord numbers) [] name.toList) (hsign : sign ∈ keywords)
    (hv : '"' ∉ v.toList) : Composed (IsWord numbers) [v] (name ++ sign ++ Clause.quote v).toList := by
  have h := (hname.append (keyword hsign)).append (.value hv)
  simpa using h

theorem comparison {c : Comparison} (hq : c.Unquoted) (hd : ∀ n ∈ c.days, n ∈ numbers) :
    Composed (IsWord numbers) c.quoted c.text.toList := by
  have keyword {s : String} (h : s ∈ keywords) : Composed (IsWord numbers) [] s.toList := .keyword h
  cases c with
  | mine =>
    have hname := ((keyword (s := "assignee") (by decide)).append (keyword (s := " = ") (by decide))).append
      (keyword (s := "currentUser") (by decide))
    exact hname.append (.group .nil)
  | unassigned => exact (keyword (s := "assignee") (by decide)).append (keyword (s := " is EMPTY") (by decide))
  | assignedTo name =>
    have hname : "assignee = " = "assignee" ++ " = " := rfl
    rw [Comparison.text, hname]
    exact stated (keyword (by decide)) (by decide) hq
  | equals f v => exact stated (matchField f) (by decide) hq
  | oneOf f vs =>
    have h := ((matchField f).append (keyword (s := " IN ") (by decide))).append (.group (.quotes hq))
    simpa [Comparison.text, Comparison.quoted] using h
  | lastDays f n =>
    have hn : Composed (IsWord numbers) [] (toString n).toList :=
      .word (.inr ⟨n, hd n (by simp [Comparison.days]), rfl⟩)
    have h := ((((timeField f).append (keyword (s := " >= ") (by decide))).append
      (keyword (s := "-") (by decide))).append hn).append (keyword (s := "d") (by decide))
    simpa [Comparison.text, Comparison.quoted] using h
  | notBefore f d => exact stated (timeField f) (by decide) (Comparison.not_mem_shortIso d)
  | notAfter f d => exact stated (timeField f) (by decide) (Comparison.not_mem_shortIso d)
  | mentions s =>
    have hname : "text ~ " = "text" ++ " ~ " := rfl
    rw [Comparison.text, hname]
    exact stated (keyword (by decide)) (by decide) hq

def Fits (numbers : List Int) (c : Comparison) : Prop :=
  c.Unquoted ∧ ∀ n ∈ c.days, n ∈ numbers

theorem allOf {cs : List Comparison} (h : ∀ c ∈ cs, Fits numbers c) {w : String}
    (hw : Comparison.allOf cs = some w) : Composed (IsWord numbers) (cs.flatMap Comparison.quoted) w.toList := by
  have hand : Composed (IsWord numbers) [] " AND ".toList := keyword (by decide)
  cases cs with
  | nil => cases hw
  | cons c cs =>
    obtain rfl := Option.some.inj hw
    exact hand.join fun c hc => comparison (h c hc).1 (h c hc).2

theorem foldl_and {parts : List (List Comparison)} (h : ∀ cs ∈ parts, ∀ c ∈ cs, Fits numbers c)
    {vs : List String} {acc : String} (ha : Composed (IsWord numbers) vs acc.toList) :
    Composed (IsWord numbers) (vs ++ parts.flatten.flatMap Comparison.quoted)
      ((parts.filterMap Comparison.allOf).foldl (fun acc w => "(" ++ acc ++ ") AND (" ++ w ++ ")") acc).toList := by
  induction parts generalizing vs acc with
  | nil => simpa using ha
  | cons cs parts ih =>
    rw [List.forall_mem_cons] at h
    cases cs with
    | nil => exact ih h.2 ha
    | cons c cs =>
      obtain ⟨w, hw, -⟩ := Comparison.allOf_cons c cs
      have hboth := (ha.group.append (keyword (s := " AND ") (by decide))).append (allOf h.1 hw).group
      rw [List.flatten_cons, List.flatMap_append, ← List.append_assoc, List.filterMap_cons, hw]
      apply ih h.2
      simpa using hboth

theorem conjunction {parts : List (List Comparison)} (h : ∀ cs ∈ parts, ∀ c ∈ cs, Fits numbers c) {w : String}
    (hw : Fragment.conjunction (parts.filterMap Comparison.allOf) = some w) :
    Composed (IsWord numbers) (parts.flatten.flatMap Comparison.quoted) w.toList := by
  -- The first clause with comparisons starts the fold; those before it leave no trace.
  induction parts with
  | nil => cases hw
  | cons cs parts ih =>
    rw [List.forall_mem_cons] at h
    cases cs with
    | nil => exact ih h.2 hw
    | cons c cs =>
      obtain ⟨v, hv, -⟩ := Comparison.allOf_cons c cs
      rw [List.filterMap_cons, hv] at hw
      obtain rfl := Option.some.inj hw
      rw [List.flatten_cons, List.flatMap_append]
      exact foldl_and h.2 (allOf h.1 hv)

theorem render {vs : List String} {condition order : Option String}
    (hc : ∀ w ∈ condition, Composed (IsWord numbers) vs w.toList) (hn : condition = none → vs = [])
    (ho : ∀ w ∈ order, Composed (IsWord numbers) [] w.toList) :
    Composed (IsWord numbers) vs (Query.render ⟨condition, order⟩).toList := by
  have hempty : Clause.present condition = none → Composed (IsWord numbers) vs [] := by
    intro hp
    cases condition with
    | none =>
      rw [hn rfl]
      exact .nil
    | some w =>
      obtain rfl : w = "" := by simpa [Clause.present, Option.filter_eq_none_iff] using hp
      exact hc "" rfl
  have horder : ∀ w ∈ (Clause.present order).map ("ORDER BY " ++ ·), Composed (IsWord numbers) [] w.toList := by
    intro w hw
    obtain ⟨o, hp, rfl⟩ := Option.map_eq_some_iff.mp hw
    have h := (keyword (s := "ORDER BY ") (by decide)).append (ho o (mem_of_present hp))
    simpa using h
  rw [Query.render]
  dsimp only
  split
  · rename_i a b hp hb
    have ha := hc a (mem_of_present hp)
    have h := (ha.append (keyword (s := " ") (by decide))).append (horder b hb)
    simpa using h
  · rename_i a hp hb
    exact hc a (mem_of_present hp)
  · rename_i hp
    cases hb : (Clause.present order).map ("ORDER BY " ++ ·) with
    | none => exact hempty hp
    | some b => simpa using (hempty hp).append (horder b hb)

end Composed

theorem Query.composed_compile {i : Intent} {numbers : List Int}
    (h : ∀ cs ∈ i.canonical.parts, ∀ c ∈ cs, Composed.Fits numbers c)
    (ho : ∀ order ∈ i.canonical.order, Composed (IsWord numbers) [] order.toList) :
    Composed (IsWord numbers) (i.canonical.parts.flatten.flatMap Comparison.quoted) (compile i).text.toList := by
  rw [compile_eq_query]
  apply Composed.render
  · exact fun w hw => Composed.conjunction h hw
  · intro hnone
    rw [flatten_eq_nil hnone]
    rfl
  · exact ho

end IssueQuery

import IssueQuery.Proofs.Text.Pieces
import IssueQuery.Query.Clause

namespace IssueQuery

open Text
open Calendar (Date)

def MatchField.name : MatchField → String
  | .project => "project"
  | .status => "status"
  | .type => "type"
  | .priority => "priority"
  | .labels => "labels"
  | .component => "component"

def MatchField.all : List MatchField :=
  [.project, .status, .type, .priority, .labels, .component]

def TimeField.name : TimeField → String
  | .created => "created"
  | .updated => "updated"

def TimeField.all : List TimeField :=
  [.created, .updated]

inductive Comparison where
  | mine
  | unassigned
  | assignedTo (name : String)
  | equals (field : MatchField) (value : String)
  | oneOf (field : MatchField) (values : List String)
  | lastDays (field : TimeField) (days : Int)
  | notBefore (field : TimeField) (day : Date)
  | notAfter (field : TimeField) (day : Date)
  | mentions (text : String)
  deriving Repr, DecidableEq

namespace Comparison

def text : Comparison → String
  | mine => "assignee = currentUser()"
  | unassigned => "assignee is EMPTY"
  | assignedTo name => "assignee = " ++ Clause.quote name
  | equals f v => f.name ++ " = " ++ Clause.quote v
  | oneOf f vs => f.name ++ " IN (" ++ join ", " (vs.map Clause.quote) ++ ")"
  | lastDays f n => f.name ++ " >= -" ++ toString n ++ "d"
  | notBefore f d => f.name ++ " >= " ++ Clause.quote d.shortIso
  | notAfter f d => f.name ++ " <= " ++ Clause.quote d.shortIso
  | mentions s => "text ~ " ++ Clause.quote s

def Unquoted : Comparison → Prop
  | assignedTo s | equals _ s | mentions s => '"' ∉ s.toList
  | oneOf _ vs => ∀ v ∈ vs, '"' ∉ v.toList
  | _ => True

def readValues? : Bool → List Char → Option (List (List Char) × List Char)
  | _, [] => none
  | true, c :: cs =>
    if c == '"' then (readValues? false cs).map fun (vs, rest) => ([] :: vs, rest)
    else (readValues? true cs).map fun (vs, rest) =>
      match vs with
      | [] => ([[c]], rest)
      | v :: vs => ((c :: v) :: vs, rest)
  | false, c :: cs =>
    if c == ')' then some ([], cs) else readValues? (c == '"') cs

def readDay? (cs : List Char) : Option Date :=
  match splitOnChar '-' cs with
  | [y, m, d] => some ⟨Number.asciiValue y, Number.asciiValue m, Number.asciiValue d⟩
  | _ => none

def readQuoted? (make : List Char → Option Comparison) (cs : List Char) :
    Option (Comparison × List Char) := do
  let (value, rest) ← Condition.upTo? '"' cs
  return (← make value, rest)

def readOneOf? (f : MatchField) (cs : List Char) : Option (Comparison × List Char) := do
  let (vs, rest) ← readValues? false cs
  return (oneOf f (vs.map String.ofList), rest)

def readLastDays? (f : TimeField) (cs : List Char) : Option (Comparison × List Char) := do
  let (digits, rest) ← Condition.upTo? 'd' cs
  return (lastDays f (Number.signedValue digits), rest)

def forms : List (String × (List Char → Option (Comparison × List Char))) :=
  [("assignee = currentUser()", fun rest => some (mine, rest)),
    ("assignee is EMPTY", fun rest => some (unassigned, rest)),
    ("assignee = \"", readQuoted? fun v => some (assignedTo (String.ofList v))),
    ("text ~ \"", readQuoted? fun v => some (mentions (String.ofList v)))] ++
  MatchField.all.flatMap (fun f =>
    [(f.name ++ " = \"", readQuoted? fun v => some (equals f (String.ofList v))),
      (f.name ++ " IN (", readOneOf? f)]) ++
  TimeField.all.flatMap (fun f =>
    [(f.name ++ " >= -", readLastDays? f),
      (f.name ++ " >= \"", readQuoted? fun v => (readDay? v).map (notBefore f)),
      (f.name ++ " <= \"", readQuoted? fun v => (readDay? v).map (notAfter f))])

def read? (cs : List Char) : Option (Comparison × List Char) :=
  forms.findSome? fun (start, body) => (dropPrefix? start.toList cs).bind body

theorem readValues?_opened {v : List Char} (h : '"' ∉ v) (cs : List Char) :
    readValues? true (v ++ '"' :: cs) =
      (readValues? false cs).map fun (vs, rest) => (v :: vs, rest) := by
  induction v with
  | nil => simp [readValues?]
  | cons c v ih =>
    rw [List.mem_cons, not_or] at h
    simp [readValues?, Ne.symm h.1, ih h.2, Option.map_map, Function.comp_def]

theorem readValues?_quoted {v : String} (h : '"' ∉ v.toList) (cs : List Char) :
    readValues? false ((Clause.quote v).toList ++ cs) =
      (readValues? false cs).map fun (vs, rest) => (v.toList :: vs, rest) := by
  simpa [Clause.quote, readValues?] using readValues?_opened h cs

theorem readValues?_values (vs : List String) (h : ∀ v ∈ vs, '"' ∉ v.toList) (rest : List Char) :
    readValues? false ((join ", " (vs.map Clause.quote)).toList ++ ')' :: rest) =
      some (vs.map String.toList, rest) := by
  induction vs with
  | nil => simp [join, readValues?]
  | cons v vs ih =>
    have hv := h v (by simp)
    have ih := ih fun w hw => h w (List.mem_cons_of_mem _ hw)
    cases vs with
    | nil => simpa [join, readValues?] using readValues?_quoted hv (')' :: rest)
    | cons w vs =>
      have ht : (join ", " ((v :: w :: vs).map Clause.quote)).toList ++ ')' :: rest =
          (Clause.quote v).toList ++
            (',' :: ' ' :: ((join ", " ((w :: vs).map Clause.quote)).toList ++ ')' :: rest)) := by
        simp [join]
      have hgap (cs : List Char) : readValues? false (',' :: ' ' :: cs) = readValues? false cs := rfl
      rw [ht, readValues?_quoted hv, hgap, ih]
      rfl

theorem readDay?_shortIso (d : Date) : readDay? d.shortIso.toList = some d := by
  have hy : '-' ∉ (toString d.year).toList := fun h => by simpa using Number.isDigit_of_mem_toString h
  have hz (n : Nat) : '-' ∉ (Calendar.padZeros 2 n).toList := fun h => by
    simpa using Calendar.isDigit_of_mem_padZeros h
  have ht : d.shortIso.toList = (toString d.year).toList ++ '-' ::
      ((Calendar.padZeros 2 d.month).toList ++ '-' :: (Calendar.padZeros 2 d.day).toList) := by
    simp [Date.shortIso]
  simp only [readDay?, ht, splitOnChar_append hy, splitOnChar_append (hz _), splitOnChar_of_not_mem (hz _),
    Number.asciiValue_toString, Calendar.asciiValue_padZeros]

theorem not_mem_shortIso (d : Date) : '"' ∉ d.shortIso.toList := by
  intro h
  simp only [Date.shortIso, String.toList_append, List.mem_append] at h
  rcases h with (((h | h) | h) | h) | h
  · simpa using Number.isDigit_of_mem_toString h
  · simp at h
  · simpa using Calendar.isDigit_of_mem_padZeros h
  · simp at h
  · simpa using Calendar.isDigit_of_mem_padZeros h

theorem readLastDays?_text (f : TimeField) (n : Int) (rest : List Char) :
    readLastDays? f ((toString n).toList ++ 'd' :: rest) = some (lastDays f n, rest) := by
  have hd : 'd' ∉ (toString n).toList := fun h => by simpa using Number.mem_toString_int h
  simp only [readLastDays?, Condition.upTo?_append hd, Option.bind_eq_bind, Option.bind_some,
    Number.signedValue_toString]
  rfl

theorem readQuoted?_text {v : List Char} (h : '"' ∉ v) (make : List Char → Option Comparison)
    {c : Comparison} (hm : make v = some c) (rest : List Char) :
    readQuoted? make (v ++ '"' :: rest) = some (c, rest) := by
  simp [readQuoted?, Condition.upTo?_append h, hm]

def Apart (p q : String) : Prop :=
  ¬p.toList <+: q.toList ∧ ¬q.toList <+: p.toList

instance (p q : String) : Decidable (Apart p q) := by unfold Apart; infer_instance

theorem forms_apart : (forms.map (·.1)).Pairwise Apart := by
  decide

theorem dropPrefix?_of_apart {p q : String} (h : Apart p q) (rest : List Char) :
    dropPrefix? p.toList (q.toList ++ rest) = none := by
  cases hd : dropPrefix? p.toList (q.toList ++ rest) with
  | none => rfl
  | some r =>
    have hp : p.toList <+: q.toList ++ rest := ⟨r, (eq_append_of_dropPrefix? hd).symm⟩
    rcases List.prefix_or_prefix_of_prefix hp (List.prefix_append _ _) with h' | h'
    · exact absurd h' h.1
    · exact absurd h' h.2

theorem findSome?_of_apart {table : List (String × (List Char → Option (Comparison × List Char)))}
    (ha : (table.map (·.1)).Pairwise Apart) {start : String}
    {body : List Char → Option (Comparison × List Char)} (hm : (start, body) ∈ table)
    {tail rest : List Char} {c : Comparison} (hb : body tail = some (c, rest)) :
    (table.findSome? fun (s, b) => (dropPrefix? s.toList (start.toList ++ tail)).bind b) =
      some (c, rest) := by
  induction table with
  | nil => simp at hm
  | cons e table ih =>
    rw [List.map_cons, List.pairwise_cons] at ha
    rcases List.mem_cons.mp hm with rfl | hm
    · simp [hb]
    · have he : Apart e.1 start := ha.1 start (List.mem_map_of_mem (f := (·.1)) hm)
      simp [dropPrefix?_of_apart he, ih ha.2 hm]

theorem read?_form (start : String) {body : List Char → Option (Comparison × List Char)}
    (hm : (start, body) ∈ forms) {tail rest : List Char} {c : Comparison}
    (hb : body tail = some (c, rest)) : read? (start.toList ++ tail) = some (c, rest) :=
  findSome?_of_apart forms_apart hm hb

theorem mem_forms_field (f : MatchField) :
    (f.name ++ " = \"", readQuoted? fun v => some (equals f (String.ofList v))) ∈ forms ∧
      (f.name ++ " IN (", readOneOf? f) ∈ forms := by
  cases f <;> simp [forms, MatchField.all]

theorem mem_forms_time (f : TimeField) :
    (f.name ++ " >= -", readLastDays? f) ∈ forms ∧
      (f.name ++ " >= \"", readQuoted? fun v => (readDay? v).map (notBefore f)) ∈ forms ∧
      (f.name ++ " <= \"", readQuoted? fun v => (readDay? v).map (notAfter f)) ∈ forms := by
  cases f <;> simp [forms, TimeField.all]

theorem read?_text {c : Comparison} (h : c.Unquoted) (rest : List Char) :
    read? (c.text.toList ++ rest) = some (c, rest) := by
  cases c with
  | mine =>
    exact @read?_form "assignee = currentUser()" (fun rest => some (mine, rest)) (by simp [forms]) rest _ _ rfl
  | unassigned =>
    exact @read?_form "assignee is EMPTY" (fun rest => some (unassigned, rest)) (by simp [forms]) rest _ _ rfl
  | assignedTo name =>
    have hr := read?_form "assignee = \"" (by simp [forms])
      (readQuoted?_text h (fun v => some (assignedTo (String.ofList v))) rfl rest)
    simpa [text, Clause.quote] using hr
  | equals f v =>
    have hr := read?_form _ (mem_forms_field f).1
      (readQuoted?_text h (fun v => some (equals f (String.ofList v))) rfl rest)
    simpa [text, Clause.quote] using hr
  | oneOf f vs =>
    have hb : readOneOf? f ((join ", " (vs.map Clause.quote)).toList ++ ')' :: rest) =
        some (oneOf f vs, rest) := by
      simp [readOneOf?, readValues?_values vs h]
    have hr := read?_form _ (mem_forms_field f).2 hb
    simpa [text] using hr
  | lastDays f n =>
    have hr := read?_form _ (mem_forms_time f).1 (readLastDays?_text f n rest)
    simpa [text] using hr
  | notBefore f d =>
    have hr := read?_form _ (mem_forms_time f).2.1
      (readQuoted?_text (not_mem_shortIso d) (fun v => (readDay? v).map (notBefore f))
        (by rw [readDay?_shortIso]; rfl) rest)
    simpa [text, Clause.quote] using hr
  | notAfter f d =>
    have hr := read?_form _ (mem_forms_time f).2.2
      (readQuoted?_text (not_mem_shortIso d) (fun v => (readDay? v).map (notAfter f))
        (by rw [readDay?_shortIso]; rfl) rest)
    simpa [text, Clause.quote] using hr
  | mentions s =>
    have hr := read?_form "text ~ \"" (by simp [forms])
      (readQuoted?_text h (fun v => some (mentions (String.ofList v))) rfl rest)
    simpa [text, Clause.quote] using hr

end Comparison

end IssueQuery

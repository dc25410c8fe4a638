import IssueQuery.Yaml.Scalar

/-!
The values of documents. Collections are numbered, since one may occur in several places and even inside
itself; a collection inside itself is shown by dots.
-/

namespace IssueQuery.Yaml

inductive Item where
  | scalar (s : Scalar)
  | collection (id : Nat)
  deriving Inhabited, DecidableEq

inductive Collection where
  | list (items : List Item)
  | map (entries : List (Scalar × Item))
  | pairs (items : List (Item × Item))
  | set (members : List Scalar)
  deriving Inhabited, DecidableEq

def Collection.isEmpty : Collection → Bool
  | .list items => items.isEmpty
  | .map entries => entries.isEmpty
  | .pairs items => items.isEmpty
  | .set members => members.isEmpty

def Collection.kind : Collection → String
  | .list _ | .pairs _ => "list"
  | .map _ => "dict"
  | .set _ => "set"

structure Document where
  collections : Array Collection
  root : Item
  deriving DecidableEq

namespace Document

def empty : Document := ⟨#[], .scalar .null⟩

def collection (d : Document) (id : Nat) : Collection :=
  d.collections[id]?.getD (.list [])

def kind (d : Document) : Item → String
  | .scalar s => s.kind
  | .collection id => (d.collection id).kind

def isTruthy (d : Document) : Item → Bool
  | .scalar s => s.isTruthy
  | .collection id => !(d.collection id).isEmpty

def entries? (d : Document) : Item → Option (List (Scalar × Item))
  | .scalar _ => none
  | .collection id =>
    match d.collection id with
    | .map entries => some entries
    | _ => none

def member? (entries : List (Scalar × Item)) (name : String) : Option Item :=
  (entries.find? fun e => e.1.same (.text name)).map (·.2)

abbrev Part := Nat × Option Nat

def commas (texts : List String) : String :=
  ", ".intercalate texts

mutual

/-- A value inside another; `around` are the collections in which it lies, of which none is shown
again. -/
def quoted (d : Document) (around : List Part) : Nat → Item → Except ReadFault String
  | 0, _ => .error .tooDeep
  | _ + 1, .scalar s => s.quoted
  | fuel + 1, .collection id =>
    let inside := (id, none) :: around
    let again := around.contains (id, none)
    match d.collection id with
    | .list items =>
      if again then .ok "[...]"
      else do return "[" ++ commas (← items.mapM (quoted d inside fuel)) ++ "]"
    | .map entries =>
      if again then .ok "\x7b...\x7d"
      else do
        let texts ← entries.mapM fun (k, v) => do
          return (← k.quoted) ++ ": " ++ (← quoted d inside fuel v)
        return "\x7b" ++ commas texts ++ "\x7d"
    | .pairs items =>
      if again then .ok "[...]"
      else do
        let texts ← items.zipIdx.mapM fun (pair, n) => quotedPair d inside fuel id n pair
        return "[" ++ commas texts ++ "]"
    | .set members =>
      if members.isEmpty then .ok "set()"
      else do return "\x7b" ++ commas (← members.mapM Scalar.quoted) ++ "\x7d"

def quotedPair (d : Document) (around : List Part) :
    Nat → Nat → Nat → Item × Item → Except ReadFault String
  | 0, _, _, _ => .error .tooDeep
  | fuel + 1, id, n, (key, value) =>
    if around.contains (id, some n) then .ok "(...)"
    else do
      let inside := (id, some n) :: around
      return "(" ++ (← quoted d inside fuel key) ++ ", " ++ (← quoted d inside fuel value) ++ ")"

end

def partCount (d : Document) : Nat :=
  d.collections.foldl (fun n c => n + 1 + match c with
    | .pairs items => items.length
    | _ => 0) 1

def asText (d : Document) : Item → Except ReadFault String
  | .scalar s => s.asText
  | v => d.quoted [] (d.partCount + 1) v

def itemTexts? (d : Document) : Item → Option (Except ReadFault (List String))
  | .scalar (.text s) => some (.ok (s.toList.map Char.toString))
  | .scalar (.bytes bs) => some (.ok (bs.map toString))
  | .scalar _ => none
  | .collection id =>
    some (match d.collection id with
      | .list items => items.mapM d.asText
      | .map entries => entries.mapM fun e => e.1.asText
      | .pairs items => items.zipIdx.mapM fun (pair, n) => d.quotedPair [] (d.partCount + 1) id n pair
      | .set members => members.mapM Scalar.asText)

end Document

end IssueQuery.Yaml

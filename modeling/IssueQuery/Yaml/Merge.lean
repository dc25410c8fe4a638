import IssueQuery.Yaml.Node

namespace IssueQuery.Yaml

def Node.withTag (tag : Tag) : Node → Node
  | .scalar _ text => .scalar tag text
  | .list _ items => .list tag items
  | .map _ entries => .map tag entries

def Node.withEntries (entries : List (Nat × Nat)) : Node → Node
  | .map tag _ => .map tag entries
  | n => n

namespace Merge

abbrev Nodes := Array Node

def hasTag (nodes : Nodes) (tag : Tag) (id : Nat) : Bool :=
  nodes[id]?.any (·.tag == tag)

def isMap (nodes : Nodes) (id : Nat) : Bool :=
  match nodes[id]? with
  | some (.map ..) => true
  | _ => false

def entries (nodes : Nodes) (id : Nat) : List (Nat × Nat) :=
  (nodes[id]?.map Node.entries).getD []

def setEntries (nodes : Nodes) (id : Nat) (es : List (Nat × Nat)) : Nodes :=
  nodes.modify id (·.withEntries es)

def takeKey? (nodes : Nodes) (id : Nat) : Option (Nat × Nodes) :=
  let es := entries nodes id
  let before := es.takeWhile fun e => !hasTag nodes .merge e.1
  match es.drop before.length with
  | (_, value) :: after => some (value, setEntries nodes id (before ++ after))
  | [] => none

def plainKeys (nodes : Nodes) (id : Nat) : Nodes :=
  (entries nodes id).foldl
    (fun nodes e => if hasTag nodes .standIn e.1 then nodes.modify e.1 (·.withTag .text) else nodes) nodes

mutual

def resolve (id : Nat) (nodes : Nodes) : Nat → Except ReadFault Nodes
  | 0 => .error .tooDeep
  | fuel + 1 => do
    let (merged, nodes) ← mergedEntries id nodes fuel
    let nodes := plainKeys nodes id
    return setEntries nodes id (merged ++ entries nodes id)
termination_by structural fuel => fuel

/-- The entries that the merge keys of a map give. Every key is taken away before its value is looked
at, so that a map may merge itself. -/
def mergedEntries (id : Nat) (nodes : Nodes) : Nat → Except ReadFault (List (Nat × Nat) × Nodes)
  | 0 => .error .tooDeep
  | fuel + 1 =>
    match takeKey? nodes id with
    | none => .ok ([], nodes)
    | some (value, nodes) => do
      let (first, nodes) ←
        match nodes[value]? with
        | some (.map ..) => fromMaps [value] nodes fuel
        | some (.list _ items) => fromMaps items nodes fuel
        | _ => .error .malformed
      let (more, nodes) ← mergedEntries id nodes fuel
      return (first ++ more, nodes)
termination_by structural fuel => fuel

def fromMaps (ids : List Nat) (nodes : Nodes) : Nat → Except ReadFault (List (Nat × Nat) × Nodes)
  | 0 => .error .tooDeep
  | fuel + 1 =>
    match ids with
    | [] => .ok ([], nodes)
    | id :: ids =>
      if isMap nodes id then do
        let nodes ← resolve id nodes fuel
        let own := entries nodes id
        let (later, nodes) ← fromMaps ids nodes fuel
        return (later ++ own, nodes)
      else .error .malformed
termination_by structural fuel => fuel

end

def bound (nodes : Nodes) : Nat :=
  nodes.foldl (fun n node => n + 4 + match node with
    | .map _ es => 4 * es.length
    | .list _ items => 4 * items.length
    | .scalar .. => 0) 4

end Merge

def resolveMerges (id : Nat) (nodes : Array Node) : Except ReadFault (Array Node) :=
  Merge.resolve id nodes (Merge.bound nodes)

end IssueQuery.Yaml

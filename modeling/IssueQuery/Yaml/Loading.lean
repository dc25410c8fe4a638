import IssueQuery.Yaml.Document
import IssueQuery.Yaml.Merge
import IssueQuery.Yaml.ScalarReading

namespace IssueQuery.Yaml

def put (key : Scalar) (value : Item) : List (Scalar × Item) → List (Scalar × Item)
  | [] => [(key, value)]
  | (k, v) :: rest => if k.same key then (k, value) :: rest else (k, v) :: put key value rest

namespace Document

structure Making where
  nodes : Array Node
  made : Array (Option Item)
  collections : Array Collection
  /-- The collections that are still empty, latest first. -/
  waiting : List Nat

abbrev Make := StateT Making (Except ReadFault)

def scalarText (nodes : Array Node) (id : Nat) : Nat → Except ReadFault (List Char)
  | 0 => .error .tooDeep
  | fuel + 1 =>
    match nodes[id]? with
    | some (.scalar _ text) => .ok text
    | some (.map _ entries) =>
      match entries.find? fun e => Merge.hasTag nodes .standIn e.1 with
      | some (_, value) => scalarText nodes value fuel
      | none => .error .malformed
    | _ => .error .malformed

def scalar (nodes : Array Node) (id : Nat) (node : Node) : Except ReadFault Scalar := do
  let text ← scalarText nodes id (nodes.size + 1)
  match node with
  | .map .time _ => throw .timeOfMembers
  | _ => Scalar.ofText node.tag text

def unfilled? : Tag → Option Collection
  | .list => some (.list [])
  | .map => some (.map [])
  | .pairs => some (.pairs [])
  | .set => some (.set [])
  | _ => none

def item (id : Nat) : Make Item := do
  let m ← get
  match m.made[id]?, m.nodes[id]? with
  | some (some v), _ => return v
  | _, some node =>
    match unfilled? node.tag with
    | some c =>
      set { m with
        made := m.made.setIfInBounds id (some (.collection id))
        collections := m.collections.setIfInBounds id c
        waiting := id :: m.waiting }
      return .collection id
    | none =>
      let s ← scalar m.nodes id node
      set { m with made := m.made.setIfInBounds id (some (.scalar s)) }
      return .scalar s
  | _, none => throw .malformed

def entriesOf (id : Nat) : Make (List (Scalar × Item)) := do
  let m ← get
  let nodes ← resolveMerges id m.nodes
  set { m with nodes }
  (Merge.entries nodes id).foldlM (fun es (key, value) => do
    match ← item key with
    | .scalar k => return put k (← item value) es
    | .collection _ => throw .malformed) []

def pairOf (id : Nat) : Make (Item × Item) := do
  match (← get).nodes[id]? with
  | some (.map _ [(key, value)]) => return (← item key, ← item value)
  | _ => throw .malformed

def content (id : Nat) : Make Collection := do
  match (← get).nodes[id]? with
  | some (.list .list items) => return .list (← items.mapM item)
  | some (.list .pairs items) => return .pairs (← items.mapM pairOf)
  | some (.map .map _) => return .map (← entriesOf id)
  | some (.map .set _) => return .set ((← entriesOf id).map (·.1))
  | _ => throw .malformed

def fill (id : Nat) : Make Unit := do
  let c ← content id
  modify fun m => { m with collections := m.collections.setIfInBounds id c }

def fillAll : Nat → Make Unit
  | 0 => return
  | fuel + 1 => do
    let waiting := (← get).waiting
    if !waiting.isEmpty then
      modify fun m => { m with waiting := [] }
      waiting.reverse.forM fill
      fillAll fuel

def ofGraph (g : Graph) : Except ReadFault Document := do
  let size := g.nodes.size
  let m : Making := ⟨g.nodes, Array.replicate size none, Array.replicate size (.list []), []⟩
  let (root, m) ← (do let root ← item g.root; fillAll (size + 1); return root : Make Item).run m
  return ⟨m.collections, root⟩

def ofText (text : String) : Except ReadFault Document := do
  match ← Graph.ofText text with
  | some g => ofGraph g
  | none => return empty

end Document

end IssueQuery.Yaml

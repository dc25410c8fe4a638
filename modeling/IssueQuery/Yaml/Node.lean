import IssueQuery.Yaml.Layout
import IssueQuery.Yaml.Tag

/-!
Documents as numbered nodes, and how the tokens of a text make them. An alias is the number of the node
that it names, so that nodes may be shared and may contain themselves.
-/

namespace IssueQuery.Yaml

inductive Node where
  | scalar (tag : Tag) (text : List Char)
  | list (tag : Tag) (items : List Nat)
  | map (tag : Tag) (entries : List (Nat × Nat))
  deriving Repr, DecidableEq

def Node.tag : Node → Tag
  | .scalar tag _ | .list tag _ | .map tag _ => tag

def Node.entries : Node → List (Nat × Nat)
  | .map _ entries => entries
  | _ => []

structure Draft where
  tokens : List Token
  stop : ReadFault
  nodes : Array Node
  anchors : List (List Char × Nat)
  handles : List (List Char × List Char)

abbrev Drafting := StateT Draft (Except ReadFault)

/-- So many collections may lie one inside the other. -/
def maxDepth : Nat := 490

namespace Draft

def peek : Drafting Token := do
  let d ← get
  match d.tokens with
  | t :: _ => return t
  | [] => throw d.stop

def pop : Drafting Unit :=
  modify fun d => { d with tokens := d.tokens.drop 1 }

def nextIs (ts : List Token) : Drafting Bool := do
  return ts.contains (← peek)

def pass (t : Token) : Drafting Bool := do
  if (← peek) == t then pop; return true else return false

def expect (t : Token) : Drafting Unit := do
  if !(← pass t) then throw .malformed

def add (anchor : Option (List Char)) (node : Node) : Drafting Nat := do
  let d ← get
  let id := d.nodes.size
  let anchors := match anchor with
    | some name => (name, id) :: d.anchors
    | none => d.anchors
  set { d with nodes := d.nodes.push node, anchors }
  return id

def replace (id : Nat) (node : Node) : Drafting Unit :=
  modify fun d => { d with nodes := d.nodes.setIfInBounds id node }

def omitted : Drafting Nat :=
  add none (.scalar .null [])

def properties : Drafting (Option (List Char) × Option (Option (List Char) × List Char)) := do
  match ← peek with
  | .anchor name => do
    pop
    match ← peek with
    | .tag handle rest => do pop; return (some name, some (handle, rest))
    | _ => return (some name, none)
  | .tag handle rest => do
    pop
    match ← peek with
    | .anchor name => do pop; return (some name, some (handle, rest))
    | _ => return (none, some (handle, rest))
  | _ => return (none, none)

def tagName : Option (Option (List Char) × List Char) → Drafting (Option (List Char))
  | none => return none
  | some (none, rest) => return some rest
  | some (some handle, rest) => do
    match (← get).handles.lookup handle with
    | some meaning => return some (meaning ++ rest)
    | none => throw .malformed

def openTag : List Char := ['!']

def scalarTag (plain : Bool) (name : Option (List Char)) (text : List Char) : Tag :=
  match name with
  | none => if plain then .ofPlain text else .text
  | some name => if name == openTag then .ofPlain text else .ofName name

def collectionTag (usual : Tag) (name : Option (List Char)) : Tag :=
  match name with
  | none => usual
  | some name => if name == openTag then usual else .ofName name

inductive Place where
  | flow
  | block
  | blockOrItems
  deriving Repr, DecidableEq

def Place.isBlock : Place → Bool
  | .flow => false
  | _ => true

mutual

def node (place : Place) (depth : Nat) : Nat → Drafting Nat
  | 0 => throw .malformed
  | fuel + 1 => do
    if depth ≥ maxDepth then throw .tooDeep
    match ← peek with
    | .alias name => do
      pop
      match (← get).anchors.lookup name with
      | some id => return id
      | none => throw .malformed
    | _ => do
      let (anchor, tag) ← properties
      let name ← tagName tag
      let token ← peek
      let anchors := (← get).anchors
      if anchor.any fun a => (anchors.lookup a).isSome then throw .malformed
      let list (items : Drafting (List Nat)) : Drafting Nat := do
        let id ← add anchor (.list (collectionTag .list name) [])
        let items ← items
        replace id (.list (collectionTag .list name) items)
        return id
      let map (entries : Drafting (List (Nat × Nat))) : Drafting Nat := do
        let id ← add anchor (.map (collectionTag .map name) [])
        let entries ← entries
        replace id (.map (collectionTag .map name) entries)
        return id
      match token with
      | .scalar plain text => do
        pop
        add anchor (.scalar (scalarTag plain name text) text)
      | .flowSequence => do pop; list (flowItems depth true fuel)
      | .flowMapping => do pop; map (flowEntries depth true fuel)
      | _ =>
        if place == .blockOrItems && token == .item then list (looseItems depth fuel)
        else if place.isBlock && token == .blockSequence then do pop; list (blockItems depth fuel)
        else if place.isBlock && token == .blockMapping then do pop; map (blockEntries depth fuel)
        else if anchor.isSome || name.isSome then add anchor (.scalar (scalarTag true name []) [])
        else throw .malformed
termination_by structural fuel => fuel

def optional (place : Place) (depth : Nat) (ends : List Token) : Nat → Drafting Nat
  | 0 => throw .malformed
  | fuel + 1 => do if ← nextIs ends then omitted else node place (depth + 1) fuel
termination_by structural fuel => fuel

def blockItems (depth : Nat) : Nat → Drafting (List Nat)
  | 0 => throw .malformed
  | fuel + 1 => do
    if ← pass .item then
      let item ← optional .block depth [.item, .blockEnd] fuel
      return item :: (← blockItems depth fuel)
    else
      expect .blockEnd
      return []
termination_by structural fuel => fuel

def looseItems (depth : Nat) : Nat → Drafting (List Nat)
  | 0 => throw .malformed
  | fuel + 1 => do
    if ← pass .item then
      let item ← optional .block depth [.item, .key, .value, .blockEnd] fuel
      return item :: (← looseItems depth fuel)
    else return []
termination_by structural fuel => fuel

def blockEntries (depth : Nat) : Nat → Drafting (List (Nat × Nat))
  | 0 => throw .malformed
  | fuel + 1 => do
    let ends := [.key, .value, .blockEnd]
    if ← pass .key then
      let key ← optional .blockOrItems depth ends fuel
      let value ← if ← pass .value then optional .blockOrItems depth ends fuel else omitted
      return (key, value) :: (← blockEntries depth fuel)
    else
      expect .blockEnd
      return []
termination_by structural fuel => fuel

def flowItems (depth : Nat) (first : Bool) : Nat → Drafting (List Nat)
  | 0 => throw .malformed
  | fuel + 1 => do
    if ← pass .flowSequenceEnd then return []
    if !first then
      expect .comma
    if ← pass .flowSequenceEnd then return []
    let item ←
      if ← nextIs [.key] then do
        if depth + 1 ≥ maxDepth then throw .tooDeep
        let id ← add none (.map .map [])
        pop
        let entry ← flowEntry (depth + 1) .flowSequenceEnd fuel
        replace id (.map .map [entry])
        pure id
      else node .flow (depth + 1) fuel
    return item :: (← flowItems depth false fuel)
termination_by structural fuel => fuel

def flowEntries (depth : Nat) (first : Bool) : Nat → Drafting (List (Nat × Nat))
  | 0 => throw .malformed
  | fuel + 1 => do
    if ← pass .flowMappingEnd then return []
    if !first then
      expect .comma
    if ← pass .flowMappingEnd then return []
    let entry ←
      if ← pass .key then flowEntry depth .flowMappingEnd fuel
      else do
        let key ← node .flow (depth + 1) fuel
        pure (key, ← omitted)
    return entry :: (← flowEntries depth false fuel)
termination_by structural fuel => fuel

def flowEntry (depth : Nat) (close : Token) : Nat → Drafting (Nat × Nat)
  | 0 => throw .malformed
  | fuel + 1 => do
    let key ← optional .flow depth [.value, .comma, close] fuel
    let value ← if ← pass .value then optional .flow depth [.comma, close] fuel else omitted
    return (key, value)
termination_by structural fuel => fuel

end

def usualHandles : List (List Char × List Char) :=
  [(['!'], ['!']), (['!', '!'], tagPrefix)]

def directives (hasVersion : Bool) (own : List (List Char × List Char)) :
    Nat → Drafting (List (List Char × List Char))
  | 0 => throw .malformed
  | fuel + 1 => do
    match ← peek with
    | .directive d => do
      pop
      match d with
      | .version major =>
        if hasVersion || major != 1 then throw .malformed else directives true own fuel
      | .handle name meaning =>
        if (own.lookup name).isSome then throw .malformed
        else directives hasVersion ((name, meaning) :: own) fuel
      | .other => directives hasVersion own fuel
    | _ => return own

/-- Passes the marks behind a document. -/
def passEnds : Nat → Drafting Unit
  | 0 => throw .malformed
  | fuel + 1 => do if ← pass .documentEnd then passEnds fuel

def isDirective : Token → Bool
  | .directive _ => true
  | _ => false

def head (fuel : Nat) : Drafting Unit := do
  let own ← directives false [] fuel
  modify fun d => { d with handles := own ++ usualHandles }
  expect .documentStart

def root (fuel : Nat) : Drafting (Option Nat) := do
  let first ← peek
  if first == .streamEnd then return none
  let root ←
    if isDirective first || first == .documentStart then do
      head fuel
      let next ← peek
      if isDirective next || [.documentStart, .documentEnd, .streamEnd].contains next then omitted
      else node .block 0 fuel
    else node .block 0 fuel
  passEnds fuel
  if !(← nextIs [.streamEnd]) then
    head fuel
    throw .malformed
  return some root

end Draft

structure Graph where
  nodes : Array Node
  root : Nat

def Graph.ofTokens (tokens : List Token) (stop : ReadFault) : Except ReadFault (Option Graph) := do
  let draft : Draft := ⟨tokens, stop, #[], [], Draft.usualHandles⟩
  let (root, draft) ← (Draft.root (4 * tokens.length + 8)).run draft
  return root.map fun root => ⟨draft.nodes, root⟩

def Graph.ofText (text : String) : Except ReadFault (Option Graph) :=
  let cs := uniform text.toList
  if cs.all isAllowed then
    let (tokens, stop) := Token.ofText cs
    ofTokens tokens stop
  else .error .malformed

end IssueQuery.Yaml

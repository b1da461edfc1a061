import KeyEnvelope.Value.Members
import KeyEnvelope.Yaml.Graph

/-!
# Construction

What the nodes of a graph stand for. A collection stands for a collection of nodes,
so that a node which occurs in several places is one thing there, within itself too.
Collections are put off and filled one after another, in the order in which they
come up; a fault in one of them is the fault of the document.

Merges take their entries out of the graph: a mapping that was merged somewhere has
its own merges resolved from then on, and a key that marks the value of a mapping
has become a plain text.
-/

namespace KeyEnvelope.Yaml

/-- What a node stands for, in terms of the nodes it holds. -/
inductive Made where
  /-- The source tells apart values that equal nothing; nothing is the source of the
  one that they share. -/
  | atom (value : Value) (source : Option Nat)
  | list (items : List Nat)
  | pairs (items : List (Nat × Nat))
  | mapping (entries : List (Nat × Nat))
  | set (members : List Nat)

structure Construction where
  graph : Graph
  made : Array (Option Made)
  /-- Collections that are still to be filled, with the kinds that they had when
  they came up. -/
  pending : List (Nat × Tag)

abbrev Construct (α : Type) : Type :=
  StateT Construction (Except DocumentFault) α

namespace Construction

def start (graph : Graph) : Construction :=
  ⟨graph, Array.replicate graph.nodes.size none, []⟩

def made? (construction : Construction) (number : Nat) : Option Made :=
  construction.made.getD number none

/-! ## Merges -/

def entries (number : Nat) : Construct (List (Nat × Nat)) := do
  return (← get).graph.entries number

def setEntries (number : Nat) (entries : List (Nat × Nat)) : Construct Unit :=
  modify fun construction =>
    { construction with
      graph := construction.graph.modify number fun node => node.withEntries entries }

/-- Makes keys that mark the value of a mapping plain texts. -/
def unmarkValues (number : Nat) : Construct Unit :=
  modify fun construction =>
    let graph := (construction.graph.entries number).foldl (fun graph (key, _) =>
      if graph.tag key = .value then graph.modify key fun node => node.withTag .text else graph)
        construction.graph
    { construction with graph }

/-- The entries that a merge brings in, of which those of the last mapping in a list
come first. -/
def merged (flatten : Nat → Construct Unit) (source : Nat) : Construct (List (Nat × Nat)) := do
  match (← get).graph.node source with
  | .mapping _ _ =>
    flatten source
    entries source
  | .list _ items =>
    let parts ← items.mapM fun item => do
      match (← get).graph.node item with
      | .mapping _ _ =>
        flatten item
        entries item
      | _ => throw .constructing
    return parts.reverse.flatten
  | .scalar _ _ => throw .constructing

/-- Takes merges out of a mapping, at most as many as given, and yields what they
bring in. -/
def takeMerges (flatten : Nat → Construct Unit) (number : Nat) :
    (most : Nat) → Construct (List (Nat × Nat))
  | 0 => return []
  | most + 1 => do
    let graph := (← get).graph
    match (graph.entries number).find? fun (key, _) => graph.tag key = .merge with
    | none => return []
    | some (key, source) =>
      setEntries number ((graph.entries number).erase (key, source))
      let first ← merged flatten source
      return first ++ (← takeMerges flatten number most)

/-- Resolves the merges of a mapping. What they bring in comes before its own
entries, so that these win. -/
def flatten : (depth : Nat) → Nat → Construct Unit
  | 0, _ => return ()
  | depth + 1, number => do
    let brought ← takeMerges (flatten depth) number (← entries number).length
    unmarkValues number
    setEntries number (brought ++ (← entries number))

/-- More than all merges of a graph. -/
def mergeDepth (graph : Graph) : Nat :=
  graph.nodes.foldl (fun sum node =>
    match node with
    | .mapping _ entries => sum + entries.length
    | _ => sum) 1

/-! ## Nodes -/

def isCollection : Tag → Bool
  | .list | .mapping | .omap | .pairs | .set => true
  | _ => false

/-- Kinds that no value has. -/
def isMark : Tag → Bool
  | .merge | .value | .unknown => true
  | _ => false

def atom (graph : Graph) (number : Nat) : Scan Made := do
  let tag := graph.tag number
  if isMark tag then throw .constructing
  let text ← graph.scalarText graph.fuel (graph.node number)
  match tag, graph.node number with
  | .timestamp, .mapping _ _ => throw .timeOfMapping
  | _, _ =>
    return .atom (← Content.ofScalar tag text)
      (if Content.isShared tag text then none else some number)

def keep (number : Nat) (made : Made) : Construct Unit :=
  modify fun construction =>
    { construction with made := construction.made.setIfInBounds number (some made) }

/-- Makes what a node stands for unless it was made before; a collection is empty at
first. -/
def make (number : Nat) : Construct Unit := do
  let construction ← get
  if (construction.made? number).isSome then return ()
  let tag := construction.graph.tag number
  if isCollection tag then
    keep number (.list [])
    modify fun construction =>
      { construction with pending := construction.pending ++ [(number, tag)] }
  else keep number (← atom construction.graph number)

/-- Makes a key, which must not be a collection. -/
def makeKey (number : Nat) : Construct Unit := do
  make number
  match (← get).made? number with
  | some (.atom _ _) => return ()
  | _ => throw .constructing

def sameKey (construction : Construction) (a b : Nat) : Bool :=
  match construction.made? a, construction.made? b with
  | some (.atom x source), some (.atom y other) =>
    x.sameKey y || (match x, y with
      | .real u, .real v => u.isNaN && v.isNaN && source == other
      | _, _ => false)
  | _, _ => false

/-- Sets an entry: a key that counts as the same keeps its place and its form. -/
def setEntry (construction : Construction) (key value : Nat) : List (Nat × Nat) → List (Nat × Nat)
  | [] => [(key, value)]
  | (k, v) :: rest =>
    if construction.sameKey k key then (k, value) :: rest
    else (k, v) :: construction.setEntry key value rest

/-- The entries of a mapping with its merges resolved, each key once. -/
def fillMapping (number : Nat) : Construct (List (Nat × Nat)) := do
  match (← get).graph.node number with
  | .mapping _ _ =>
    flatten (mergeDepth (← get).graph) number
    let all ← entries number
    all.forM fun (key, value) => do
      makeKey key
      make value
    let construction ← get
    return all.foldl (fun found (key, value) => construction.setEntry key value found) []
  | _ => throw .constructing

def items (number : Nat) : Construct (List Nat) := do
  match (← get).graph.node number with
  | .list _ items => return items
  | _ => throw .constructing

/-- The pairs of an ordered mapping, a list of mappings with one entry each. -/
def fillPairs (number : Nat) : Construct (List (Nat × Nat)) := do
  (← items number).mapM fun item => do
    match (← get).graph.node item with
    | .mapping _ [(key, value)] =>
      make key
      make value
      return (key, value)
    | _ => throw .constructing

def fill (number : Nat) : Tag → Construct Unit
  | .mapping => do keep number (.mapping (← fillMapping number))
  | .set => do keep number (.set ((← fillMapping number).map (·.1)))
  | .omap | .pairs => do keep number (.pairs (← fillPairs number))
  | _ => do
    let held ← items number
    held.forM make
    keep number (.list held)

/-- Fills collections as long as there are any. Each comes up once, so that as many
steps as nodes are enough. -/
def fillAll : (fuel : Nat) → Construct Unit
  | 0 => return ()
  | fuel + 1 => do
    match (← get).pending with
    | [] => return ()
    | (number, tag) :: pending =>
      modify fun construction => { construction with pending }
      fill number tag
      fillAll fuel

/-- All that the nodes below a root stand for. -/
def ofGraph (graph : Graph) (root : Nat) : Scan Construction := do
  let ((), construction) ← (do make root; fillAll (graph.nodes.size + 1) : Construct Unit).run
    (start graph)
  return construction

/-! ## Values -/

/-- The value of a node. A collection within itself is cut, but not in the outer
`unfolded` levels; `within` are the collections around it below those. -/
def valueOf (construction : Construction) :
    (fuel unfolded : Nat) → (within : List Nat) → Nat → Value
  | 0, _, _, _ => .null
  | fuel + 1, unfolded, within, number =>
    let inner := if unfolded = 0 then number :: within else within
    let child := construction.valueOf fuel (unfolded - 1) inner
    match construction.made? number with
    | none => .null
    | some (.atom value _) => value
    | some (.set members) => .ofMembers (members.map child)
    | some (.mapping entries) =>
      if within.contains number then .enclosing .mapping
      else .mapping (entries.map fun (key, value) => (child key, child value))
    | some (.list items) =>
      if within.contains number then .enclosing .list else .list (items.map child)
    | some (.pairs items) =>
      if within.contains number then .enclosing .list
      else .list (items.map fun (first, second) => .pair (child first) (child second))

end Construction

end KeyEnvelope.Yaml

import KeyEnvelope.Yaml.Content
import KeyEnvelope.Yaml.Event

/-!
# Graphs of documents

The nodes of a document by number. A node that is named by an anchor may occur in
several places, within itself too.
-/

namespace KeyEnvelope.Yaml

inductive Node where
  | scalar (tag : Tag) (text : Text)
  | list (tag : Tag) (items : List Nat)
  | mapping (tag : Tag) (entries : List (Nat × Nat))

structure Graph where
  nodes : Array Node
  root : Option Nat

/-- A collection that has begun: its number, its kind, and what it holds so far,
last first. -/
structure Frame where
  number : Nat
  isMapping : Bool
  tag : Tag
  items : List Nat

structure Composition where
  nodes : Array Node
  anchors : List (String × Nat)
  frames : List Frame
  root : Option Nat

namespace Composition

def empty : Composition := ⟨#[], [], [], none⟩

def attach (number : Nat) (made : Composition) : Composition :=
  match made.frames with
  | [] => { made with root := some number }
  | frame :: frames =>
    { made with frames := { frame with items := number :: frame.items } :: frames }

/-- Adds a node, known by its anchor from now on. Anchors must not be used twice. -/
def add (anchor : Option String) (node : Node) (made : Composition) : Scan Composition :=
  match anchor with
  | none => .ok { made with nodes := made.nodes.push node }
  | some name =>
    if (made.anchors.lookup name).isSome then .error .composing
    else
      .ok { made with
        nodes := made.nodes.push node, anchors := (name, made.nodes.size) :: made.anchors }

def pairs : List Nat → List (Nat × Nat)
  | key :: value :: rest => (key, value) :: pairs rest
  | _ => []

def Frame.node (frame : Frame) : Node :=
  let items := frame.items.reverse
  if frame.isMapping then .mapping frame.tag (pairs items) else .list frame.tag items

/-- How many collections may lie within each other. The format has no such limit: it is how
deep the reader of the recorded runs could call itself. -/
def nestingLimit : Nat := 488

def openFrame (isMapping : Bool) (anchor tag : Option String) (made : Composition) :
    Scan Composition := do
  if nestingLimit ≤ made.frames.length then throw .tooDeep
  let number := made.nodes.size
  let tag := (tag.map Tag.ofName).getD (if isMapping then .mapping else .list)
  let made ← made.add anchor (.list tag [])
  return { made with frames := ⟨number, isMapping, tag, []⟩ :: made.frames }

def closeFrame (made : Composition) : Composition :=
  match made.frames with
  | [] => made
  | frame :: frames =>
    { made with
      nodes := made.nodes.setIfInBounds frame.number (Frame.node frame)
      frames }.attach frame.number

def scalarTag (tag : Option String) (isPlain : Bool) (text : Text) : Tag :=
  match tag with
  | some name => .ofName name
  | none => if isPlain then .ofText text else .text

def step (made : Composition) : Event → Scan Composition
  | .documentStart => if made.root.isSome then .error .composing else .ok made
  | .documentEnd => .ok { made with anchors := [] }
  | .streamEnd => .ok made
  | .alias name =>
    match made.anchors.lookup name with
    | some number => .ok (made.attach number)
    | none => .error .composing
  | .scalar anchor tag isPlain text => do
    let number := made.nodes.size
    let made ← made.add anchor (.scalar (scalarTag tag isPlain text) text)
    return made.attach number
  | .listStart anchor tag => made.openFrame false anchor tag
  | .mappingStart anchor tag => made.openFrame true anchor tag
  | .collectionEnd => .ok made.closeFrame

end Composition

namespace Node

def tag : Node → Tag
  | scalar tag _ | list tag _ | mapping tag _ => tag

def withTag (tag : Tag) : Node → Node
  | scalar _ text => .scalar tag text
  | list _ items => .list tag items
  | mapping _ entries => .mapping tag entries

def withEntries (entries : List (Nat × Nat)) : Node → Node
  | mapping tag _ => .mapping tag entries
  | node => node

end Node

namespace Graph

def ofText (text : List Char) (missing : Option DocumentFault) : Scan Graph := do
  let (events, fault) := Event.ofText text missing
  let made ← events.foldlM Composition.step .empty
  match fault with
  | some fault => throw fault
  | none => return ⟨made.nodes, made.root⟩

def node (graph : Graph) (number : Nat) : Node :=
  graph.nodes.getD number (.scalar .null "")

def tag (graph : Graph) (number : Nat) : Tag :=
  (graph.node number).tag

/-- The entries of a mapping; other nodes have none. -/
def entries (graph : Graph) (number : Nat) : List (Nat × Nat) :=
  match graph.node number with
  | .mapping _ entries => entries
  | _ => []

def modify (graph : Graph) (number : Nat) (change : Node → Node) : Graph :=
  { graph with nodes := graph.nodes.modify number change }

/-- An upper bound for the steps along a path that meets no node twice. -/
def fuel (graph : Graph) : Nat :=
  graph.nodes.size + 3

/-- The text of a scalar, or of the entry of a mapping that stands for the mapping
itself. A path without an end leads through some node twice. -/
def scalarText (graph : Graph) : (fuel : Nat) → Node → Scan Text
  | _, .scalar _ text => .ok text
  | 0, .mapping _ _ => .error .tooDeep
  | fuel + 1, .mapping _ entries =>
    match entries.find? fun (key, _) => graph.tag key = .value with
    | some (_, value) => graph.scalarText fuel (graph.node value)
    | none => .error .constructing
  | _, _ => .error .constructing

end Graph

end KeyEnvelope.Yaml

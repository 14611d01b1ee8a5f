/-
Descriptors: the small integers by which guests name nodes of the scene, so that no guest ever holds a host's object.

A registry only grows. Descriptors are counted up from 10 (lower ones are left free, as they could be taken for standard
streams), and none is given out twice, not even after its node has left the scene. What a descriptor, a node or an id leads
to is looked up in an index of its own, which holds positions of entries.

The counter is a signed word. Behind the largest one it goes on with the smallest, so only after 2^32 registrations a
descriptor comes again; a host whose arithmetic is checked stops at the largest one.
-/
import ScriptHost.Scene.Backend
import Std.Data.ExtTreeMap.Basic

namespace ScriptHost

/-- the first descriptor of a session -/
def firstDescriptor : Int32 := 10

/-- what is known of a registered node -/
structure Registration where
  descriptor : Int32
  node : NodeId
  /-- the id of the element when it was registered -/
  id : Option String
deriving DecidableEq, Repr

/-- the registered nodes -/
structure Registry where
  /-- in the order of registration -/
  entries : Array Registration := #[]
  /-- the position of each descriptor's entry -/
  byDescriptor : Std.ExtTreeMap Int32 Nat := ∅
  /-- the position of each node's entry -/
  byNode : Std.ExtTreeMap Nat Nat := ∅
  /-- the position of the first entry with each id -/
  byId : Std.ExtTreeMap String Nat := ∅
  /-- the descriptor of the next node -/
  next : Int32 := firstDescriptor

namespace Registry

def empty : Registry := {}

def count (r : Registry) : Nat := r.entries.size

/-- all entries, in the order of registration -/
def all (r : Registry) : List Registration := r.entries.toList

/-- the node that a descriptor names -/
def node? (r : Registry) (descriptor : Int32) : Option NodeId := do
  let position ← r.byDescriptor[descriptor]?
  return (← r.entries[position]?).node

/-- the descriptor of a node -/
def descriptor? (r : Registry) (node : NodeId) : Option Int32 := do
  let position ← r.byNode[node.index]?
  return (← r.entries[position]?).descriptor

/-- the first entry that was registered with an id -/
def withId? (r : Registry) (id : String) : Option Registration := do
  let position ← r.byId[id]?
  r.entries[position]?

/-- registers a node; one that is registered already keeps its descriptor and its entry -/
def register (r : Registry) (node : NodeId) (id : Option String) : Int32 × Registry :=
  match r.descriptor? node with
  | some descriptor => (descriptor, r)
  | none =>
    let position := r.entries.size
    let descriptor := r.next
    (descriptor,
      { entries := r.entries.push { descriptor, node, id }
        byDescriptor := r.byDescriptor.insert descriptor position
        byNode := r.byNode.insert node.index position
        byId := match id with
          | some id => r.byId.insertIfNew id position
          | none => r.byId
        next := descriptor + 1 })

end Registry

end ScriptHost

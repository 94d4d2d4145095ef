import Std.Data.TreeMap
import Std.Data.TreeSet
import ConceptSpace.Document.Basic

/-! The concept graph: concepts with attributes and labelled edges between them.
Every concept mentioned so far is stored under its id, and with each source stand the edges that leave it, in
the order they were added. The supertypes of a concept are what its `is_a` edges reach, the concept itself
left out. -/
namespace ConceptSpace

abbrev Attributes := Std.TreeMap String Document

structure Concept where
  id : String
  attributes : Attributes

structure ConceptEdge where
  source : String
  target : String
  relationship : String
  deriving DecidableEq, Repr

def isA : String := "is_a"

structure ConceptGraph where
  nodes : Std.TreeMap String Concept
  outgoing : Std.TreeMap String (Array ConceptEdge)

namespace ConceptGraph

def empty : ConceptGraph := ⟨∅, ∅⟩

def addNode (g : ConceptGraph) (id : String) (attributes : Attributes) : ConceptGraph :=
  { g with nodes := g.nodes.insert id ⟨id, attributes⟩ }

-- A concept that is only mentioned has no attributes.
def mention (g : ConceptGraph) (id : String) : ConceptGraph :=
  { g with nodes := g.nodes.insertIfNew id ⟨id, ∅⟩ }

def addEdge (g : ConceptGraph) (source target relationship : String) : ConceptGraph :=
  let both := (g.mention source).mention target
  let leaving (edges : Option (Array ConceptEdge)) := (edges.getD #[]).push ⟨source, target, relationship⟩
  { both with outgoing := both.outgoing.alter source (some ∘ leaving) }

def addIsA (g : ConceptGraph) (child parent : String) : ConceptGraph := g.addEdge child parent isA

def hasNode (g : ConceptGraph) (id : String) : Bool := g.nodes.contains id

def nodeCount (g : ConceptGraph) : Nat := g.nodes.size

def edgeCount (g : ConceptGraph) : Nat := g.outgoing.foldl (fun count _ edges => count + edges.size) 0

def edgesFrom (g : ConceptGraph) (id : String) : List ConceptEdge := (g.outgoing.getD id #[]).toList

-- One concept for each edge, so a target may come more than once.
def related (g : ConceptGraph) (id : String) (relationship : Option String) : List Concept :=
  ((g.edgesFrom id).filter fun e => relationship.all (· == e.relationship)).filterMap fun e =>
    g.nodes[e.target]?

structure Walk where
  queue : List String
  found : Std.TreeSet String

def Walk.follow (id : String) (w : Walk) (e : ConceptEdge) : Walk :=
  if e.relationship == isA && e.target != id && !w.found.contains e.target then
    ⟨w.queue ++ [e.target], w.found.insert e.target⟩
  else w

def visit (g : ConceptGraph) (id : String) (w : Walk) : Walk :=
  match w.queue with
  | [] => w
  | current :: queue =>
    (g.edgesFrom current).foldl (Walk.follow id) ⟨queue, w.found⟩

def walk (g : ConceptGraph) (id : String) : (visits : Nat) → Walk
  | 0 => ⟨[id], ∅⟩
  | visits + 1 => g.visit id (g.walk id visits)

/-- Every concept but the first enters the queue as the target of an edge, and it does so once, so after
these visits the queue has run empty. -/
def supertypes (g : ConceptGraph) (id : String) : Std.TreeSet String :=
  (g.walk id (g.edgeCount + 1)).found

end ConceptGraph

end ConceptSpace

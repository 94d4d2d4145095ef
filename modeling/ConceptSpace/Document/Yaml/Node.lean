import Std.Data.TreeMap
import ConceptSpace.Document.Yaml.Event
import ConceptSpace.Document.Yaml.Lexer

/-! The nodes of a YAML document, with references where a node stands for another one.
Nodes that are still open are held last first. -/
namespace ConceptSpace.Yaml

inductive Node where
  | scalar (tag : Option String) (style : Style) (text : String)
  | list (tag : Option String) (items : List Node)
  | record (tag : Option String) (fields : List (Node × Node))
  | reference (number : Nat)
  deriving Repr, Inhabited

structure File where
  root : Node
  size : Nat
  places : Std.TreeMap Nat Nat
  anchored : Std.TreeMap Nat Node

def File.resolve? (file : File) : Node → Option Node
  | .reference number => file.places[number]?.bind (file.anchored[·]?)
  | node => some node

structure Frame where
  start : Nat
  properties : Properties
  isRecord : Bool
  nodes : List Node := []

def fieldsOf : List Node → List (Node × Node) → List (Node × Node)
  | value :: key :: rest, done => fieldsOf rest ((key, value) :: done)
  | _, done => done

def Frame.node (f : Frame) : Node :=
  if f.isRecord then .record f.properties.tag (fieldsOf f.nodes [])
  else .list f.properties.tag f.nodes.reverse

structure Composition where
  roots : List Node := []
  frames : List Frame := []
  count : Nat := 0
  names : Std.TreeMap String Nat := ∅
  places : Std.TreeMap Nat Nat := ∅
  anchored : Std.TreeMap Nat Node := ∅

namespace Composition

/-- Gives the number of an anchor to the event that comes now. The number is how many names there are,
so that an anchor whose name is given again shares its number with the next new one; the later of the
two counts. -/
def name (p : Properties) (c : Composition) : Composition :=
  match p.anchor with
  | none => c
  | some name =>
    let number := c.names.size
    { c with names := c.names.insert name number, places := c.places.insert number c.count }

def add (start : Nat) (p : Properties) (node : Node) (c : Composition) : Composition :=
  let c := if p.anchor.isSome then { c with anchored := c.anchored.insert start node } else c
  match c.frames with
  | frame :: outer => { c with frames := { frame with nodes := node :: frame.nodes } :: outer }
  | [] => { c with roots := node :: c.roots }

def step? (c : Composition) (event : Event) : Option Composition := do
  let next (c : Composition) : Composition := { c with count := c.count + 1 }
  match event with
  | .reference name => some (next (c.add c.count {} (.reference (← c.names[name]?))))
  | .scalar p style text => some (next ((c.name p).add c.count p (.scalar p.tag style text)))
  | .listStart p => some (next { c.name p with frames := ⟨c.count, p, false, []⟩ :: c.frames })
  | .recordStart p => some (next { c.name p with frames := ⟨c.count, p, true, []⟩ :: c.frames })
  | .close =>
    match c.frames with
    | frame :: outer => some (next ({ c with frames := outer }.add frame.start frame.properties frame.node))
    | [] => none

end Composition

def File.ofEvents? (events : List Event) : Option File := do
  let c ← events.foldlM Composition.step? {}
  some ⟨← c.roots.head?, c.count, c.places, c.anchored⟩

def read? (text : String) : Option File := do
  let chars := text.toList
  if chars.all isAllowed then File.ofEvents? (← events? (← tokens? chars)) else none

end ConceptSpace.Yaml

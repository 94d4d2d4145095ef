import ConceptSpace.Document.Decode
import ConceptSpace.Document.Yaml.Node
import ConceptSpace.Document.Yaml.Scalar

/-! Decoding YAML nodes.
Read loosely, a scalar is what the decoder asks for, if it can be: any scalar is a text, say. Read
strictly, every scalar is what it denotes, and all of the file must denote something. -/
namespace ConceptSpace.Yaml

def depthLimit : Nat := 128

abbrev Following := StateT Nat Option

namespace File

/-- How many references may be followed; without a limit a short file could denote a vast document. -/
def referenceLimit (file : File) : Nat := 100 * file.size

def follow (file : File) : Node → Following Node
  | .reference number => do
    match ← get with
    | 0 => failure
    | left + 1 =>
      set left
      file.resolve? (.reference number)
  | node => pure node

def text? (file : File) (node : Node) : Option String :=
  match file.resolve? node with
  | some (.scalar _ _ text) => some text
  | _ => none

def scalar? (file : File) (node : Node) : Option Document :=
  match file.resolve? node with
  | some (.scalar tag style text) => scalarDocument? tag style text
  | _ => none

def followText (file : File) (node : Node) : Following String := do
  match ← file.follow node with
  | .scalar _ _ text => pure text
  | _ => failure

def kept : Document → Document
  | .scalar (.real x) => if x.isFinite then .real x else .null
  | d => d

def documentWithin (file : File) : (levels : Nat) → Node → Following Document
  | 0, node => do
    match ← file.follow node with
    | .scalar tag style text => (scalarDocument? tag style text).map kept
    | _ => failure
  | levels + 1, node => do
    match ← file.follow node with
    | .scalar tag style text => (scalarDocument? tag style text).map kept
    | .list tag items =>
      if tag.any isLocal then failure
      else return .list (← items.mapM (documentWithin file levels))
    | .record tag fields =>
      if tag.any isLocal then failure
      else return .record (← fields.mapM fun f => do
        return (← file.followText f.1, ← documentWithin file levels f.2))
    | .reference _ => failure

def checkWithin (file : File) : (levels : Nat) → Node → Following Unit
  | 0, node => do
    match ← file.follow node with
    | .scalar tag style text => if (scalarDocument? tag style text).isNone then failure
    | _ => failure
  | levels + 1, node => do
    match ← file.follow node with
    | .scalar tag style text => if (scalarDocument? tag style text).isNone then failure
    | .list tag items =>
      if tag.any isLocal then failure else items.forM (checkWithin file levels)
    | .record tag fields =>
      if tag.any isLocal then failure
      else fields.forM fun f => do
        checkWithin file levels f.1
        checkWithin file levels f.2
    | .reference _ => failure

def denotes (file : File) : Bool :=
  ((file.checkWithin depthLimit file.root).run file.referenceLimit).isSome

def document? (file : File) (depth : Nat) (node : Node) : Option Document :=
  ((file.documentWithin (depthLimit - depth) node).run file.referenceLimit).map (·.1)

def keyed? (file : File) (fields : List (Node × Node)) : Option (List (String × Node)) :=
  fields.mapM fun f => (file.text? f.1).map (·, f.2)

def items? (file : File) (node : Node) : Option (List Node) :=
  match file.resolve? node with
  | some (.list _ items) => some items
  | some (.scalar _ .plain "") => some []
  | _ => none

def entries? (file : File) (node : Node) : Option (List (String × Node)) :=
  match file.resolve? node with
  | some (.record _ fields) => file.keyed? fields
  | some (.scalar _ .plain "") => some []
  | _ => none

def isNull? (file : File) (node : Node) : Option Bool :=
  match file.resolve? node with
  | none => none
  | some (.scalar none .plain text) => some (text.isEmpty || nullWords.contains text)
  | some (.scalar (some tag) .plain text) =>
    if tag != coreTag "null" then some false
    else if nullWords.contains text then some true
    else none
  | some _ => some false

def float? (file : File) (node : Node) : Option Float :=
  match file.resolve? node with
  | some (.scalar tag style text) =>
    if style == .plain || style == .literal && tag == some (coreTag "float") then
      Yaml.float? text.toList
    else none
  | _ => none

def reading (file : File) : Reading Node where
  text? := file.text?
  float? := file.float?
  isNull? := file.isNull?
  items? := file.items?
  entries? := file.entries?
  fields? names node := do
    let fields ← file.entries? node
    fieldsAtPlaces? names.length (fields.map fun f => (names.findIdx? (·.contains f.1), f.2))
  document? := file.document?

def place? (file : File) (names : List (List String)) (key : Node) : Option (Option Nat) :=
  match file.scalar? key, file.text? key with
  | some (.text name), _ => some (names.findIdx? (·.contains name))
  | some (.scalar (.int n)), some text =>
    if text.toList.head? == some '-' then none else some (some n.toNat)
  | _, _ => none

def strictReading (file : File) : Reading Node where
  text? node := (file.scalar? node).bind Document.asText?
  float? node := (file.scalar? node).bind Document.asFloat?
  isNull? node := some ((file.scalar? node).any Document.isNull)
  items? node :=
    match file.resolve? node with
    | some (.list _ items) => some items
    | _ => none
  entries? node :=
    match file.resolve? node with
    | some (.record _ fields) => file.keyed? fields
    | _ => none
  fields? names node :=
    match file.resolve? node with
    | some (.list _ items) => fieldsInOrder? names items
    | some (.record _ fields) => do
      fieldsAtPlaces? names.length (← fields.mapM fun f => (file.place? names f.1).map (·, f.2))
    | _ => none
  document? := file.document?

end File

end ConceptSpace.Yaml

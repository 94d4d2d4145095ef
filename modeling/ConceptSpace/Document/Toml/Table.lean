import ConceptSpace.Document.Basic

/-! TOML tables while they are filled.
A key is set once. A table is opened once under its own header, and one that dotted keys made is
opened by none. -/
namespace ConceptSpace.Toml

inductive Origin where
  | passage
  | dotted
  | header
  deriving DecidableEq, Repr

inductive Item where
  | value (document : Document)
  | table (origin : Origin) (fields : List (String × Item))
  | tables (done : List (List (String × Item))) (last : List (String × Item))

abbrev Fields := List (String × Item)

namespace Fields

def item? (fields : Fields) (key : String) : Option Item :=
  (List.find? (fun f => f.1 == key) fields).map (·.2)

def put (fields : Fields) (key : String) (item : Item) : Fields :=
  if fields.any (·.1 == key) then fields.map fun f => if f.1 == key then (key, item) else f
  else fields ++ [(key, item)]

def within (change : Fields → Option Fields) : List String → Fields → Option Fields
  | [], fields => change fields
  | key :: rest, fields =>
    match fields.item? key with
    | none => (within change rest []).map fun inner => fields.put key (.table .passage inner)
    | some (.table origin inner) =>
      (within change rest inner).map fun inner => fields.put key (.table origin inner)
    | some (.tables done last) =>
      (within change rest last).map fun last => fields.put key (.tables done last)
    | some (.value _) => none

def openTable (key : String) (fields : Fields) : Option Fields :=
  match fields.item? key with
  | none => some (fields.put key (.table .header []))
  | some (.table .passage inner) => some (fields.put key (.table .header inner))
  | _ => none

def openNext (key : String) (fields : Fields) : Option Fields :=
  match fields.item? key with
  | none => some (fields.put key (.tables [] []))
  | some (.tables done last) => some (fields.put key (.tables (last :: done) []))
  | _ => none

def assign (value : Document) : List String → Fields → Option Fields
  | [], _ => none
  | [key], fields => if (fields.item? key).isSome then none else some (fields.put key (.value value))
  | key :: rest, fields =>
    match fields.item? key with
    | none => (assign value rest []).map fun inner => fields.put key (.table .dotted inner)
    | some (.table .dotted inner) =>
      (assign value rest inner).map fun inner => fields.put key (.table .dotted inner)
    | _ => none

end Fields

mutual

def Item.document : Item → Document
  | .value d => d
  | .table _ fields => .record (documents fields)
  | .tables done last => .list (records done [.record (documents last)])

def documents : List (String × Item) → List (String × Document)
  | [] => []
  | (key, item) :: rest => (key, item.document) :: documents rest

def records : List (List (String × Item)) → (after : List Document) → List Document
  | [], after => after
  | fields :: rest, after => records rest (.record (documents fields) :: after)

end

end ConceptSpace.Toml

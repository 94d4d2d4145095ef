import Std.Data.TreeMap
import ConceptSpace.Document.Basic

/-! What decoders ask of the nodes of a document, whichever notation the document is written in.
Every question may fail. -/
namespace ConceptSpace

structure Reading (ν : Type) where
  text? : ν → Option String
  float? : ν → Option Float
  isNull? : ν → Option Bool
  items? : ν → Option (List ν)
  entries? : ν → Option (List (String × ν))
  fields? : List (List String) → ν → Option (List (Option ν))
  document? : (depth : Nat) → ν → Option Document

namespace Reading

variable {ν α : Type} (r : Reading ν)

def optional (decode : ν → Option α) (node : ν) : Option (Option α) := do
  if ← r.isNull? node then some none else (decode node).map some

def list? (decode : ν → Option α) (node : ν) : Option (List α) := do
  (← r.items? node).mapM decode

def map? (decode : ν → Option α) (node : ν) : Option (Std.TreeMap String α) := do
  let values ← (← r.entries? node).mapM fun f => (decode f.2).map (f.1, ·)
  some (values.foldl (fun m f => m.insert f.1 f.2) ∅)

end Reading

def fieldsInOrder? (names : List (List String)) (items : List ν) : Option (List (Option ν)) :=
  if items.length ≤ names.length then
    some (items.map some ++ List.replicate (names.length - items.length) none)
  else none

def fieldsAtPlaces? (count : Nat) (values : List (Option Nat × ν)) : Option (List (Option ν)) :=
  (List.range count).mapM fun place =>
    match values.filter (·.1 == some place) with
    | [] => some none
    | [value] => some (some value.2)
    | _ => none

def required (decode : ν → Option α) (field : Option ν) : Option α := field.bind decode

def withDefault (default : α) (decode : ν → Option α) : Option ν → Option α
  | none => some default
  | some node => decode node

end ConceptSpace

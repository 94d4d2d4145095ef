import ConceptSpace.Decimal.Reading
import ConceptSpace.Document.Reading

/-! Decoding documents into values of a program's own types.
A record may also be written as the list of its fields in their order. A field may have further
names; to give it twice is an error, while unknown fields are passed over. -/
namespace ConceptSpace.Document

def asText? : Document → Option String
  | .text value => some value
  | _ => none

def asFloat? : Document → Option Float
  | .scalar (.int n) => some (Float.ofInt n)
  | .scalar (.real x) => some x
  | _ => none

def asNat? : Document → Option Nat
  | .scalar (.int n) => if 0 ≤ n then some n.toNat else none
  | _ => none

def asBool? : Document → Option Bool
  | .scalar (.bool b) => some b
  | _ => none

def isNull : Document → Bool
  | .scalar .null => true
  | _ => false

def asItems? : Document → Option (List Document)
  | .list items => some items
  | _ => none

def asEntries? : Document → Option (List (String × Document))
  | .record fields => some fields
  | _ => none

def asWord? (decode : String → Option α) : Document → Option α
  | .record [(key, .scalar .null)] => decode key
  | d => d.asText?.bind decode

def fieldsOf? (names : List (List String)) : Document → Option (List (Option Document))
  | .list items => fieldsInOrder? names items
  | .record fields =>
    fieldsAtPlaces? names.length (fields.map fun f => (names.findIdx? (·.contains f.1), f.2))
  | _ => none

def reading : Reading Document where
  text? := asText?
  float? := asFloat?
  isNull? d := some d.isNull
  items? := asItems?
  entries? := asEntries?
  fields? := fieldsOf?
  document? _ d := some d

def optional (decode : Document → Option α) : Document → Option (Option α) := reading.optional decode

def asList? (decode : Document → Option α) : Document → Option (List α) := reading.list? decode

end ConceptSpace.Document

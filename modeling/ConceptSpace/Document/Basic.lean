/-! Documents: the values that definition files, requests and settings are written as.
A document is the same whichever notation it was read from. -/
namespace ConceptSpace

inductive Scalar where
  | null
  | bool (value : Bool)
  | int (value : Int)
  | real (value : Float)
  deriving Repr, Inhabited

inductive Document where
  | scalar (value : Scalar)
  | text (value : String)
  | list (items : List Document)
  | record (fields : List (String × Document))
  deriving Repr, Inhabited

namespace Document

def null : Document := .scalar .null

def bool (value : Bool) : Document := .scalar (.bool value)

def int (value : Int) : Document := .scalar (.int value)

def real (value : Float) : Document := .scalar (.real value)

def lookup? (key : String) : List (String × Document) → Option Document
  | [] => none
  | (k, value) :: rest => (lookup? key rest).or (if k == key then some value else none)

def field? (document : Document) (key : String) : Option Document :=
  match document with
  | .record fields => lookup? key fields
  | _ => none

end Document

end ConceptSpace

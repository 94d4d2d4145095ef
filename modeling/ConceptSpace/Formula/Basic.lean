/-! Boolean formulas over concepts.
A formula is evaluated against any assignment of truth values, so evaluation is total; its text is
fully parenthesised and is the canonical way to write it. -/
namespace ConceptSpace

inductive Formula where
  | var (name : String)
  | and (left right : Formula)
  | or (left right : Formula)
  | not (inner : Formula)
  deriving DecidableEq, Repr

namespace Formula

def evaluate (holds : String → Bool) : Formula → Bool
  | .var name => holds name
  | .and a b => a.evaluate holds && b.evaluate holds
  | .or a b => a.evaluate holds || b.evaluate holds
  | .not a => !a.evaluate holds

def collect (listed : List String) : Formula → List String
  | .var name => if name ∈ listed then listed else listed ++ [name]
  | .and a b => b.collect (a.collect listed)
  | .or a b => b.collect (a.collect listed)
  | .not a => a.collect listed

def names (f : Formula) : List String := f.collect []

def depth : Formula → Nat
  | .var _ => 1
  | .and a b => max a.depth b.depth + 1
  | .or a b => max a.depth b.depth + 1
  | .not a => a.depth + 1

def text : Formula → String
  | .var name => name
  | .and a b => "(" ++ a.text ++ " AND " ++ b.text ++ ")"
  | .or a b => "(" ++ a.text ++ " OR " ++ b.text ++ ")"
  | .not a => "NOT(" ++ a.text ++ ")"

end Formula

end ConceptSpace

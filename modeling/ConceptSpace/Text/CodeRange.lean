/-! Sets and maps of characters given by ranges of code points. -/
namespace ConceptSpace.Text

abbrev CodeRange := Nat × Nat

def CodeRange.covers (ranges : List CodeRange) (c : Char) : Bool :=
  ranges.any fun r => r.1 ≤ c.toNat && c.toNat ≤ r.2

structure CodeShift where
  first : Nat
  last : Nat
  stride : Nat
  image : Nat
  deriving DecidableEq, Repr

namespace CodeShift

def applies (s : CodeShift) (n : Nat) : Bool :=
  s.first ≤ n && n ≤ s.last && (n - s.first) % s.stride == 0

def map (shifts : List CodeShift) (c : Char) : Char :=
  match shifts.find? (·.applies c.toNat) with
  | some s => Char.ofNat (s.image + (c.toNat - s.first))
  | none => c

end CodeShift

end ConceptSpace.Text

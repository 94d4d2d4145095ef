import ConceptSpace.Decimal.Reading

/-! Floats read by one scaling.
The digits that fit 64 bits are gathered into a whole number, which is made a float and scaled by
one power of ten; digits beyond those only count towards the power. The result may differ from the
nearest float in the last bit. -/
namespace ConceptSpace.Decimal

structure Scaled where
  significand : Nat
  exponent : Int
  deriving DecidableEq, Repr

namespace Scaled

def takeWhole (s : Nat) : List Char → Scaled
  | [] => ⟨s, 0⟩
  | c :: rest =>
    let next := 10 * s + digitValue c
    if next < Nat.pow 2 64 then takeWhole next rest else ⟨s, (c :: rest).length⟩

def takePlaces (s : Scaled) : List Char → Scaled
  | [] => s
  | c :: rest =>
    let next := 10 * s.significand + digitValue c
    if next < Nat.pow 2 64 then takePlaces ⟨next, s.exponent - 1⟩ rest else s

def toFloat? (s : Scaled) : Option Float :=
  let x := Float.ofNat s.significand
  if x == 0 then some 0
  else if 0 ≤ s.exponent then
    if s.exponent ≤ 308 then
      let y := x * nearest 1 s.exponent
      if y.isInf then none else some y
    else none
  else
    let down := s.exponent.natAbs
    if down ≤ 308 then some (x / nearest 1 down)
    else if down ≤ 616 then some (x / nearest 1 308 / nearest 1 (down - 308 : Nat))
    else some 0

end Scaled

def Numeral.toScaledFloat? (n : Numeral) : Option Float :=
  let s := Scaled.takePlaces (Scaled.takeWhole 0 n.whole) n.places
  Scaled.toFloat? ⟨s.significand, s.exponent + n.exponent⟩

end ConceptSpace.Decimal

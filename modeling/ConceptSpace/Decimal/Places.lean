import ConceptSpace.Decimal.Binary

/-! Numbers written with a set number of decimal places, and numbers written with a set number of
significant digits. The exact value is rounded once, a half going to the even neighbour. -/
namespace ConceptSpace.Decimal

def withPoint (places n : Nat) : String :=
  if places == 0 then digits n
  else digits (n / Nat.pow 10 places) ++ "." ++ padded places (n % Nat.pow 10 places)

def fixed (places : Nat) (x : Float) : String :=
  match Binary.ofFloat x with
  | .nan => "NaN"
  | .infinite negative => sign negative ++ "inf"
  | .finite negative mantissa exponent =>
    let scale := powerOfTwo exponent
    sign negative ++ withPoint places (roundQuotient (mantissa * scale.1 * Nat.pow 10 places) scale.2)

def leadingDigits (places numerator denominator : Nat) : Nat × Int :=
  let exponent := leadingExponent numerator denominator
  let scale := powerOfTen (exponent - places)
  let n := roundQuotient (numerator * scale.2) (denominator * scale.1)
  if n < Nat.pow 10 (places + 1) then (n, exponent) else (n / 10, exponent + 1)

def scientific (places : Nat) (x : Float) : String :=
  match Binary.ofFloat x with
  | .nan => "NaN"
  | .infinite negative => sign negative ++ "inf"
  | .finite negative 0 _ => sign negative ++ withPoint places 0 ++ "e0"
  | .finite negative mantissa exponent =>
    let scale := powerOfTwo exponent
    let lead := leadingDigits places (mantissa * scale.1) scale.2
    sign negative ++ withPoint places lead.1 ++ "e" ++ toString lead.2

end ConceptSpace.Decimal

import ConceptSpace.Decimal.Binary

/-! The fewest digits that read back as the same float.
The reals that round to a float form an interval, its ends included exactly when the mantissa is
even. For one digit, two digits and so on, the two neighbours of the value on that decimal grid are
tried; the first grid with a hit wins, and of two hits the nearer. -/
namespace ConceptSpace.Decimal

structure Layout where
  least : Int
  greatest : Int
  plus : Bool
  deriving DecidableEq, Repr

structure Interval where
  below : Nat
  value : Nat
  above : Nat
  closed : Bool
  deriving DecidableEq, Repr

/-- The gap below a power of two is half the gap above it, but for the least exponent. -/
def Interval.of (mantissa : Nat) (exponent : Int) : Interval :=
  { below := if mantissa == Nat.pow 2 52 && exponent != -1074 then 4 * mantissa - 1 else 4 * mantissa - 2
    value := 4 * mantissa
    above := 4 * mantissa + 2
    closed := mantissa % 2 == 0 }

def Interval.holds (i : Interval) (n unit scale : Nat) : Bool :=
  let point := n * unit
  if i.closed then i.below * scale ≤ point && point ≤ i.above * scale
  else i.below * scale < point && point < i.above * scale

def Interval.candidate? (i : Interval) (unit scale : Nat) : Option Nat :=
  let low := i.value * scale / unit
  let fits := (i.holds low unit scale, i.holds (low + 1) unit scale)
  match fits with
  | (true, true) =>
    let down := i.value * scale - low * unit
    let up := (low + 1) * unit - i.value * scale
    if down < up || (down == up && low % 2 == 0) then some low else some (low + 1)
  | (true, false) => some low
  | (false, true) => some (low + 1)
  | (false, false) => none

def shortestFrom (i : Interval) (exponent leading : Int) (count : Nat) : Nat → Nat × Int
  | 0 => (0, 0)
  | fuel + 1 =>
    let last := leading - (count - 1 : Nat)
    let two := powerOfTwo (exponent - 2)
    let ten := powerOfTen last
    match i.candidate? (ten.1 * two.2) (two.1 * ten.2) with
    | some n => (n, last)
    | none => shortestFrom i exponent leading (count + 1) fuel

def shortestDigits (mantissa : Nat) (exponent : Int) : List Char × Int :=
  let two := powerOfTwo exponent
  let leading := leadingExponent (mantissa * two.1) two.2
  let found := shortestFrom (.of mantissa exponent) exponent leading 1 18
  let text := Nat.toDigits 10 found.1
  ((text.reverse.dropWhile (· == '0')).reverse, found.2 + (text.length - 1 : Nat))

def positional (text : List Char) (leading : Int) : String :=
  if leading < 0 then
    String.ofList (['0', '.'] ++ List.replicate ((-leading).toNat - 1) '0' ++ text)
  else
    let whole := leading.toNat + 1
    let places := text.drop whole
    String.ofList (text.take whole ++ List.replicate (whole - text.length) '0' ++ ['.']
      ++ if places.isEmpty then ['0'] else places)

def withExponent (plus : Bool) (text : List Char) (leading : Int) : String :=
  match text with
  | [] => ""
  | first :: rest =>
    String.ofList (first :: if rest.isEmpty then [] else '.' :: rest)
      ++ (if plus && 0 ≤ leading then "e+" else "e") ++ toString leading

def shortest (layout : Layout) (x : Float) : String :=
  match Binary.ofFloat x with
  | .nan => "NaN"
  | .infinite negative => sign negative ++ "inf"
  | .finite negative 0 _ => sign negative ++ "0.0"
  | .finite negative mantissa exponent =>
    let found := shortestDigits mantissa exponent
    sign negative ++
      if layout.least ≤ found.2 && found.2 ≤ layout.greatest then positional found.1 found.2
      else withExponent layout.plus found.1 found.2

def Layout.always : Layout := ⟨-400, 400, false⟩

def plain (x : Float) : String :=
  let text := (shortest .always x).toList
  String.ofList (if ['.', '0'].isSuffixOf text then text.dropLast.dropLast else text)

end ConceptSpace.Decimal

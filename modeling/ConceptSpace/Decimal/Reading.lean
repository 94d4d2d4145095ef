import ConceptSpace.Decimal.Binary

/-! Floats read from decimal digits. -/
namespace ConceptSpace.Decimal

def isDigit (c : Char) : Bool := '0' ≤ c && c ≤ '9'

def digitValue (c : Char) : Nat := c.toNat - '0'.toNat

def valueOf (digits : List Char) : Nat := digits.foldl (fun n c => 10 * n + digitValue c) 0

def inBase? (base : Nat) (digits : List Char) : Option Nat :=
  if digits.isEmpty then none
  else digits.foldl (fun n c => do
    let n ← n
    let d := if isDigit c then c.toNat - '0'.toNat
      else if 'a' ≤ c && c ≤ 'z' then c.toNat - 'a'.toNat + 10
      else if 'A' ≤ c && c ≤ 'Z' then c.toNat - 'A'.toNat + 10
      else base
    if d < base then some (n * base + d) else none) (some 0)

def fits64 (n : Int) : Bool := -(Nat.pow 2 63 : Int) ≤ n && n < Nat.pow 2 63

def nearest (mantissa : Nat) (exponent : Int) : Float :=
  if mantissa == 0 then 0
  else
    let leading : Int := exponent + (Nat.toDigits 10 mantissa).length
    if 310 < leading then Float.ofBits 0x7ff0000000000000
    else if leading < -330 then 0
    else match exponent with
      | .ofNat n => Float.ofScientific mantissa false n
      | .negSucc n => Float.ofScientific mantissa true (n + 1)

def infinity : Float := Float.ofBits 0x7ff0000000000000

def notANumber : Float := Float.ofBits 0x7ff8000000000000

structure Numeral where
  whole : List Char
  places : List Char
  exponent : Int
  deriving DecidableEq, Repr

namespace Numeral

def toFloat (n : Numeral) : Float :=
  nearest (valueOf (n.whole ++ n.places)) (n.exponent - n.places.length)

def exponentOf? : List Char → Option Int
  | '-' :: rest => if rest.isEmpty || !rest.all isDigit then none else some (-(valueOf rest : Int))
  | '+' :: rest => if rest.isEmpty || !rest.all isDigit then none else some (valueOf rest)
  | rest => if rest.isEmpty || !rest.all isDigit then none else some (valueOf rest)

def ofChars? (text : List Char) : Option Numeral :=
  let whole := text.takeWhile isDigit
  let afterWhole := text.dropWhile isDigit
  let (places, rest) := match afterWhole with
    | '.' :: more => (more.takeWhile isDigit, more.dropWhile isDigit)
    | _ => ([], afterWhole)
  if whole.isEmpty && places.isEmpty then none
  else match rest with
    | [] => some ⟨whole, places, 0⟩
    | c :: more =>
      if c == 'e' || c == 'E' then (exponentOf? more).map fun e => ⟨whole, places, e⟩ else none

end Numeral

def splitSign : List Char → Bool × List Char
  | '-' :: rest => (true, rest)
  | '+' :: rest => (false, rest)
  | rest => (false, rest)

def signed (negative : Bool) (x : Float) : Float := if negative then -x else x

def float? (text : String) : Option Float :=
  let (negative, rest) := splitSign text.toList
  let word := String.ofList (rest.map Char.toLower)
  if word == "inf" || word == "infinity" then some (signed negative infinity)
  else if word == "nan" then some (signed negative notANumber)
  else (Numeral.ofChars? rest).map fun n => signed negative n.toFloat

def integer? (text : String) : Option Int :=
  let (negative, rest) := splitSign text.toList
  if rest.isEmpty || !rest.all isDigit then none
  else some (if negative then -(valueOf rest : Int) else valueOf rest)

end ConceptSpace.Decimal

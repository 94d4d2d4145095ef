import ConceptSpace.Decimal.Reading
import ConceptSpace.Document.Basic
import ConceptSpace.Document.Yaml.Token

/-! What YAML scalars denote: null, a truth value, a whole number, a float or a text. A plain scalar
without a tag denotes what it looks like, and one with a tag what the tag says. -/
namespace ConceptSpace.Yaml

open Decimal

def isZeroPadded (text : List Char) : Bool :=
  match (splitSign text).2 with
  | '0' :: c :: rest => (c :: rest).all isDigit
  | _ => false

def natural? : List Char → Option Nat
  | '0' :: 'x' :: rest => inBase? 16 rest
  | '0' :: 'o' :: rest => inBase? 8 rest
  | '0' :: 'b' :: rest => inBase? 2 rest
  | rest => inBase? 10 rest

def integer? (text : List Char) : Option Int :=
  if isZeroPadded text then none
  else
    let (negative, rest) := splitSign text
    (natural? rest).map fun n => if negative then -(n : Int) else n

def hasBits (bits : Nat) (n : Int) : Bool :=
  -(Nat.pow 2 (bits - 1) : Int) ≤ n && n < (Nat.pow 2 bits : Int)

def nullWords : List String := ["~", "null", "Null", "NULL"]

def truth? (word : String) : Option Bool :=
  if ["true", "True", "TRUE"].contains word then some true
  else if ["false", "False", "FALSE"].contains word then some false
  else none

def infinityWords : List String := [".inf", ".Inf", ".INF"]

def float? (text : List Char) : Option Float :=
  let (negative, rest) := splitSign text
  if infinityWords.contains (String.ofList rest) then some (signed negative infinity)
  else if [".nan", ".NaN", ".NAN"].contains (String.ofList text) then some notANumber
  else ((Numeral.ofChars? rest).map fun n => signed negative n.toFloat).filter (·.isFinite)

def floatOrText (text : String) : Document :=
  if isZeroPadded text.toList then .text text
  else ((float? text.toList).map Document.real).getD (.text text)

def plainDocument? (text : String) : Option Document :=
  if text.isEmpty || nullWords.contains text then some .null
  else
    match truth? text, (integer? text.toList).filter (hasBits 128) with
    | some b, _ => some (.bool b)
    | none, some n => if hasBits 64 n then some (.int n) else none
    | none, none => some (floatOrText text)

def isLocal (tag : String) : Bool := tag.toList.head? == some '!'

def scalarDocument? (tag : Option String) (style : Style) (text : String) : Option Document :=
  match tag with
  | none => if style == .plain then plainDocument? text else some (.text text)
  | some tag =>
    if isLocal tag then none
    else if tag == coreTag "bool" then (truth? text).map .bool
    else if tag == coreTag "int" then ((integer? text.toList).filter (hasBits 64)).map .int
    else if tag == coreTag "float" then (float? text.toList).map .real
    else if tag == coreTag "null" then if nullWords.contains text then some .null else none
    else some (.text text)

end ConceptSpace.Yaml

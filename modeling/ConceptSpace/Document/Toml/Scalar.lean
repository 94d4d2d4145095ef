import ConceptSpace.Decimal.Reading
import ConceptSpace.Document.Basic

/-! TOML values that are one word: truth values, numbers, and dates and times.
A date or a time denotes the text of its usual form. -/
namespace ConceptSpace.Toml

open Decimal

def digits? (isDigit : Char → Bool) : List Char → Option (List Char)
  | [] => none
  | [c] => if isDigit c then some [c] else none
  | c :: '_' :: rest => if isDigit c then (digits? isDigit rest).map (c :: ·) else none
  | c :: rest => if isDigit c then (digits? isDigit rest).map (c :: ·) else none

def whole? (text : List Char) : Option (List Char) :=
  (digits? isDigit text).filter fun digits => digits.length ≤ 1 || digits.head? != some '0'

def inBase? (base : Nat) (text : List Char) : Option Int := do
  let digits ← digits? (fun c => (Decimal.inBase? base [c]).isSome) text
  (Decimal.inBase? base digits).map Int.ofNat

def integer? (text : List Char) : Option Int :=
  let n : Option Int := match text with
    | '0' :: 'x' :: rest => inBase? 16 rest
    | '0' :: 'o' :: rest => inBase? 8 rest
    | '0' :: 'b' :: rest => inBase? 2 rest
    | _ =>
      let (negative, rest) := splitSign text
      (whole? rest).map fun digits =>
        if negative then -(valueOf digits : Int) else (valueOf digits : Int)
  n.filter fits64

def places? (text : List Char) : Option (List Char × List Char) :=
  match text with
  | '.' :: rest =>
    let isPlace c := isDigit c || c == '_'
    (digits? isDigit (rest.takeWhile isPlace)).map (·, rest.dropWhile isPlace)
  | _ => some ([], text)

def exponent? (text : List Char) : Option Int :=
  match text with
  | [] => some 0
  | c :: rest =>
    if c == 'e' || c == 'E' then
      let (negative, rest) := splitSign rest
      (digits? isDigit rest).map fun digits =>
        if negative then -(valueOf digits : Int) else (valueOf digits : Int)
    else none

def float? (text : List Char) : Option Float := do
  let (negative, rest) := splitSign text
  if rest == ['i', 'n', 'f'] then return signed negative infinity
  if rest == ['n', 'a', 'n'] then return signed negative notANumber
  let isPart c := isDigit c || c == '_'
  let whole ← whole? (rest.takeWhile isPart)
  if rest.all isPart then failure
  let (places, rest) ← places? (rest.dropWhile isPart)
  let exponent ← exponent? rest
  let x := signed negative (Numeral.mk whole places exponent).toFloat
  if x == infinity then failure else return x

def field? (width low high : Nat) (text : List Char) : Option (Nat × List Char) :=
  let digits := text.take width
  let n := valueOf digits
  if digits.length == width && digits.all isDigit && low ≤ n && n ≤ high then
    some (n, text.drop width)
  else none

def mark? (mark : Char) : List Char → Option (List Char)
  | [] => none
  | c :: rest => if c == mark then some rest else none

def isLeap (year : Nat) : Bool := year % 4 == 0 && (year % 100 != 0 || year % 400 == 0)

def daysIn (year month : Nat) : Nat :=
  if month == 2 then if isLeap year then 29 else 28
  else if month == 4 || month == 6 || month == 9 || month == 11 then 30
  else 31

def date? (text : List Char) : Option (List Char) := do
  let (year, rest) ← field? 4 0 9999 text
  let (month, rest) ← field? 2 1 12 (← mark? '-' rest)
  let (_, rest) ← field? 2 1 (daysIn year month) (← mark? '-' rest)
  return rest

def fraction? (text : List Char) : Option (List Char × List Char) :=
  match text with
  | '.' :: rest =>
    let digits := rest.takeWhile isDigit
    let kept := ((digits.take 9).reverse.dropWhile (· == '0')).reverse
    if digits.isEmpty then none
    else some (if kept.isEmpty then [] else '.' :: kept, rest.dropWhile isDigit)
  | _ => some ([], text)

def time? (text : List Char) : Option (List Char × List Char) := do
  let (_, rest) ← field? 2 0 23 text
  let (_, rest) ← field? 2 0 59 (← mark? ':' rest)
  let (_, rest) ← field? 2 0 60 (← mark? ':' rest)
  let (fraction, rest) ← fraction? rest
  return (text.take 8 ++ fraction, rest)

def offset? (text : List Char) : Option (List Char) :=
  match text with
  | [] => some []
  | [c] => if c == 'Z' || c == 'z' then some ['Z'] else none
  | sign :: rest => do
    if sign != '+' && sign != '-' then failure
    let (hours, after) ← field? 2 0 23 rest
    let (minutes, after) ← field? 2 0 59 (← mark? ':' after)
    if after.isEmpty then return (if hours + minutes == 0 then '+' else sign) :: rest else failure

def moment? (text : List Char) : Option String :=
  match date? text with
  | some [] => some (String.ofList text)
  | some (c :: rest) => do
    if c != 'T' && c != 't' && c != ' ' then failure
    let (time, rest) ← time? rest
    let zone ← offset? rest
    return String.ofList (text.take 10 ++ 'T' :: time ++ zone)
  | none => do
    let (time, rest) ← time? text
    if rest.isEmpty then return String.ofList time else failure

def scalar? (text : List Char) : Option Document :=
  if text == ['t', 'r', 'u', 'e'] then some (.bool true)
  else if text == ['f', 'a', 'l', 's', 'e'] then some (.bool false)
  else
    match integer? text with
    | some n => some (.int n)
    | none =>
      match float? text with
      | some x => some (.real x)
      | none => (moment? text).map .text

def isWordChar (c : Char) : Bool :=
  isDigit c || ('a' ≤ c && c ≤ 'z') || ('A' ≤ c && c ≤ 'Z') || c == '_' || c == '-' || c == '+'
    || c == '.' || c == ':'

def word? (text : List Char) : Option (Document × List Char) :=
  let word := text.takeWhile isWordChar
  let rest := text.dropWhile isWordChar
  match rest with
  | ' ' :: more =>
    let both := word ++ ' ' :: more.takeWhile isWordChar
    match date? word, moment? both with
    | some [], some moment => some (.text moment, more.dropWhile isWordChar)
    | _, _ => (scalar? word).map (·, rest)
  | _ => (scalar? word).map (·, rest)

end ConceptSpace.Toml

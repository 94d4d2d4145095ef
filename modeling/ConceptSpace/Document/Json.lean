import ConceptSpace.Document.Basic
import ConceptSpace.Decimal.Scaled
import ConceptSpace.Text.Hex

/-! Reading JSON texts.
Nesting is limited to 127 levels, nothing but blanks may follow the value, and a number beyond the
greatest float is refused. Every function takes the characters left and gives back those it leaves;
each call is charged one unit of fuel and uses at least one character. What is read so far is held last
first. -/
namespace ConceptSpace.Json

open Decimal

def nestingLimit : Nat := 128

def isBlank (c : Char) : Bool := c == ' ' || c == '\n' || c == '\t' || c == '\r'

def skipBlanks (text : List Char) : List Char := text.dropWhile isBlank

def codePoint? (text : List Char) : Option (Char × List Char) := do
  let (high, rest) ← Text.hexNumber? 4 text
  if 0xd800 ≤ high && high < 0xdc00 then
    match rest with
    | '\\' :: 'u' :: more =>
      let (low, rest) ← Text.hexNumber? 4 more
      if 0xdc00 ≤ low && low < 0xe000 then
        some (Char.ofNat (0x10000 + (high - 0xd800) * 0x400 + (low - 0xdc00)), rest)
      else none
    | _ => none
  else if 0xdc00 ≤ high && high < 0xe000 then none
  else some (Char.ofNat high, rest)

def escape? : Char → Option Char
  | '"' => some '"'
  | '\\' => some '\\'
  | '/' => some '/'
  | 'b' => some '\x08'
  | 'f' => some '\x0c'
  | 'n' => some '\n'
  | 'r' => some '\r'
  | 't' => some '\t'
  | _ => none

def string? (done : List Char) : (fuel : Nat) → List Char → Option (String × List Char)
  | 0, _ => none
  | _ + 1, [] => none
  | _ + 1, '"' :: rest => some (String.ofList done.reverse, rest)
  | fuel + 1, '\\' :: 'u' :: rest => do
    let (c, rest) ← codePoint? rest
    string? (c :: done) fuel rest
  | fuel + 1, '\\' :: c :: rest => do
    let c ← escape? c
    string? (c :: done) fuel rest
  | fuel + 1, c :: rest => if c.toNat < 32 || c == '\\' then none else string? (c :: done) fuel rest

def places? : List Char → Option (List Char × List Char)
  | '.' :: rest =>
    let places := rest.takeWhile isDigit
    if places.isEmpty then none else some (places, rest.dropWhile isDigit)
  | rest => some ([], rest)

def exponent? (text : List Char) : Option (Option Int × List Char) :=
  match text with
  | c :: rest =>
    if c == 'e' || c == 'E' then
      let (negative, rest) := splitSign rest
      let digits := rest.takeWhile isDigit
      if digits.isEmpty then none
      else some (some (if negative then -(valueOf digits : Int) else valueOf digits),
        rest.dropWhile isDigit)
    else some (none, text)
  | [] => some (none, [])

def numberValue? (negative : Bool) (whole places : List Char) (exponent : Option Int) :
    Option Scalar :=
  let n := valueOf whole
  if places.isEmpty && exponent.isNone && negative && 0 < n && n ≤ Nat.pow 2 63 then some (.int (-(n : Int)))
  else if places.isEmpty && exponent.isNone && !negative && n < Nat.pow 2 64 then some (.int n)
  else (Numeral.toScaledFloat? ⟨whole, places, exponent.getD 0⟩).map fun x => .real (signed negative x)

def number? (text : List Char) : Option (Scalar × List Char) := do
  let (negative, rest) := match text with
    | '-' :: rest => (true, rest)
    | _ => (false, text)
  let whole := rest.takeWhile isDigit
  if whole.isEmpty || (1 < whole.length && whole.head? == some '0') then none
  else
    let (places, rest) ← places? (rest.dropWhile isDigit)
    let (exponent, rest) ← exponent? rest
    let value ← numberValue? negative whole places exponent
    some (value, rest)

mutual

def value? (nesting : Nat) : (fuel : Nat) → List Char → Option (Document × List Char)
  | 0, _ => none
  | fuel + 1, text =>
    match skipBlanks text with
    | '"' :: rest => (string? [] fuel rest).map fun (s, rest) => (.text s, rest)
    | '[' :: rest =>
      if nesting ≤ 1 then none
      else match skipBlanks rest with
        | ']' :: rest => some (.list [], rest)
        | rest => items? (nesting - 1) [] fuel rest
    | '\x7b' :: rest =>
      if nesting ≤ 1 then none
      else match skipBlanks rest with
        | '\x7d' :: rest => some (.record [], rest)
        | rest => fields? (nesting - 1) [] fuel rest
    | 't' :: 'r' :: 'u' :: 'e' :: rest => some (.bool true, rest)
    | 'f' :: 'a' :: 'l' :: 's' :: 'e' :: rest => some (.bool false, rest)
    | 'n' :: 'u' :: 'l' :: 'l' :: rest => some (.null, rest)
    | rest => (number? rest).map fun (n, rest) => (.scalar n, rest)

def items? (nesting : Nat) (done : List Document) :
    (fuel : Nat) → List Char → Option (Document × List Char)
  | 0, _ => none
  | fuel + 1, text =>
    match value? nesting fuel text with
    | none => none
    | some (item, rest) =>
      match skipBlanks rest with
      | ',' :: rest => items? nesting (item :: done) fuel rest
      | ']' :: rest => some (.list (item :: done).reverse, rest)
      | _ => none

def fields? (nesting : Nat) (done : List (String × Document)) :
    (fuel : Nat) → List Char → Option (Document × List Char)
  | 0, _ => none
  | fuel + 1, text =>
    match skipBlanks text with
    | '"' :: rest =>
      match string? [] fuel rest with
      | none => none
      | some (key, rest) =>
        match skipBlanks rest with
        | ':' :: rest =>
          match value? nesting fuel rest with
          | none => none
          | some (value, rest) =>
            match skipBlanks rest with
            | ',' :: rest => fields? nesting ((key, value) :: done) fuel rest
            | '\x7d' :: rest => some (.record ((key, value) :: done).reverse, rest)
            | _ => none
        | _ => none
    | _ => none

end

def read? (text : String) : Option Document :=
  let chars := text.toList
  match value? nestingLimit (2 * chars.length + 2) chars with
  | some (document, rest) => if (skipBlanks rest).isEmpty then some document else none
  | none => none

end ConceptSpace.Json

import ConceptSpace.Document.Toml.Quoted
import ConceptSpace.Document.Toml.Scalar
import ConceptSpace.Document.Toml.Table

/-! Reading TOML texts: lines that open a table or set a key in the table opened last. -/
namespace ConceptSpace.Toml

def skipSpaces (text : List Char) : List Char := text.dropWhile isSpace

def afterComment? (text : List Char) : Option (List Char) :=
  match text with
  | '#' :: rest =>
    let comment := rest.takeWhile (!isControl ·)
    some (rest.drop comment.length)
  | _ => some text

def endOfLine? (text : List Char) : Option (List Char) :=
  (afterComment? (skipSpaces text)).bind fun rest => if rest.isEmpty then some [] else newline? rest

def skipLines : (fuel : Nat) → List Char → List Char
  | 0, text => text
  | fuel + 1, text =>
    let rest := skipSpaces text
    if rest.isEmpty then []
    else
      match endOfLine? rest with
      | some rest => skipLines fuel rest
      | none => rest

def skip (text : List Char) : List Char := skipLines (text.length + 1) text

def isBareChar (c : Char) : Bool :=
  Decimal.isDigit c || ('a' ≤ c && c ≤ 'z') || ('A' ≤ c && c ≤ 'Z') || c == '_' || c == '-'

def keyPart? (text : List Char) : Option (String × List Char) :=
  match text with
  | '"' :: rest => basic? [] (rest.length + 1) rest
  | '\'' :: rest => literal? rest
  | _ =>
    let bare := text.takeWhile isBareChar
    if bare.isEmpty then none else some (String.ofList bare, text.dropWhile isBareChar)

def nestingLimit : Nat := 79

def keyParts? : (fuel : Nat) → List Char → Option (List String × List Char)
  | 0, _ => none
  | fuel + 1, text => do
    let (part, rest) ← keyPart? (skipSpaces text)
    match skipSpaces rest with
    | '.' :: rest =>
      let (parts, rest) ← keyParts? fuel rest
      some (part :: parts, rest)
    | rest => some ([part], rest)

def key? (text : List Char) : Option (List String × List Char) :=
  (keyParts? (text.length + 1) text).filter fun key => key.1.length ≤ nestingLimit

mutual

def value? (depth : Nat) : (fuel : Nat) → List Char → Option (Document × List Char)
  | 0, _ => none
  | fuel + 1, text =>
    match text, depth with
    | '[' :: _, 0 => none
    | '[' :: rest, depth + 1 => items? depth [] fuel rest
    | '\x7b' :: _, 0 => none
    | '\x7b' :: rest, depth + 1 =>
      match skipSpaces rest with
      | '\x7d' :: rest => some (.record [], rest)
      | rest => fields? depth [] fuel rest
    | '"' :: _, _ => (quoted? text).map fun (s, rest) => (.text s, rest)
    | '\'' :: _, _ => (quoted? text).map fun (s, rest) => (.text s, rest)
    | _, _ => word? text
termination_by structural fuel => fuel

def items? (depth : Nat) (done : List Document) : (fuel : Nat) → List Char → Option (Document × List Char)
  | 0, _ => none
  | fuel + 1, text =>
    match skip text with
    | ']' :: rest => some (.list done.reverse, rest)
    | rest => do
      let (item, rest) ← value? depth fuel rest
      match skip rest with
      | ',' :: rest => items? depth (item :: done) fuel rest
      | ']' :: rest => some (.list (item :: done).reverse, rest)
      | _ => none
termination_by structural fuel => fuel

def fields? (depth : Nat) (done : Fields) : (fuel : Nat) → List Char → Option (Document × List Char)
  | 0, _ => none
  | fuel + 1, text => do
    let (key, rest) ← key? text
    let rest ← mark? '=' rest
    let (value, rest) ← value? depth fuel (skipSpaces rest)
    let done ← Fields.assign value key done
    match skipSpaces rest with
    | ',' :: rest => fields? depth done fuel rest
    | '\x7d' :: rest => some (.record (documents done), rest)
    | _ => none
termination_by structural fuel => fuel

end

structure Progress where
  root : Fields := []
  header : List String := []

def header? (marks : List Char) (text : List Char) : Option (List String × List Char) := do
  let (key, rest) ← key? text
  if marks.isPrefixOf rest then some (key, rest.drop marks.length) else none

def Progress.open? (p : Progress) (change : String → Fields → Option Fields) (header : List String) :
    Option Progress := do
  let name ← header.getLast?
  let root ← Fields.within (change name) header.dropLast p.root
  some ⟨root, header⟩

def Progress.assign? (p : Progress) (key : List String) (value : Document) : Option Progress :=
  (Fields.within (Fields.assign value key) p.header p.root).map fun root => { p with root }

def statement? (p : Progress) (text : List Char) : Option (Progress × List Char) :=
  match text with
  | '[' :: '[' :: rest => do
    let (header, rest) ← header? [']', ']'] rest
    some (← p.open? Fields.openNext header, ← endOfLine? rest)
  | '[' :: rest => do
    let (header, rest) ← header? [']'] rest
    some (← p.open? Fields.openTable header, ← endOfLine? rest)
  | _ => do
    let (key, rest) ← key? text
    let rest ← mark? '=' rest
    let (value, rest) ← value? nestingLimit (2 * rest.length + 2) (skipSpaces rest)
    some (← p.assign? key value, ← endOfLine? rest)

def statements? (p : Progress) : (fuel : Nat) → List Char → Option Progress
  | 0, _ => none
  | fuel + 1, text =>
    match skip text with
    | [] => some p
    | text =>
      match statement? p text with
      | some (p, rest) => statements? p fuel rest
      | none => none

def read? (text : String) : Option Document :=
  let chars := match text.toList with
    | '\ufeff' :: rest => rest
    | chars => chars
  (statements? {} (chars.length + 1) chars).map fun p => .record (documents p.root)

end ConceptSpace.Toml

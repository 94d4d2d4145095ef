import ConceptSpace.Handler.Script
import ConceptSpace.Handler.Shell.Basic
import ConceptSpace.Text.Split

/-! The fields that words stand for. -/
namespace ConceptSpace.Shell

open Script

def selfName : String := "$$"

def State.valueOf (s : State) (name : String) : String :=
  if name == "#" then toString s.arguments.length
  else if name == "?" then toString s.status
  else if name == "$" then selfName
  else if name == "@" || name == "*" then String.intercalate " " s.arguments
  else
    match name.toNat? with
    | some 0 => s.name
    | some n => (s.arguments[n - 1]?).getD ""
    | none => ((s.values.find? (·.1 == name)).map (·.2)).getD ""

structure Piece where
  text : List Char
  quoted : Bool

def State.piece (s : State) (written : String) : Part → Piece
  | .literal text => ⟨text, true⟩
  | .parameter name quoted => ⟨(s.valueOf name).toList, quoted⟩
  | .command _ quoted => ⟨written.toList, quoted⟩

def isSeparator (c : Char) : Bool := c == ' ' || c == '\t' || c == '\n'

def split (fields : List (List Char)) (isOpen : Bool) : List Piece → List (List Char)
  | [] => fields
  | ⟨text, true⟩ :: rest =>
    match isOpen, fields with
    | true, field :: done => split ((field ++ text) :: done) true rest
    | _, fields => split (text :: fields) true rest
  | ⟨text, false⟩ :: rest =>
    match (Text.splitChars isSeparator text).filter (!·.isEmpty) with
    | [] => split fields (isOpen && text.isEmpty) rest
    | first :: more =>
      let joined := match isOpen && !text.head?.any isSeparator, fields with
        | true, field :: done => (field ++ first) :: done
        | _, fields => first :: fields
      split (more.reverse ++ joined) (!text.getLast?.any isSeparator) rest

def fields (pieces : List Piece) : List String := (split [] false pieces).reverse.map String.ofList

def joined (pieces : List Piece) : String := String.ofList (pieces.flatMap (·.text))

def assignment? (text : String) : Option (String × String) :=
  let chars := text.toList
  let name := chars.takeWhile isNameChar
  match chars.drop name.length with
  | '=' :: value =>
    if name.isEmpty || name.head?.any Decimal.isDigit then none
    else some (String.ofList name, String.ofList value)
  | _ => none

def isAssignment (text : String) : Bool := (assignment? text).isSome

def commandFields : List (List Piece) → List String
  | [] => []
  | word :: rest =>
    if isAssignment (joined (word.takeWhile (·.quoted))) then joined word :: commandFields rest
    else (word :: rest).flatMap fields

end ConceptSpace.Shell

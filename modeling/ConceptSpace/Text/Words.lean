import Std.Data.TreeSet
import ConceptSpace.Text.CaseFolding
import ConceptSpace.Text.Letters
import ConceptSpace.Text.LowerCase

/-! Words of a text, and phrases found in a text whatever their case. -/
namespace ConceptSpace.Text

def startsWith (start text : String) : Bool := start.toList.isPrefixOf text.toList

def startsAlike (phrase text : List Char) : Bool :=
  match phrase, text with
  | [], _ => true
  | _ :: _, [] => false
  | p :: phrase, c :: text => sameLetter p c && startsAlike phrase text

def runs (word : List Char) : List Char → List (List Char)
  | [] => if word.isEmpty then [] else [word.reverse]
  | c :: rest =>
    if isAlphanumeric c then runs (c :: word) rest
    else if word.isEmpty then runs [] rest else word.reverse :: runs [] rest

def words (text : String) : Std.TreeSet String :=
  .ofList ((runs [] text.toList).map fun w => String.ofList (lowerChars w))

structure Overlap where
  shared : Nat
  union : Nat
  deriving DecidableEq, Repr

def Overlap.of (a b : String) : Overlap :=
  let left := words a
  let right := words b
  let shared := (left.toList.filter right.contains).length
  ⟨shared, left.size + right.size - shared⟩

def similarity (a b : String) : Float :=
  let o := Overlap.of a b
  if o.union == 0 then 1 else Float.ofNat o.shared / Float.ofNat o.union

end ConceptSpace.Text

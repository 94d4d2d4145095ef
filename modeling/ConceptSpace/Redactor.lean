import ConceptSpace.Text.Blank
import ConceptSpace.Text.Words

/-! Finding forbidden terms in a text.
A term is found where the text reads like it up to case and no letter or digit stands directly before
or after. Where several terms fit at one place the longest is taken; a place whose neighbours spoil
it is passed by one character, so that a shorter term inside it is not missed. -/
namespace ConceptSpace

structure Redactor where
  terms : List String
  deriving DecidableEq, Repr

namespace Redactor

def ofTerms (terms : List String) : Redactor := ⟨(terms.map Text.trim).filter (!·.isEmpty)⟩

/-- The terms are matched as one pattern, in which each of them is escaped. It is assumed here that this
pattern compiles for every list of terms: a redactor whose pattern did not would be as one without terms, which
finds nothing. -/
def isActive (r : Redactor) : Bool := !r.terms.isEmpty

def ordered (r : Redactor) : List (List Char) :=
  (r.terms.mergeSort fun a b => b.utf8ByteSize ≤ a.utf8ByteSize).map String.toList

def isBoundary (neighbour : Option Char) : Bool := !neighbour.any Text.isAlphanumeric

/-- The places where a term is found, from left to right, as they stand in the text. `before` is the
character before the text left, and `skip` counts the characters that the last place still covers. -/
def scan (terms : List (List Char)) (before : Option Char) :
    (skip : Nat) → List Char → List (List Char)
  | _, [] => []
  | skip + 1, c :: rest => scan terms (some c) skip rest
  | 0, c :: rest =>
    match terms.find? fun term => Text.startsAlike term (c :: rest) with
    | none => scan terms (some c) 0 rest
    | some term =>
      if isBoundary before && isBoundary ((c :: rest).drop term.length).head? then
        (c :: rest).take term.length :: scan terms (some c) (term.length - 1) rest
      else scan terms (some c) 0 rest

def findMatches (r : Redactor) (text : String) : List String :=
  ((scan r.ordered none 0 text.toList).map fun hit => String.ofList (Text.lowerChars hit)).eraseDups

end Redactor

end ConceptSpace

import ConceptSpace.Narrative.Stage
import ConceptSpace.Text.Words

/-! Softening harsh phrases.
A phrase is replaced wherever it stands as whole words, in any case; phrases are taken in the order
of the table, each over the text that the ones before left. -/
namespace ConceptSpace

namespace Tone

structure Softening where
  harsh : String
  soft : String
  deriving DecidableEq, Repr

def table : List Softening := [
  ⟨"completely wrong", "quite different from what was expected"⟩,
  ⟨"failed", "did not yet succeed"⟩,
  ⟨"failure", "setback"⟩,
  ⟨"useless", "of limited use here"⟩,
  ⟨"worthless", "of little value here"⟩,
  ⟨"terrible", "challenging"⟩,
  ⟨"stupid", "unexpected"⟩,
  ⟨"wrong", "different from expected"⟩]

def isWord (neighbour : Option Char) : Bool := neighbour.any Text.isWordCharacter

def standsAt (phrase : List Char) (before : Option Char) (text : List Char) : Bool :=
  Text.startsAlike phrase text && !isWord before && !isWord (text.drop phrase.length).head?

/-- The text with the phrase replaced, and the number of replacements. `before` is the character
before the text left, and `skip` counts the characters of the phrase that are still to be left out. -/
def replace (phrase soft : List Char) (before : Option Char) :
    (skip : Nat) → List Char → List Char × Nat
  | _, [] => ([], 0)
  | skip + 1, c :: rest => replace phrase soft (some c) skip rest
  | 0, c :: rest =>
    if standsAt phrase before (c :: rest) then
      let after := replace phrase soft (some c) (phrase.length - 1) rest
      (soft ++ after.1, after.2 + 1)
    else
      let after := replace phrase soft (some c) 0 rest
      (c :: after.1, after.2)

def softenBy (text : List Char × Nat) (s : Softening) : List Char × Nat :=
  let after := replace s.harsh.toList s.soft.toList none 0 text.1
  (after.1, text.2 + after.2)

def soften (text : String) : String × Nat :=
  let after := table.foldl softenBy (text.toList, 0)
  (String.ofList after.1, after.2)

end Tone

def toneAdjuster : Stage where
  name := "tone_adjuster"
  apply _ n :=
    let intent := Tone.soften n.intent
    let growth := Tone.soften n.growth
    let count := intent.2 + growth.2
    ({ n with intent := intent.1, growth := growth.1 },
      .pass (if count == 0 then "no harsh phrasing"
        else "softened " ++ toString count ++ " phrase(s)"))

end ConceptSpace

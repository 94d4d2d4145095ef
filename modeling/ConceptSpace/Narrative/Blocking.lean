import Std.Data.TreeSet
import ConceptSpace.Library
import ConceptSpace.Narrative.Attribution
import ConceptSpace.Redactor

/-! The two stages that may block a narrative. Neither changes a text. -/
namespace ConceptSpace

def ethicsFilter (terms : List String) : Stage where
  name := "ethics_filter"
  isBlocking := true
  apply _ n :=
    let redactor := Redactor.ofTerms terms
    let hits := (redactor.findMatches n.intent ++ redactor.findMatches n.growth).eraseDups
    if hits.isEmpty then (n, .pass "clear")
    else (n, .block ("forbidden term(s): " ++ String.intercalate ", " hits))

def missionRedactor? (profile : Option MissionProfile) : Option Redactor :=
  (profile.map fun p => Redactor.ofTerms p.keywords).filter Redactor.isActive

def publicationGatekeeper (profile : Option MissionProfile) : Stage where
  name := "publication_gatekeeper"
  isBlocking := true
  apply c n :=
    match missionRedactor? profile with
    | none => (n, .pass "no mission profile; pass-through")
    | some redactor =>
      let hits := redactor.findMatches n.intent ++ redactor.findMatches n.growth
        ++ redactor.findMatches (attribution c)
      if hits.isEmpty then
        (n, .pass ("no confidential keywords (" ++ toString redactor.terms.length ++ " checked)"))
      else
        let sorted := (Std.TreeSet.ofList hits).toList
        (n, .block ("confidential keyword(s): " ++ String.intercalate ", " sorted))

end ConceptSpace

import ConceptSpace.Decimal.Places
import ConceptSpace.Narrative.Stage
import ConceptSpace.Text.Words

/-! The valence of a text, and the hedge that is put before a growth text when the valence is low or
the match is weak. -/
namespace ConceptSpace

def positiveWords : List String :=
  ["strong", "clear", "close", "similar", "match", "matched", "confident", "consistent", "good"]

def negativeWords : List String :=
  ["weak", "poor", "uncertain", "mismatch", "distant", "unlike", "no", "not", "unclear", "low"]

def valence (text : String) : Float :=
  let words := (Text.words text).toList
  let positive := Float.ofNat (words.countP positiveWords.contains)
  let negative := Float.ofNat (words.countP negativeWords.contains)
  if positive + negative == 0 then 0 else (positive - negative) / (positive + negative)

def hedge : String :=
  "This comparison is tentative; treat it as a starting point rather than a conclusion."

def hedged (growth : String) : String := if growth.isEmpty then hedge else hedge ++ " " ++ growth

def emotionalNuance (weakScore : Float := 0.5) (negativeValence : Float := -0.5) : Stage where
  name := "emotional_nuance"
  apply c n :=
    let v := valence (n.intent ++ " " ++ n.growth)
    if (v ≤ negativeValence || c.score < weakScore) && !Text.startsWith hedge n.growth then
      ({ n with growth := hedged n.growth },
        .pass ("hedged (valence " ++ Decimal.fixed 2 v ++ ", score " ++ Decimal.fixed 3 c.score ++ ")"))
    else (n, .pass ("valence " ++ Decimal.fixed 2 v))

end ConceptSpace

import ConceptSpace.Proofs.FormulaNames
import ConceptSpace.Proofs.KeptFirst
import ConceptSpace.Reasoning.Context

/-! The footprint of a formula.
The names are gathered in one list that both sides of an operator share, so each is listed where it is
first met from the left. Evaluation reads a context at the listed names and nowhere else. -/
namespace ConceptSpace.Formula

def occurrences : Formula → List String
  | .var name => [name]
  | .and a b => a.occurrences ++ b.occurrences
  | .or a b => a.occurrences ++ b.occurrences
  | .not a => a.occurrences

theorem collectKeeps (f : Formula) (listed : List String) :
    f.collect listed = f.occurrences.foldl keepNew listed := by
  induction f generalizing listed with
  | var name => rfl
  | and a b first second => rw [collect, first, second, occurrences, List.foldl_append]
  | or a b first second => rw [collect, first, second, occurrences, List.foldl_append]
  | not a inner => exact inner listed

/-- Each name that occurs is listed once, in the order of first occurrence, and contexts that agree on the
listed names give a formula one value. -/
theorem footprintExact (f : Formula) :
    FirstMet f.occurrences f.names ∧
    ∀ c d : Context, (∀ id ∈ f.names, c.holds id = d.holds id) →
      f.evaluate c.holds = f.evaluate d.holds := by
  constructor
  · rw [names, collectKeeps]
    exact firstMet f.occurrences
  · exact fun c d same => evaluateAlike same

def shore : Formula := .and (.var "sea") (.or (.not (.var "sand")) (.var "sea"))

def atSea : Context := Context.assert ∅ "sea"

def amongGulls : Context := (atSea.insert "sand" false).insert "gull" true

theorem shoreAlike : (∀ id ∈ shore.names, atSea.holds id = amongGulls.holds id) ∧
    shore.evaluate atSea.holds = shore.evaluate amongGulls.holds := by
  have same : ∀ id ∈ shore.names, atSea.holds id = amongGulls.holds id := by decide
  exact ⟨same, (footprintExact shore).2 atSea amongGulls same⟩

end ConceptSpace.Formula

import Mathlib.Data.List.Basic
import ConceptSpace.Analysis.ReasonedVector

/-! Which slots reasoning raises.
Once the observations are merged, the vector is touched by the facts of chaining and by the sweep over
the formulas. Both only raise slots, and raising twice is raising once, so what becomes of a slot is
told by whether either of them comes upon it. -/
namespace ConceptSpace

namespace FeatureVector

theorem raisedAgain (x : Float) : raised (raised x) = raised x := by
  have one : ((1 : Float) == 0) = false := by decide
  unfold raised
  by_cases zero : (x == 0) = true
  · rw [if_pos zero, one]
    rfl
  · rw [if_neg zero, if_neg zero]

theorem adjustLength (change : Dimension → Float → Float) (dimensions : List Dimension)
    (values : FeatureVector) : (adjust change dimensions values).length = values.length := by
  induction dimensions generalizing values with
  | nil => rfl
  | cons d dimensions ih =>
    cases values with
    | nil => rfl
    | cons x values => exact congrArg (· + 1) (ih values)

theorem adjustAt (change : Dimension → Float → Float) {dimensions : List Dimension}
    {values : FeatureVector} {i : Nat} {d : Dimension} {x : Float} (slot : dimensions[i]? = some d)
    (value : values[i]? = some x) : (adjust change dimensions values)[i]? = some (change d x) := by
  induction dimensions generalizing values i with
  | nil => cases slot
  | cons e dimensions ih =>
    cases values with
    | nil => cases value
    | cons y values =>
      cases i with
      | zero =>
        cases slot
        cases value
        rfl
      | succ i => exact ih slot value

end FeatureVector

namespace MergedVector

theorem mergedLength (registry : Registry) (outputs : List ExtractorOutput) :
    (ofOutputs registry outputs).vector.length = registry.size := by
  have placed : ∀ (accepted : List Observation) (v : FeatureVector),
      (accepted.foldl (fun v o => v.place registry o.id o.value) v).length = v.length := by
    intro accepted v
    induction accepted generalizing v with
    | nil => rfl
    | cons o accepted ih => exact (ih _).trans (FeatureVector.adjustLength _ _ _)
  exact (placed _ _).trans ((List.length_map _).trans registry.dimensionsLength)

end MergedVector

namespace Outcome

theorem appliedLength (o : Outcome) (registry : Registry) (v : FeatureVector) :
    (o.applyTo registry v).length = v.length := by
  unfold applyTo
  induction o.trace generalizing v with
  | nil => rfl
  | cons e trace ih => exact (ih _).trans (FeatureVector.adjustLength _ _ _)

theorem appliedAt (o : Outcome) {registry : Registry} {v : FeatureVector} {i : Nat} {d : Dimension}
    {x : Float} (slot : registry.dimensions[i]? = some d) (value : v[i]? = some x) :
    (o.applyTo registry v)[i]? =
      some (if o.trace.any (·.fact == d.id) then FeatureVector.raised x else x) := by
  unfold applyTo
  induction o.trace generalizing v x with
  | nil => exact value
  | cons e trace ih =>
    have raise := FeatureVector.adjustAt
      (fun d x => if d.id == e.fact then FeatureVector.raised x else x) slot value
    rw [List.foldl_cons, FeatureVector.raise, ih raise, List.any_cons]
    by_cases here : e.fact = d.id
    · simp [here, FeatureVector.raisedAgain]
    · simp [here, Ne.symm here]

end Outcome

namespace Sweep

def seen (context : Context) (d : Dimension) : Context :=
  if d.formula.any (·.evaluate context.holds) then context.assert d.id else context

def turn (context : Context) (dimensions : List Dimension) (i : Nat) : Context :=
  (dimensions.take i).foldl seen context

variable (pass : Nat) (context : Context)

theorem sweptVector (d : Dimension) (rest : List Dimension) (values : FeatureVector) :
    (run pass (d :: rest) context values).vector =
      (values.head?.map fun x =>
        if d.formula.any (·.evaluate context.holds) then FeatureVector.raised x else x).toList ++
      (run pass rest (seen context d) values.tail).vector := by
  rw [run, seen]
  split
  · rfl
  · simp

theorem sweptLength (dimensions : List Dimension) (values : FeatureVector) :
    (run pass dimensions context values).vector.length = values.length := by
  induction dimensions generalizing context values with
  | nil => rfl
  | cons d rest ih =>
    rw [sweptVector, List.length_append, ih]
    cases values with
    | nil => rfl
    | cons x values => exact Nat.add_comm 1 values.length

theorem sweptAt {dimensions : List Dimension} {values : FeatureVector} {i : Nat} {d : Dimension}
    {x : Float} (slot : dimensions[i]? = some d) (value : values[i]? = some x) :
    (run pass dimensions context values).vector[i]? =
      some (if d.formula.any (·.evaluate (turn context dimensions i).holds) then
        FeatureVector.raised x else x) := by
  induction dimensions generalizing context values i with
  | nil => cases slot
  | cons e rest ih =>
    rw [sweptVector]
    cases values with
    | nil => cases value
    | cons y values =>
      cases i with
      | zero =>
        cases slot
        cases value
        rfl
      | succ i => exact ih _ slot value

end Sweep

namespace ReasonedVector

variable {World : Type} [WorldModel World] (reasoner : Reasoner) (knowledge : KnowledgeOver World)
  (outputs : List ExtractorOutput)

def chaining : Outcome :=
  reasoner.run knowledge.theory (Context.project reasoner.threshold knowledge.registry
    (MergedVector.ofOutputs knowledge.registry outputs).vector)

def Concluded (outcome : Outcome) (registry : Registry) (i : Nat) (d : Dimension) : Prop :=
  (∃ e ∈ outcome.trace, e.fact = d.id) ∨
    ∃ f, d.formula = some f ∧
      f.evaluate (Sweep.turn outcome.context registry.dimensions i).holds = true

theorem concludedIff {outcome : Outcome} {registry : Registry} {i : Nat} {d : Dimension} :
    Concluded outcome registry i d ↔ outcome.trace.any (·.fact == d.id) = true ∨
      d.formula.any (·.evaluate (Sweep.turn outcome.context registry.dimensions i).holds) = true := by
  unfold Concluded
  cases d.formula with
  | none => simp
  | some f => simp

theorem reasonedLength :
    (ofOutputs reasoner knowledge outputs).vector.length = knowledge.registry.size :=
  (Sweep.sweptLength _ _ _ _).trans
    ((Outcome.appliedLength _ _ _).trans (MergedVector.mergedLength _ _))

theorem reasonedAt {i : Nat} {d : Dimension} {x : Float}
    (slot : knowledge.registry.dimensions[i]? = some d)
    (value : (MergedVector.ofOutputs knowledge.registry outputs).vector[i]? = some x) :
    ∃ y, (ofOutputs reasoner knowledge outputs).vector[i]? = some y ∧
      (Concluded (chaining reasoner knowledge outputs) knowledge.registry i d →
        y = FeatureVector.raised x) ∧
      (¬ Concluded (chaining reasoner knowledge outputs) knowledge.registry i d → y = x) := by
  have inferred := Outcome.appliedAt (chaining reasoner knowledge outputs) slot value
  have swept := Sweep.sweptAt ((chaining reasoner knowledge outputs).passes + 1)
    (chaining reasoner knowledge outputs).context slot inferred
  refine ⟨_, swept, ?_, ?_⟩
  · intro concluded
    rcases concludedIff.mp concluded with fact | formula
    · rw [if_pos fact, FeatureVector.raisedAgain, ite_self]
    · rw [if_pos formula]
      split
      · exact FeatureVector.raisedAgain x
      · rfl
  · intro unconcluded
    obtain ⟨noFact, noFormula⟩ := not_or.mp (mt concludedIff.mpr unconcluded)
    rw [if_neg noFormula, if_neg noFact]

/-- Reasoning adds evidence and changes none: a slot that was observed keeps its value, and one that
holds zero becomes one exactly when its dimension is concluded. -/
theorem reasoningRaises :
    (ofOutputs reasoner knowledge outputs).vector.length = knowledge.registry.size ∧
    ∀ i : Fin knowledge.registry.dimensions.length, ∃ x y,
      (MergedVector.ofOutputs knowledge.registry outputs).vector[i.val]? = some x ∧
      (ofOutputs reasoner knowledge outputs).vector[i.val]? = some y ∧
      ((x == 0) = false → y = x) ∧
      ((x == 0) = true →
        (y = 1 ↔ Concluded (chaining reasoner knowledge outputs) knowledge.registry i
          knowledge.registry.dimensions[i]) ∧
        (¬ Concluded (chaining reasoner knowledge outputs) knowledge.registry i
          knowledge.registry.dimensions[i] → y = x)) := by
  refine ⟨reasonedLength reasoner knowledge outputs, ?_⟩
  intro i
  have slot : knowledge.registry.dimensions[i.val]? = some knowledge.registry.dimensions[i] :=
    List.getElem?_eq_getElem i.isLt
  have inside : i.val < (MergedVector.ofOutputs knowledge.registry outputs).vector.length := by
    rw [MergedVector.mergedLength, ← Registry.dimensionsLength]
    exact i.isLt
  have value := List.getElem?_eq_getElem inside
  obtain ⟨y, final, raises, keeps⟩ := reasonedAt reasoner knowledge outputs slot value
  refine ⟨_, y, value, final, ?_, ?_⟩
  · intro observed
    by_cases concluded : Concluded (chaining reasoner knowledge outputs) knowledge.registry i
        knowledge.registry.dimensions[i]
    · rw [raises concluded, FeatureVector.raised, if_neg (by simp [observed])]
    · exact keeps concluded
  · intro zero
    refine ⟨⟨?_, fun concluded => (raises concluded).trans (if_pos zero)⟩, keeps⟩
    intro one
    by_contra unconcluded
    rw [← keeps unconcluded, one] at zero
    exact absurd zero (by decide)

end ReasonedVector

end ConceptSpace

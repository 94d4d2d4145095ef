import ConceptSpace.Proofs.ExplainedTrace
import ConceptSpace.Proofs.FormulaNames

/-! One sweep over the formulas, where they only look back.
What is true grows as the sweep goes on, and a negation may lose its truth by that. Where a formula comes
after the formulas of all that it mentions, nothing that it mentions changes after its turn, so it has
its final value then, and what is true in the end is settled by the formulas taken together. -/
namespace ConceptSpace

theorem Context.holdsAlike {first second : Context} {id : String} (same : first[id]? = second[id]?) :
    first.holds id = second.holds id := by
  rw [holds, holds, Std.TreeMap.getD_eq_getD_getElem?, Std.TreeMap.getD_eq_getD_getElem?, same]

namespace Sweep

def LooksBack (dimensions : List Dimension) : Prop :=
  ∀ i j : Fin dimensions.length, ∀ f ∈ dimensions[i].formula,
    dimensions[j].formula.isSome = true → dimensions[j].id ∈ f.names → j < i
instance (dimensions : List Dimension) : Decidable (LooksBack dimensions) := by
  unfold LooksBack; infer_instance

def Settled (given : Context) (dimensions : List Dimension) (holds : String → Bool) : Prop :=
  ∀ id, holds id = true ↔
    id ∈ given.truths ∨ ∃ d ∈ dimensions, d.id = id ∧ d.formula.any (·.evaluate holds) = true

variable {dimensions : List Dimension} {context : Context}

theorem seenKeeps {d : Dimension} {id : String} (apart : d.id = id → d.formula = none) :
    (seen context d)[id]? = context[id]? := by
  unfold seen
  split
  · rename_i fires
    by_cases same : d.id = id
    · simp [apart same] at fires
    · rw [Context.assert, Std.TreeMap.getElem?_insert, if_neg (by simpa using same)]
  · rfl

theorem allSeenKeep {id : String} (apart : ∀ d ∈ dimensions, d.id = id → d.formula = none) :
    (dimensions.foldl seen context)[id]? = context[id]? := by
  induction dimensions generalizing context with
  | nil => rfl
  | cons d rest ih =>
    rw [List.foldl_cons, ih fun e later => apart e (List.mem_cons_of_mem d later)]
    exact seenKeeps (apart d List.mem_cons_self)

theorem sweptSeen (pass : Nat) (values : FeatureVector) :
    (run pass dimensions context values).context = dimensions.foldl seen context := by
  induction dimensions generalizing context values with
  | nil => rfl
  | cons d rest ih => rw [sweptContext, ih, List.foldl_cons]

theorem afterTurn (i : Nat) :
    dimensions.foldl seen context = (dimensions.drop i).foldl seen (turn context dimensions i) := by
  rw [turn, ← List.foldl_append, List.take_append_drop]

theorem memSeen {d : Dimension} {id : String} : id ∈ (seen context d).truths ↔
    id ∈ context.truths ∨ d.id = id ∧ d.formula.any (·.evaluate context.holds) = true := by
  unfold seen
  split
  · rename_i fires
    rw [Context.memTruthsAssert]
    simp [fires, or_comm]
  · rename_i idle
    simp [idle]

theorem memAllSeen {id : String} : id ∈ (dimensions.foldl seen context).truths ↔
    id ∈ context.truths ∨ ∃ (i : Nat) (d : Dimension), dimensions[i]? = some d ∧ d.id = id ∧
      d.formula.any (·.evaluate (turn context dimensions i).holds) = true := by
  induction dimensions generalizing context with
  | nil => simp
  | cons d rest ih =>
    rw [List.foldl_cons, ih, memSeen, or_assoc]
    apply or_congr_right
    constructor
    · intro fires
      rcases fires with ⟨named, formula⟩ | ⟨i, e, slot, named, formula⟩
      · exact ⟨0, d, rfl, named, formula⟩
      · exact ⟨i + 1, e, slot, named, formula⟩
    · intro fires
      obtain ⟨i, e, slot, named, formula⟩ := fires
      cases i with
      | zero =>
        cases slot
        exact .inl ⟨named, formula⟩
      | succ i => exact .inr ⟨i, e, slot, named, formula⟩

theorem LooksBack.before (back : LooksBack dimensions) {i j : Nat} {d e : Dimension} {f : Formula}
    (slot : dimensions[i]? = some d) (formula : d.formula = some f) (other : dimensions[j]? = some e)
    (ruled : e.formula ≠ none) (mentioned : e.id ∈ f.names) : j < i := by
  obtain ⟨inside, rfl⟩ := List.getElem?_eq_some_iff.mp slot
  obtain ⟨within, rfl⟩ := List.getElem?_eq_some_iff.mp other
  exact back ⟨i, inside⟩ ⟨j, within⟩ f formula (Option.isSome_iff_ne_none.mpr ruled) mentioned

theorem finalInTurn (back : LooksBack dimensions) {i : Nat} {d : Dimension}
    (slot : dimensions[i]? = some d) :
    d.formula.any (·.evaluate (turn context dimensions i).holds) =
      d.formula.any (·.evaluate (dimensions.foldl seen context).holds) := by
  cases formula : d.formula with
  | none => rfl
  | some f =>
    apply Formula.evaluateAlike
    intro id mentioned
    rw [afterTurn i]
    apply Context.holdsAlike
    symm
    apply allSeenKeep
    intro e later named
    obtain ⟨k, here⟩ := List.mem_iff_getElem?.mp later
    rw [List.getElem?_drop] at here
    by_contra ruled
    have := back.before slot formula here ruled (named ▸ mentioned)
    omega

theorem sweptSettled (back : LooksBack dimensions) :
    Settled context dimensions (dimensions.foldl seen context).holds := by
  intro id
  rw [← Context.memTruths, memAllSeen]
  apply or_congr_right
  constructor
  · intro fires
    obtain ⟨i, d, slot, named, formula⟩ := fires
    exact ⟨d, List.mem_of_getElem? slot, named, finalInTurn back slot ▸ formula⟩
  · intro fires
    obtain ⟨d, listed, named, formula⟩ := fires
    obtain ⟨i, slot⟩ := List.mem_iff_getElem?.mp listed
    exact ⟨i, d, slot, named, finalInTurn back slot ▸ formula⟩

theorem settledAlike (back : LooksBack dimensions) {first second : String → Bool}
    (here : Settled context dimensions first) (there : Settled context dimensions second) (i : Nat) :
    ∀ d, dimensions[i]? = some d →
      d.formula.any (·.evaluate first) = d.formula.any (·.evaluate second) := by
  -- A formula mentions only ids that earlier formulas decide, so the induction is on the slots in their order.
  induction i using Nat.strongRecOn with
  | ind i earlier =>
    intro d slot
    cases formula : d.formula with
    | none => rfl
    | some f =>
      apply Formula.evaluateAlike
      intro id mentioned
      rw [Bool.eq_iff_iff, here id, there id]
      apply or_congr_right
      apply exists_congr
      intro e
      apply and_congr_right
      intro listed
      apply and_congr_right
      intro named
      obtain ⟨j, other⟩ := List.mem_iff_getElem?.mp listed
      by_cases ruled : e.formula = none
      · simp [ruled]
      · rw [earlier j (back.before slot formula other ruled (named ▸ mentioned)) e other]

theorem settledUnique (back : LooksBack dimensions) {first second : String → Bool}
    (here : Settled context dimensions first) (there : Settled context dimensions second) :
    first = second := by
  funext id
  rw [Bool.eq_iff_iff, here id, there id]
  apply or_congr_right
  apply exists_congr
  intro d
  apply and_congr_right
  intro listed
  obtain ⟨i, slot⟩ := List.mem_iff_getElem?.mp listed
  rw [settledAlike back here there i d slot]

theorem sweptBeyond (pass : Nat) {values : FeatureVector} {i : Nat} (beyond : dimensions.length ≤ i) :
    (run pass dimensions context values).vector[i]? = values[i]? := by
  induction dimensions generalizing context values i with
  | nil => rfl
  | cons d rest ih =>
    rw [sweptVector]
    rw [List.length_cons] at beyond
    cases values with
    | nil => exact ih (Nat.le_of_succ_le beyond)
    | cons x values =>
      cases i with
      | zero => cases beyond
      | succ i => exact ih (Nat.le_of_succ_le_succ beyond)

/-- What a sweep leaves, told by what is true in the end. -/
structure Decided (given : Context) (registry : Registry) (values : FeatureVector) (sweep : Sweep) :
    Prop where
  settled : Settled given registry.dimensions sweep.context.holds
  only : ∀ holds, Settled given registry.dimensions holds → holds = sweep.context.holds
  unruled : ∀ id, (∀ d ∈ registry.dimensions, d.id = id → d.formula = none) →
    sweep.context[id]? = given[id]?
  length : sweep.vector.length = values.length
  raised : ∀ (i : Nat) (x : Float), values[i]? = some x → sweep.vector[i]? =
    some (if x == 0 && (registry.formula? i).any (·.evaluate sweep.context.holds) then 1 else x)

/-- Where formulas only look back, one sweep ends in the only truths that the given ones and the formulas
settle. Ids without a formula stay as they were given, and the slots that are raised are those that hold
zero and whose own formula is true in the end. -/
theorem oneSweepSuffices (pass : Nat) {registry : Registry} (back : LooksBack registry.dimensions)
    (context : Context) (values : FeatureVector) :
    Decided context registry values (run pass registry.dimensions context values) := by
  have settled := @sweptSettled _ context back
  have final := @sweptSeen registry.dimensions context pass values
  refine ⟨?_, ?_, ?_, sweptLength pass context registry.dimensions values, ?_⟩
  · rw [final]
    exact settled
  · intro holds also
    rw [final]
    exact settledUnique back also settled
  · intro id apart
    rw [final]
    exact allSeenKeep apart
  · intro i x value
    rw [final]
    cases slot : registry.dimensions[i]? with
    | none =>
      rw [sweptBeyond pass (List.getElem?_eq_none_iff.mp slot), value, Registry.formulaAt, slot]
      simp
    | some d =>
      rw [sweptAt pass context slot value, finalInTurn back slot, Registry.formulaAt, slot,
        Option.bind_some, FeatureVector.raised]
      cases d.formula.any (·.evaluate (registry.dimensions.foldl seen context).holds) <;> simp

def ruledSlot (id : String) (formula : Option Formula) : Slot :=
  ⟨id, id, defaultLayer, formula.map Formula.text, 1⟩

-- An id with two formulas, one of which is false, and a later formula that negates.
def retrospectRules : List (String × Option Formula) :=
  [("sun", none), ("warm", some (.var "sun")), ("warm", some (.not (.var "sun"))),
    ("dry", some (.and (.var "warm") (.not (.var "rain"))))]

def retrospect : Registry where
  slots := retrospectRules.map fun rule => ruledSlot rule.1 rule.2
  rules := retrospectRules.map Prod.snd
  warnings := []
  aligned := rfl

theorem retrospectDecided : LooksBack retrospect.dimensions ∧
    Decided ((∅ : Context).assert "sun") retrospect [1, 0, 0, 0]
      (run 1 retrospect.dimensions ((∅ : Context).assert "sun") [1, 0, 0, 0]) ∧
    (run 1 retrospect.dimensions ((∅ : Context).assert "sun") [1, 0, 0, 0]).vector = [1, 1, 0, 1] := by
  have back : LooksBack retrospect.dimensions := by decide
  exact ⟨back, oneSweepSuffices 1 back _ _, rfl⟩

end Sweep

end ConceptSpace

import ConceptSpace.Proofs.RaisedSlots
import ConceptSpace.Proofs.TextReadBack

/-! Slots that share an id.
Merging and chaining write every slot of an id alike. The sweep raises only the slot whose formula it
finds true, so two slots of one id can part there and nowhere else. -/
namespace ConceptSpace

namespace FeatureVector

def Alike (registry : Registry) (v : FeatureVector) : Prop :=
  ∀ (i j : Nat) (d e : Dimension), registry.dimensions[i]? = some d → registry.dimensions[j]? = some e →
    d.id = e.id → v[i]? = v[j]?

theorem adjustSlot (change : Dimension → Float → Float) {dimensions : List Dimension}
    {values : FeatureVector} {i : Nat} {d : Dimension} (slot : dimensions[i]? = some d) :
    (adjust change dimensions values)[i]? = values[i]?.map (change d) := by
  cases value : values[i]? with
  | some x => exact adjustAt change slot value
  | none =>
    rw [List.getElem?_eq_none_iff] at value
    rw [Option.map_none, List.getElem?_eq_none_iff, adjustLength]
    exact value

theorem adjustAlike {registry : Registry} {v : FeatureVector} {change : Dimension → Float → Float}
    (byId : ∀ d e, d.id = e.id → change d = change e) (alike : Alike registry v) :
    Alike registry (adjust change registry.dimensions v) := by
  intro i j d e first second same
  rw [adjustSlot change first, adjustSlot change second, alike i j d e first second same,
    byId d e same]

theorem zerosAlike (registry : Registry) : Alike registry (zeros registry) := by
  intro i j d e first second _
  rw [zeros, List.getElem?_map, List.getElem?_map, first, second]
  rfl

theorem placeAlike {registry : Registry} {v : FeatureVector} (alike : Alike registry v) (id : String)
    (value : Float) : Alike registry (v.place registry id value) := by
  refine adjustAlike (fun d e same => ?_) alike
  rw [same]

theorem raiseAlike {registry : Registry} {v : FeatureVector} (alike : Alike registry v) (id : String) :
    Alike registry (v.raise registry id) := by
  refine adjustAlike (fun d e same => ?_) alike
  rw [same]

theorem raisedNonzero (x : Float) : (raised x == 0) = false := by
  have one : ((1 : Float) == 0) = false := by decide
  unfold raised
  by_cases zero : (x == 0) = true
  · rw [if_pos zero, one]
  · rw [if_neg zero, Bool.eq_false_iff.mpr zero]

theorem raisedKeeps {x : Float} : raised x = x ↔ (x == 0) = false := by
  constructor
  · intro kept
    rw [← kept, raisedNonzero]
  · intro observed
    rw [raised, observed]
    rfl

theorem raisedAlikeIff {x : Float} {P Q : Prop} [Decidable P] [Decidable Q] :
    (if P then raised x else x) = (if Q then raised x else x) ↔ (x == 0) = false ∨ (P ↔ Q) := by
  rw [← raisedKeeps]
  by_cases here : P
  · by_cases there : Q
    · simp [here, there]
    · simp [here, there]
  · by_cases there : Q
    · simp [here, there, eq_comm]
    · simp [here, there]

end FeatureVector

theorem MergedVector.mergedAlike (registry : Registry) (outputs : List ExtractorOutput) :
    (ofOutputs registry outputs).vector.Alike registry := by
  have placed : ∀ (accepted : List Observation) (v : FeatureVector), v.Alike registry →
      (accepted.foldl (fun v o => v.place registry o.id o.value) v).Alike registry := by
    intro accepted v alike
    induction accepted generalizing v with
    | nil => exact alike
    | cons o accepted ih => exact ih _ (FeatureVector.placeAlike alike o.id o.value)
  exact placed _ _ (FeatureVector.zerosAlike registry)

theorem Outcome.appliedAlike (o : Outcome) {registry : Registry} {v : FeatureVector}
    (alike : v.Alike registry) : (o.applyTo registry v).Alike registry := by
  unfold applyTo
  induction o.trace generalizing v with
  | nil => exact alike
  | cons e trace ih => exact ih (FeatureVector.raiseAlike alike e.fact)

def Sweep.Fires (context : Context) (dimensions : List Dimension) (i : Nat) (d : Dimension) : Prop :=
  ∃ f, d.formula = some f ∧ f.evaluate (turn context dimensions i).holds = true

theorem Sweep.firesIff {context : Context} {dimensions : List Dimension} {i : Nat} {d : Dimension} :
    Fires context dimensions i d ↔
      d.formula.any (·.evaluate (turn context dimensions i).holds) = true := by
  rw [Option.any_eq_true_iff_get]
  unfold Fires
  cases d.formula with
  | none => simp
  | some f => simp

namespace ReasonedVector

variable {World : Type} [WorldModel World] (reasoner : Reasoner) (knowledge : KnowledgeOver World)
  (outputs : List ExtractorOutput)

/-- Two slots of one id are observed alike, and they end alike unless both are zero, chaining does not
infer the id, and the formula of just one of them is true in its turn. -/
theorem sharedIdIff {i j : Nat} {d e : Dimension} (first : knowledge.registry.dimensions[i]? = some d)
    (second : knowledge.registry.dimensions[j]? = some e) (same : d.id = e.id) :
    ∃ x, (MergedVector.ofOutputs knowledge.registry outputs).vector[i]? = some x ∧
      (MergedVector.ofOutputs knowledge.registry outputs).vector[j]? = some x ∧
      ((ofOutputs reasoner knowledge outputs).vector[i]? =
          (ofOutputs reasoner knowledge outputs).vector[j]? ↔
        (x == 0) = false ∨ (∃ t ∈ (chaining reasoner knowledge outputs).trace, t.fact = d.id) ∨
          (Sweep.Fires (chaining reasoner knowledge outputs).context knowledge.registry.dimensions i d ↔
            Sweep.Fires (chaining reasoner knowledge outputs).context knowledge.registry.dimensions j
              e)) := by
  have alike := MergedVector.mergedAlike knowledge.registry outputs
  have inside : i < (MergedVector.ofOutputs knowledge.registry outputs).vector.length := by
    rw [MergedVector.mergedLength, ← Registry.dimensionsLength]
    exact (List.getElem?_eq_some_iff.mp first).1
  have value := List.getElem?_eq_getElem inside
  refine ⟨_, value, (alike i j d e first second same).symm.trans value, ?_⟩
  generalize (MergedVector.ofOutputs knowledge.registry outputs).vector[i] = x at value
  have inferred := Outcome.appliedAt (chaining reasoner knowledge outputs) first value
  have inferredToo := (Outcome.appliedAlike (chaining reasoner knowledge outputs) alike i j d e first
    second same).symm.trans inferred
  have swept := Sweep.sweptAt ((chaining reasoner knowledge outputs).passes + 1)
    (chaining reasoner knowledge outputs).context first inferred
  have sweptToo := Sweep.sweptAt ((chaining reasoner knowledge outputs).passes + 1)
    (chaining reasoner knowledge outputs).context second inferredToo
  have finalHere : (ofOutputs reasoner knowledge outputs).vector[i]? = _ := swept
  have finalThere : (ofOutputs reasoner knowledge outputs).vector[j]? = _ := sweptToo
  rw [finalHere, finalThere, Option.some_inj, FeatureVector.raisedAlikeIff, ← Sweep.firesIff,
    ← Sweep.firesIff]
  by_cases fact : ∃ t ∈ (chaining reasoner knowledge outputs).trace, t.fact = d.id
  · rw [if_pos (by simpa using fact), FeatureVector.raisedNonzero]
    exact ⟨fun _ => .inr (.inl fact), fun _ => .inl rfl⟩
  · rw [if_neg (by simpa using fact), or_iff_right fact]

def plainSlot (id : String) : Slot := ⟨id, id, "general", none, 1⟩

def plain (id : String) : Dimension := { plainSlot id with formula := none }

def hueDefinition : DimensionDef := { id := "hue", rule := some "tint" }

def hue : Dimension := { plainSlot "hue" with rule := some "tint", formula := some (.var "tint") }

def twins : Knowledge where
  registry :=
    { slots := [hue.toSlot, plainSlot "hue", plainSlot "tint"]
      rules := [some (.var "tint"), none, none]
      warnings := []
      aligned := rfl }
  graph := .empty

theorem twinsDefined :
    Registry.ofDefinitions [hueDefinition, { id := "hue" }, { id := "tint" }] = .ok twins.registry := by
  have name : Formula.IsName "tint" :=
    ⟨by decide, List.all_eq_true.mp (by decide), Formula.spellsIff.mpr rfl⟩
  have read : Formula.parse "tint" = .ok (.var "tint") := @Formula.textRead (.var "tint") name (by decide)
  have rule : hueDefinition.ruleText = some "tint" := rfl
  have named : hueDefinition.key.isEmpty = false := rfl
  have entered (r : Registry) : Registry.enter hueDefinition r = r.cons hue.toSlot (some (.var "tint")) := by
    rw [Registry.enter, named, rule, Option.map_some, read]
    rfl
  rw [Registry.ofDefinitions, List.foldr_cons, entered]
  rfl

def eye (id : String) : ExtractorOutput := ⟨"eye", (∅ : Std.TreeMap String Float).insert id 1⟩

theorem twinsSharedIff : twins.registry.dimensions[0]? = some hue ∧
    twins.registry.dimensions[1]? = some (plain "hue") ∧ hue.id = (plain "hue").id ∧
    ∃ x, (MergedVector.ofOutputs twins.registry [eye "hue"]).vector[0]? = some x ∧
      (MergedVector.ofOutputs twins.registry [eye "hue"]).vector[1]? = some x ∧
      ((ofOutputs {} twins [eye "hue"]).vector[0]? = (ofOutputs {} twins [eye "hue"]).vector[1]? ↔
        (x == 0) = false ∨ (∃ t ∈ (chaining {} twins [eye "hue"]).trace, t.fact = hue.id) ∨
          (Sweep.Fires (chaining {} twins [eye "hue"]).context twins.registry.dimensions 0 hue ↔
            Sweep.Fires (chaining {} twins [eye "hue"]).context twins.registry.dimensions 1
              (plain "hue"))) :=
  ⟨rfl, rfl, rfl, sharedIdIff {} twins [eye "hue"] rfl rfl rfl⟩

-- The formula of one slot is true, and the other slot of the id has none.
theorem twinsPart :
    Registry.ofDefinitions [hueDefinition, { id := "hue" }, { id := "tint" }] = .ok twins.registry ∧
    twins.registry.dimensions[0]? = some hue ∧
    twins.registry.dimensions[1]? = some (plain "hue") ∧ hue.id = (plain "hue").id ∧
    (ofOutputs {} twins [eye "tint"]).vector = [1, 0, 1] ∧
    (ofOutputs {} twins [eye "tint"]).vector[0]? ≠ (ofOutputs {} twins [eye "tint"]).vector[1]? := by
  have vector : (ofOutputs {} twins [eye "tint"]).vector = [1, 0, 1] := rfl
  refine ⟨twinsDefined, rfl, rfl, rfl, vector, ?_⟩
  rw [vector]
  intro same
  have one : (1 : Float) = 0 := Option.some.inj same
  have zero : ((1 : Float) == 0) = false := by decide
  rw [one] at zero
  exact absurd zero (by decide)

end ReasonedVector

end ConceptSpace

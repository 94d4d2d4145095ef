import ConceptSpace.Fault
import ConceptSpace.Formula.Parse

/-! The registry: the ordered catalogue of named dimensions.
Its order is the order of vector slots everywhere. Ids may repeat; each occurrence is a slot of its own, and a
look-up by id finds the first. What the definitions say and what their rules are read as stand in two lists of
one length; a dimension is what both have at one place. -/
namespace ConceptSpace

structure DimensionDef where
  id : String
  name : Option String := none
  layer : Option String := none
  rule : Option String := none
  weight : Float := 1
  deriving Repr

structure Slot where
  id : String
  displayName : String
  layer : String
  rule : Option String
  weight : Float
  deriving Repr

structure Dimension extends Slot where
  formula : Option Formula
  deriving Repr

def defaultLayer : String := "general"

def nonblank (text : Option String) : Option String := text.filter (!Text.isBlankText ·)

namespace DimensionDef

def key (d : DimensionDef) : String := Text.trim d.id

def ruleText (d : DimensionDef) : Option String := (nonblank d.rule).map Text.trim

def slot (d : DimensionDef) : Slot where
  id := d.key
  displayName := (nonblank d.name).getD d.key
  layer := (nonblank d.layer).getD defaultLayer
  rule := d.ruleText
  weight := if d.weight.isFinite then d.weight else 1

end DimensionDef

structure Registry where
  slots : List Slot
  rules : List (Option Formula)
  warnings : List Fault
  aligned : rules.length = slots.length
  deriving Repr

namespace Registry

def empty : Registry := ⟨[], [], [], rfl⟩

def cons (r : Registry) (slot : Slot) (formula : Option Formula) : Registry where
  slots := slot :: r.slots
  rules := formula :: r.rules
  warnings := r.warnings
  aligned := congrArg (· + 1) r.aligned

def warn (r : Registry) (fault : Fault) : Registry := { r with warnings := fault :: r.warnings }

-- A definition without an id is passed over; a rule that cannot be read is one that is not there.
def enter (d : DimensionDef) (r : Registry) : Registry :=
  if d.key.isEmpty then r.warn .blankDimension
  else
    match d.ruleText.map Formula.parse with
    | none => r.cons d.slot none
    | some (.ok f) => r.cons d.slot (some f)
    | some (.error e) => (r.cons d.slot none).warn (.formula e)

def ofDefinitions (defs : List DimensionDef) : Except Fault Registry :=
  let gathered := defs.foldr enter empty
  if gathered.slots.isEmpty then .error .noDimensions else .ok gathered

def ofFiles (contents : List (Except Fault (List DimensionDef))) : Except Fault Registry := do
  let registry ← ofDefinitions (contents.flatMap fun content => content.toOption.getD [])
  return { registry with warnings := contents.filterMap Fault.of? ++ registry.warnings }

def dimensions (r : Registry) : List Dimension :=
  r.slots.zipWith (fun slot formula => { slot with formula }) r.rules

def size (r : Registry) : Nat := r.slots.length

def ids (r : Registry) : List String := r.slots.map (·.id)

def get? (r : Registry) (id : String) : Option Dimension := r.dimensions.find? (·.id == id)

def indicesWhere (r : Registry) (p : Slot → Bool) : List Nat :=
  (r.slots.zipIdx.filter fun d => p d.1).map (·.2)

def indicesOf (r : Registry) (id : String) : List Nat := r.indicesWhere (·.id == id)

def indexOf? (r : Registry) (id : String) : Option Nat := r.slots.findIdx? (·.id == id)

def indicesOfLayer (r : Registry) (layer : String) : List Nat := r.indicesWhere (·.layer == layer)

-- In the order of first appearance.
def layers (r : Registry) : List String := (r.slots.map (·.layer)).eraseDups

def formula? (r : Registry) (index : Nat) : Option Formula := r.rules[index]?.join

def weights (r : Registry) : List Float :=
  r.slots.map fun d => if 0 < d.weight then d.weight else 0

variable (r : Registry)

theorem dimensionsLength : r.dimensions.length = r.size := by
  rw [dimensions, List.length_zipWith, r.aligned, Nat.min_self, size]

theorem dimensionAt (i : Nat) :
    r.dimensions[i]? = r.slots[i]?.map fun slot => { slot with formula := r.formula? i } := by
  rw [dimensions, List.getElem?_zipWith, formula?]
  cases slot : r.slots[i]? with
  | none => rfl
  | some slot =>
    have inside : i < r.rules.length := r.aligned ▸ (List.getElem?_eq_some_iff.mp slot).1
    simp [List.getElem?_eq_getElem inside]

theorem dimensionSlots : r.dimensions.map Dimension.toSlot = r.slots := by
  refine List.ext_getElem? fun i => ?_
  rw [List.getElem?_map, dimensionAt, Option.map_map]
  exact congrFun Option.map_id _

theorem dimensionRules : r.dimensions.map Dimension.formula = r.rules := by
  refine List.ext_getElem? fun i => ?_
  rw [List.getElem?_map, dimensions, List.getElem?_zipWith]
  cases formula : r.rules[i]? with
  | none => cases r.slots[i]? <;> rfl
  | some formula =>
    have inside : i < r.slots.length := r.aligned ▸ (List.getElem?_eq_some_iff.mp formula).1
    rw [List.getElem?_eq_getElem inside]
    rfl

theorem formulaAt (i : Nat) : r.formula? i = r.dimensions[i]?.bind (·.formula) := by
  rw [dimensionAt]
  cases slot : r.slots[i]? with
  | some slot => rfl
  | none =>
    have beyond : r.rules.length ≤ i := r.aligned ▸ List.getElem?_eq_none_iff.mp slot
    simp [formula?, beyond]

theorem idsOf : r.ids = r.dimensions.map (·.id) := by
  rw [ids, ← dimensionSlots, List.map_map]
  rfl

theorem layersOf : r.layers = (r.dimensions.map (·.layer)).eraseDups := by
  rw [layers, ← dimensionSlots, List.map_map]
  rfl

end Registry

end ConceptSpace

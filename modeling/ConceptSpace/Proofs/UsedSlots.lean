import Mathlib.Data.List.Forall2
import ConceptSpace.Analysis.ReasonedVector

/-! What reasoning uses of a slot.
Merging, projecting and chaining ask for its id only, and the sweep for its formula besides. What else a
slot holds, such as the text of its rule, makes no difference to what is reasoned. -/
namespace ConceptSpace

structure SameUse (d e : Dimension) : Prop where
  id : d.id = e.id
  formula : d.formula = e.formula

variable {dimensions others : List Dimension} (same : List.Forall₂ SameUse dimensions others)
include same

theorem sameIds : dimensions.map (·.id) = others.map (·.id) := by
  induction same with
  | nil => rfl
  | cons first _ ih => rw [List.map_cons, List.map_cons, first.id, ih]

namespace FeatureVector

theorem sameAdjusted (change : String → Float → Float) (values : FeatureVector) :
    adjust (fun d => change d.id) dimensions values = adjust (fun d => change d.id) others values := by
  induction same generalizing values with
  | nil => rfl
  | cons first _ ih =>
    cases values with
    | nil => rfl
    | cons x values => rw [adjust, adjust, first.id, ih]

end FeatureVector

theorem Context.sameProjected {threshold : Float} (values : FeatureVector) (c : Context) :
    (dimensions.zip values).foldl (fun c slot => c.join slot.1.id (threshold < slot.2)) c =
      (others.zip values).foldl (fun c slot => c.join slot.1.id (threshold < slot.2)) c := by
  induction same generalizing values c with
  | nil => rfl
  | cons first _ ih =>
    cases values with
    | nil => rfl
    | cons x values =>
      rw [List.zip_cons_cons, List.zip_cons_cons, List.foldl_cons, List.foldl_cons, first.id, ih]

theorem Sweep.sameSwept (pass : Nat) (context : Context) (values : FeatureVector) :
    run pass dimensions context values = run pass others context values := by
  induction same generalizing context values with
  | nil => rfl
  | cons first _ ih => simp only [run, entry, first.id, first.formula, ih]

omit same

variable {registry other : Registry} (used : List.Forall₂ SameUse registry.dimensions other.dimensions)
include used

theorem MergedVector.sameMerged (outputs : List ExtractorOutput) :
    ofOutputs registry outputs = ofOutputs other outputs := by
  have ids : registry.ids = other.ids := by rw [Registry.idsOf, Registry.idsOf, sameIds used]
  have zeros : FeatureVector.zeros registry = FeatureVector.zeros other := by
    rw [FeatureVector.zeros, FeatureVector.zeros, List.map_const', List.map_const', used.length_eq]
  have placed : ∀ (v : FeatureVector) (o : Observation),
      v.place registry o.id o.value = v.place other o.id o.value := fun v o =>
    FeatureVector.sameAdjusted used (fun id x => if id == o.id then o.value else x) v
  have accepted : Observation.accepted registry = Observation.accepted other := by
    funext o
    rw [Observation.accepted, Observation.accepted, Observation.dropReason?, Observation.dropReason?, ids]
  have dropped : Observation.dropped? registry = Observation.dropped? other := by
    funext o
    rw [Observation.dropped?, Observation.dropped?, Observation.dropReason?, Observation.dropReason?, ids]
  simp only [ofOutputs, accepted, dropped, zeros, placed]

theorem Outcome.sameApplied (o : Outcome) (v : FeatureVector) :
    o.applyTo registry v = o.applyTo other v := by
  have raised : ∀ (v : FeatureVector) (e : TraceEntry), v.raise registry e.fact = v.raise other e.fact :=
    fun v e =>
      FeatureVector.sameAdjusted used (fun id x => if id == e.fact then FeatureVector.raised x else x) v
  simp only [applyTo, raised]

theorem ReasonedVector.sameReasoned {World : Type} [WorldModel World] (reasoner : Reasoner)
    (knowledge : KnowledgeOver World) (outputs : List ExtractorOutput) :
    ofOutputs reasoner { knowledge with registry } outputs =
      ofOutputs reasoner { knowledge with registry := other } outputs := by
  have projected : ∀ v, Context.project reasoner.threshold registry v =
      Context.project reasoner.threshold other v := fun v => Context.sameProjected used v ∅
  simp only [ofOutputs, MergedVector.sameMerged used, projected, Outcome.sameApplied used,
    Sweep.sameSwept used, KnowledgeOver.theory]

end ConceptSpace

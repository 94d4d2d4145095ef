import Mathlib.Data.List.Induction
import Mathlib.Data.String.Basic
import ConceptSpace.Proofs.Places
import ConceptSpace.Proofs.RaisedSlots

/-! What merging makes of all that the extractors observed.
Values are written in the order of the list, so an id holds what was last written to it. An output has one
value for each id, and what it writes does not depend on the other ids, so the last writer of an id is the
last output that gives it a finite value. All that is not written is dropped and reported. -/
namespace ConceptSpace
open Std

def ExtractorOutput.Gives (output : ExtractorOutput) (id : String) (x : Float) : Prop :=
  output.features[id]? = some x ∧ x.isFinite = true

structure LastGiven (outputs : List ExtractorOutput) (id : String) (output : ExtractorOutput)
    (x : Float) : Prop where
  gives : output.Gives id x
  last : ∃ front rest, outputs = front ++ output :: rest ∧ ∀ later ∈ rest, ∀ y, ¬ later.Gives id y

def NeverGiven (outputs : List ExtractorOutput) (id : String) : Prop :=
  ∀ output ∈ outputs, ∀ x, ¬ output.Gives id x

theorem LastGiven.unique {outputs : List ExtractorOutput} {id : String} {a b : ExtractorOutput}
    {x y : Float} (first : LastGiven outputs id a x) (second : LastGiven outputs id b y) : a = b := by
  obtain ⟨front, rest, split, lastA⟩ := first.last
  obtain ⟨front', rest', split', lastB⟩ := second.last
  rcases List.append_eq_append_iff.mp (split.symm.trans split') with
    ⟨between, _, same⟩ | ⟨between, _, same⟩
  · cases between with
    | nil => exact (List.cons.inj same).1
    | cons c between =>
      have later : b ∈ rest := (List.cons.inj same).2 ▸ List.mem_append_right _ List.mem_cons_self
      exact absurd second.gives (lastA b later y)
  · cases between with
    | nil => exact (List.cons.inj same).1.symm
    | cons c between =>
      have later : a ∈ rest' := (List.cons.inj same).2 ▸ List.mem_append_right _ List.mem_cons_self
      exact absurd first.gives (lastB a later x)

theorem LastGiven.among {outputs : List ExtractorOutput} {id : String} {output : ExtractorOutput}
    {x : Float} (given : LastGiven outputs id output x) : output ∈ outputs := by
  obtain ⟨front, rest, split, _⟩ := given.last
  exact split ▸ List.mem_append_right _ List.mem_cons_self

namespace Observation
variable {registry : Registry} {o : Observation}

theorem acceptedIff : o.accepted registry = true ↔ o.id ∈ registry.ids ∧ o.value.isFinite = true := by
  unfold accepted dropReason?
  by_cases known : o.id ∈ registry.ids
  · by_cases finite : o.value.isFinite = true
    · simp [known, finite]
    · simp [known, finite]
  · simp [known]

theorem droppedNone : o.dropped? registry = none ↔ o.accepted registry = true := by
  rw [dropped?, Option.map_eq_none_iff, accepted, Option.isNone_iff_eq_none]

theorem droppedTold {drop : DroppedFeature} (dropped : o.dropped? registry = some drop) :
    drop.engine = o.engine ∧ drop.id = o.id ∧ drop.reason.message =
      if o.id ∈ registry.ids then "non-finite value" else "unknown dimension id" := by
  obtain ⟨reason, found, rfl⟩ := Option.map_eq_some_iff.mp dropped
  refine ⟨rfl, rfl, ?_⟩
  unfold dropReason? at found
  by_cases known : o.id ∈ registry.ids
  · rw [if_pos (by simpa using known)] at found
    split at found
    · cases found
    · cases found
      rw [if_pos known]
      rfl
  · rw [if_neg (by simpa using known)] at found
    cases found
    rw [if_neg known]
    rfl

def latest {β : Type} (f : Observation → β) (id : String) (accepted : List Observation) (old : β) : β :=
  accepted.foldl (fun x o => if o.id = id then f o else x) old

variable {β : Type} {f : Observation → β} {id : String} {accepted : List Observation} {old : β}

theorem latestNever (absent : ∀ o ∈ accepted, o.id ≠ id) : latest f id accepted old = old := by
  unfold latest
  induction accepted with
  | nil => rfl
  | cons o accepted ih =>
    rw [List.foldl_cons, if_neg (absent o List.mem_cons_self)]
    exact ih fun d later => absent d (List.mem_cons_of_mem _ later)

theorem latestSame {y : β} (present : ∃ o ∈ accepted, o.id = id)
    (same : ∀ o ∈ accepted, o.id = id → f o = y) : latest f id accepted old = y := by
  induction accepted generalizing old with
  | nil => simp at present
  | cons o accepted ih =>
    have rest : ∀ d ∈ accepted, d.id = id → f d = y :=
      fun d later => same d (List.mem_cons_of_mem _ later)
    change latest f id accepted (if o.id = id then f o else old) = y
    by_cases again : ∃ d ∈ accepted, d.id = id
    · exact ih again rest
    · have here : o.id = id := by
        obtain ⟨d, among, named⟩ := present
        rcases List.mem_cons.mp among with rfl | later
        · exact named
        · exact absurd ⟨d, later, named⟩ again
      rw [latestNever fun d later named => again ⟨d, later, named⟩, if_pos here]
      exact same o List.mem_cons_self here

end Observation

theorem memObservations {output : ExtractorOutput} {o : Observation} :
    o ∈ output.observations ↔ o.engine = output.engine ∧ output.features[o.id]? = some o.value := by
  rw [← TreeMap.mem_toList_iff_getElem?_eq_some, ExtractorOutput.observations, List.mem_map]
  constructor
  · intro listed
    obtain ⟨f, among, rfl⟩ := listed
    exact ⟨rfl, among⟩
  · intro observed
    obtain ⟨same, among⟩ := observed
    exact ⟨_, among, by rw [← same]⟩

namespace MergedVector
open Observation (latest latestNever latestSame)
variable (registry : Registry)

def acceptedOf (outputs : List ExtractorOutput) : List Observation :=
  (outputs.flatMap ExtractorOutput.observations).filter (Observation.accepted registry)

variable {registry} {β : Type} {f : Observation → β} {id : String}

theorem acceptedAppend (outputs : List ExtractorOutput) (output : ExtractorOutput) :
    acceptedOf registry (outputs ++ [output]) =
      acceptedOf registry outputs ++ output.observations.filter (Observation.accepted registry) := by
  simp [acceptedOf, List.flatMap_append, List.filter_append]

theorem outputWrites (known : id ∈ registry.ids) (output : ExtractorOutput) (old : β) :
    (∃ x, output.Gives id x ∧
      latest f id (output.observations.filter (Observation.accepted registry)) old =
        f ⟨output.engine, id, x⟩) ∨
    ((∀ x, ¬ output.Gives id x) ∧
      latest f id (output.observations.filter (Observation.accepted registry)) old = old) := by
  by_cases given : ∃ x, output.Gives id x
  · left
    obtain ⟨x, value, finite⟩ := given
    refine ⟨x, ⟨value, finite⟩, latestSame ?_ ?_⟩
    · refine ⟨⟨output.engine, id, x⟩, List.mem_filter.mpr ⟨?_, ?_⟩, rfl⟩
      · exact memObservations.mpr ⟨rfl, value⟩
      · exact Observation.acceptedIff.mpr ⟨known, finite⟩
    -- An output has one value for the id, so all that it writes to the id is the same.
    · intro o among named
      obtain ⟨engine, observed⟩ := memObservations.mp (List.mem_filter.mp among).1
      obtain ⟨e, i, y⟩ := o
      cases engine
      cases named
      cases Option.some.inj (value.symm.trans observed)
      rfl
  · right
    refine ⟨fun x gives => given ⟨x, gives⟩, latestNever fun o among named => given ?_⟩
    obtain ⟨observed, accepted⟩ := List.mem_filter.mp among
    refine ⟨o.value, ?_, (Observation.acceptedIff.mp accepted).2⟩
    rw [← named]
    exact (memObservations.mp observed).2

theorem lastWritten (known : id ∈ registry.ids) (outputs : List ExtractorOutput) (old : β) :
    (∃ output x, LastGiven outputs id output x ∧
      latest f id (acceptedOf registry outputs) old = f ⟨output.engine, id, x⟩) ∨
    (NeverGiven outputs id ∧ latest f id (acceptedOf registry outputs) old = old) := by
  -- The last output overrides the others, so the list is taken from its end.
  induction outputs using List.reverseRecOn with
  | nil => exact .inr ⟨by simp [NeverGiven], rfl⟩
  | append_singleton outputs output ih =>
    have step : latest f id (acceptedOf registry (outputs ++ [output])) old =
        latest f id (output.observations.filter (Observation.accepted registry))
          (latest f id (acceptedOf registry outputs) old) := by
      rw [acceptedAppend, latest, List.foldl_append]
      rfl
    rw [step]
    rcases outputWrites (f := f) known output (latest f id (acceptedOf registry outputs) old) with
      ⟨x, gives, writes⟩ | ⟨silent, keeps⟩
    · exact .inl ⟨output, x, ⟨gives, outputs, [], rfl, by simp⟩, writes⟩
    · rw [keeps]
      rcases ih with ⟨earlier, x, ⟨gives, front, rest, split, last⟩, writes⟩ | ⟨never, keeps⟩
      · refine .inl ⟨earlier, x, ⟨gives, front, rest ++ [output], ?_, ?_⟩, writes⟩
        · rw [split, List.append_assoc, List.cons_append]
        · intro later among
          rcases List.mem_append.mp among with between | new
          · exact last later between
          · exact List.mem_singleton.mp new ▸ silent
      · refine .inr ⟨fun given among => ?_, keeps⟩
        rcases List.mem_append.mp among with old | new
        · exact never given old
        · exact List.mem_singleton.mp new ▸ silent

theorem placedAt {accepted : List Observation} {v : FeatureVector} {i : Nat} {d : Dimension} {x : Float}
    (slot : registry.dimensions[i]? = some d) (value : v[i]? = some x) :
    (accepted.foldl (fun v o => v.place registry o.id o.value) v)[i]? =
      some (latest Observation.value d.id accepted x) := by
  induction accepted generalizing v x with
  | nil => exact value
  | cons o accepted ih =>
    have placed := FeatureVector.adjustAt (fun d x => if d.id == o.id then o.value else x) slot value
    rw [List.foldl_cons, FeatureVector.place, ih placed]
    by_cases here : o.id = d.id
    · simp [latest, here]
    · simp [latest, here, Ne.symm here]

theorem recordedAt {accepted : List Observation} {m : TreeMap String String} :
    (accepted.foldl (fun m o => m.insert o.id o.engine) m)[id]? =
      latest (fun o => some o.engine) id accepted m[id]? := by
  induction accepted generalizing m with
  | nil => rfl
  | cons o accepted ih =>
    rw [List.foldl_cons, ih, TreeMap.getElem?_insert]
    simp [latest]

variable (registry) (outputs : List ExtractorOutput)

theorem slotMerged {i : Nat} {d : Dimension} (slot : registry.dimensions[i]? = some d) :
    ∃ x, (ofOutputs registry outputs).vector[i]? = some x ∧
      ((∃ output, LastGiven outputs d.id output x) ∨ NeverGiven outputs d.id ∧ x = 0) := by
  have zero : (FeatureVector.zeros registry)[i]? = some 0 := by
    rw [FeatureVector.zeros, List.getElem?_map, slot]
    rfl
  have known : d.id ∈ registry.ids :=
    registry.idsOf ▸ List.mem_map_of_mem (List.mem_of_getElem? slot)
  refine ⟨_, placedAt slot zero, ?_⟩
  rcases lastWritten (f := Observation.value) known outputs 0 with
    ⟨output, x, given, writes⟩ | ⟨never, keeps⟩
  · exact .inl ⟨output, by rw [acceptedOf] at writes; rw [writes]; exact given⟩
  · exact .inr ⟨never, keeps⟩

theorem mergedFinite : ∀ x ∈ (ofOutputs registry outputs).vector, x.isFinite = true := by
  intro x listed
  obtain ⟨i, within, rfl⟩ := List.mem_iff_getElem.mp listed
  have inside : i < registry.dimensions.length := by
    rw [mergedLength, ← Registry.dimensionsLength] at within
    exact within
  obtain ⟨x, value, ⟨output, given⟩ | ⟨_, zero⟩⟩ :=
    slotMerged registry outputs (List.getElem?_eq_getElem inside)
  · cases Option.some.inj ((List.getElem?_eq_getElem within).symm.trans value)
    exact given.gives.2
  · rw [Option.some.inj ((List.getElem?_eq_getElem within).symm.trans value), zero]
    decide

theorem provenanceIff {id engine : String} :
    (ofOutputs registry outputs).provenance[id]? = some engine ↔
      id ∈ registry.ids ∧ ∃ output x, LastGiven outputs id output x ∧ output.engine = engine := by
  have recorded : (ofOutputs registry outputs).provenance[id]? =
      latest (fun o => some o.engine) id (acceptedOf registry outputs) none := recordedAt
  rw [recorded]
  by_cases known : id ∈ registry.ids
  · rcases lastWritten (f := fun o => some o.engine) known outputs none with
      ⟨output, x, given, writes⟩ | ⟨never, keeps⟩
    · rw [writes, Option.some_inj]
      constructor
      · exact fun same => ⟨known, output, x, given, same⟩
      · intro last
        obtain ⟨_, other, y, also, rfl⟩ := last
        rw [given.unique also]
    · rw [keeps]
      constructor
      · nofun
      · intro last
        obtain ⟨_, output, x, given, _⟩ := last
        exact absurd given.gives (never output given.among x)
  · rw [latestNever fun o among named => known ?_]
    · exact ⟨nofun, fun last => absurd last.1 known⟩
    · rw [← named]
      exact (Observation.acceptedIff.mp (List.mem_filter.mp among).2).1

def Earlier (p q : Nat × String) : Prop := p.1 < q.1 ∨ p.1 = q.1 ∧ p.2 < q.2

def placedObservations : List ((Nat × String) × Observation) :=
  outputs.zipIdx.flatMap fun output => output.1.observations.map fun o => ((output.2, o.id), o)

theorem placedOrdered : (placedObservations outputs).Pairwise fun a b => Earlier a.1 b.1 := by
  rw [placedObservations, List.pairwise_flatMap]
  constructor
  · intro output _
    rw [ExtractorOutput.observations, List.map_map, List.pairwise_map]
    exact TreeMap.ordered_keys_toList.imp fun less => .inr ⟨rfl, compare_lt_iff_lt.mp less⟩
  · refine (zipIdxOrdered outputs).imp fun less a fromA b fromB => ?_
    obtain ⟨_, _, rfl⟩ := List.mem_map.mp fromA
    obtain ⟨_, _, rfl⟩ := List.mem_map.mp fromB
    exact .inl less

theorem memPlaced {p : Nat × String} {o : Observation} : (p, o) ∈ placedObservations outputs ↔
    ∃ output, outputs[p.1]? = some output ∧ o.engine = output.engine ∧ o.id = p.2 ∧
      output.features[p.2]? = some o.value := by
  rw [placedObservations, List.mem_flatMap]
  constructor
  · intro listed
    obtain ⟨output, among, listed⟩ := listed
    obtain ⟨o, observed, same⟩ := List.mem_map.mp listed
    cases same
    obtain ⟨engine, value⟩ := memObservations.mp observed
    exact ⟨output.1, List.mem_zipIdx_iff_getElem?.mp among, engine, rfl, value⟩
  · intro found
    obtain ⟨output, here, engine, named, value⟩ := found
    refine ⟨(output, p.1), List.mem_zipIdx_iff_getElem?.mpr here, List.mem_map.mpr ⟨o, ?_, ?_⟩⟩
    · exact memObservations.mpr ⟨engine, named ▸ value⟩
    · rw [named]

theorem droppedPlaced : (ofOutputs registry outputs).dropped =
    (placedObservations outputs).filterMap fun a => a.2.dropped? registry := by
  have unplaced : outputs.flatMap ExtractorOutput.observations =
      (placedObservations outputs).map Prod.snd := by
    have whole : outputs.flatMap ExtractorOutput.observations =
        (outputs.zipIdx.map Prod.fst).flatMap ExtractorOutput.observations := by
      rw [List.zipIdx_map_fst]
    rw [whole, List.flatMap_map]
    simp [placedObservations, List.map_flatMap, Function.comp_def]
  rw [ofOutputs, unplaced, List.filterMap_map]
  rfl

def Refused (p : Nat × String) : Prop :=
  ∃ output x, outputs[p.1]? = some output ∧ output.features[p.2]? = some x ∧
    ¬ (p.2 ∈ registry.ids ∧ x.isFinite = true)

def Explains (p : Nat × String) (drop : DroppedFeature) : Prop :=
  ∃ output, outputs[p.1]? = some output ∧ drop.engine = output.engine ∧ drop.id = p.2 ∧
    drop.reason.message =
      if p.2 ∈ registry.ids then "non-finite value" else "unknown dimension id"

theorem droppedReported : Reports Earlier (Refused registry outputs) (Explains registry outputs)
    (ofOutputs registry outputs).dropped := by
  rw [droppedPlaced]
  refine (filterMapReports (placedOrdered outputs) (Observation.dropped? registry)).congr ?_ ?_
  · intro p
    constructor
    · intro reported
      obtain ⟨o, placed, dropped⟩ := reported
      obtain ⟨output, here, _, named, value⟩ := (memPlaced outputs).mp placed
      refine ⟨output, o.value, here, value, ?_⟩
      rw [← named, ← Observation.acceptedIff]
      exact mt Observation.droppedNone.mpr dropped
    · intro refused
      obtain ⟨output, x, here, value, unwritten⟩ := refused
      refine ⟨⟨output.engine, p.2, x⟩, (memPlaced outputs).mpr ⟨output, here, rfl, rfl, value⟩, ?_⟩
      exact mt Observation.droppedNone.mp (mt Observation.acceptedIff.mp unwritten)
  · intro p drop told
    obtain ⟨o, placed, dropped⟩ := told
    obtain ⟨output, here, engine, named, _⟩ := (memPlaced outputs).mp placed
    obtain ⟨byEngine, ofId, reason⟩ := Observation.droppedTold dropped
    exact ⟨output, here, byEngine.trans engine, ofId.trans named, named ▸ reason⟩

/-- Nothing that the extractors give is lost. Each slot holds the last finite value given to its id, and
zero where there is none; every id so written is credited to the output that gave the value; and all other
contributions are reported, output by output and in the order of the ids, each with its reason. -/
theorem mergedLossless :
    (ofOutputs registry outputs).vector.length = registry.size ∧
    (∀ x ∈ (ofOutputs registry outputs).vector, x.isFinite = true) ∧
    (∀ i : Fin registry.dimensions.length, ∃ x, (ofOutputs registry outputs).vector[i.val]? = some x ∧
      ((∃ output, LastGiven outputs registry.dimensions[i].id output x) ∨
        NeverGiven outputs registry.dimensions[i].id ∧ x = 0)) ∧
    (∀ id engine, (ofOutputs registry outputs).provenance[id]? = some engine ↔
      id ∈ registry.ids ∧ ∃ output x, LastGiven outputs id output x ∧ output.engine = engine) ∧
    Reports Earlier (Refused registry outputs) (Explains registry outputs)
      (ofOutputs registry outputs).dropped := by
  refine ⟨mergedLength registry outputs, mergedFinite registry outputs, ?_, ?_,
    droppedReported registry outputs⟩
  · exact fun i => slotMerged registry outputs (List.getElem?_eq_getElem i.isLt)
  · exact fun id engine => provenanceIff registry outputs

end MergedVector

end ConceptSpace

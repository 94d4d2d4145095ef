import Mathlib.Algebra.BigOperators.Group.Finset.Basic
import Mathlib.Algebra.Order.Field.Rat
import Mathlib.Data.String.Basic
import ConceptSpace.Analysis.ReasonedVector
import ConceptSpace.Narrative.Advisory
import ConceptSpace.Proofs.KeptFirst

/-! The verdict on the balance of a vector.
The counts that the checker is given are those of the active slots: each layer of the registry has one, and
together they count every active slot once. So what it warns of is told by the slots alone, in exact
fractions as in floats. -/
namespace ConceptSpace
open Std (TreeMap)

theorem dominantFound (best : String × Nat) (activity : List (String × Nat)) :
    (activity.foldl (fun best layer => if best.2 < layer.2 then layer else best) best = best ∧
      ∀ e ∈ activity, e.2 ≤ best.2) ∨
    ∃ before e after, activity = before ++ e :: after ∧
      activity.foldl (fun best layer => if best.2 < layer.2 then layer else best) best = e ∧
      best.2 < e.2 ∧ (∀ d ∈ before, d.2 < e.2) ∧ ∀ d ∈ after, d.2 ≤ e.2 := by
  induction activity generalizing best with
  | nil => exact .inl ⟨rfl, by simp⟩
  | cons x activity ih =>
    rw [List.foldl_cons]
    by_cases rises : best.2 < x.2
    · rw [if_pos rises]
      refine .inr ?_
      rcases ih x with ⟨stays, most⟩ | ⟨before, e, after, split, leads, above, less, most⟩
      · exact ⟨[], x, activity, rfl, stays, rises, by simp, most⟩
      · refine ⟨x :: before, e, after, by rw [split, List.cons_append], leads, rises.trans above, ?_, most⟩
        exact List.forall_mem_cons.mpr ⟨above, less⟩
    · rw [if_neg rises]
      rcases ih best with ⟨stays, most⟩ | ⟨before, e, after, split, leads, above, less, most⟩
      · exact .inl ⟨stays, List.forall_mem_cons.mpr ⟨not_lt.mp rises, most⟩⟩
      · refine .inr ⟨x :: before, e, after, by rw [split, List.cons_append], leads, above, ?_, most⟩
        exact List.forall_mem_cons.mpr ⟨(not_lt.mp rises).trans_lt above, less⟩

theorem dominantLeads {activity : List (String × Nat)} (ordered : activity.Pairwise fun d e => d.1 < e.1)
    (some : ∃ e ∈ activity, e.2 ≠ 0) :
    dominantLayer activity ∈ activity ∧ ∀ d ∈ activity, d.2 ≤ (dominantLayer activity).2 ∧
      (d.2 = (dominantLayer activity).2 → (dominantLayer activity).1 ≤ d.1) := by
  rcases dominantFound ("", 0) activity with ⟨_, most⟩ | ⟨before, e, after, split, leads, _, less, most⟩
  · obtain ⟨e, listed, counted⟩ := some
    exact absurd (Nat.le_zero.mp (most e listed)) counted
  · have found : dominantLayer activity = e := leads
    rw [split] at ordered
    obtain ⟨_, later, _⟩ := List.pairwise_append.mp ordered
    rw [found, split]
    refine ⟨List.mem_append_right _ List.mem_cons_self, fun d listed => ?_⟩
    rcases List.mem_append.mp listed with early | here
    · exact ⟨(less d early).le, fun same => absurd same (less d early).ne⟩
    · rcases List.mem_cons.mp here with rfl | late
      · exact ⟨le_rfl, fun _ => le_rfl⟩
      · exact ⟨most d late, fun _ => ((List.pairwise_cons.mp later).1 d late).le⟩

example : dominantLayer [("air", 1), ("sea", 2), ("sky", 2)] = ("sea", 2) := rfl

namespace Registry

def activeSlots (registry : Registry) (threshold : Float) (vector : FeatureVector) :
    List (Dimension × Float) :=
  (registry.dimensions.zip vector).filter fun slot => threshold < slot.2

def activeIn (registry : Registry) (threshold : Float) (vector : FeatureVector) (layer : String) : Nat :=
  (registry.activeSlots threshold vector).countP (·.1.layer == layer)

structure Dominant (registry : Registry) (threshold : Float) (vector : FeatureVector) (layer : String) :
    Prop where
  listed : layer ∈ registry.layers
  most : ∀ other ∈ registry.layers,
    registry.activeIn threshold vector other ≤ registry.activeIn threshold vector layer
  first : ∀ other ∈ registry.layers,
    registry.activeIn threshold vector other = registry.activeIn threshold vector layer → layer ≤ other

variable {registry : Registry} {threshold : Float} {vector : FeatureVector}

theorem idleAt (layers : List String) (counts : TreeMap String Nat) (id : String) :
    (layers.foldl (fun m layer => m.insert layer 0) counts)[id]? =
      if id ∈ layers then some 0 else counts[id]? := by
  induction layers generalizing counts with
  | nil => simp
  | cons layer layers ih =>
    rw [List.foldl_cons, ih, TreeMap.getElem?_insert]
    by_cases later : id ∈ layers
    · simp [later]
    · by_cases here : layer = id
      · simp [here]
      · simp [later, here, Ne.symm here]

theorem talliedAt (slots : List (Dimension × Float)) (counts : TreeMap String Nat)
    (known : ∀ slot ∈ slots, slot.1.layer ∈ counts) (id : String) :
    (slots.foldl (fun m slot => m.insert slot.1.layer (m.getD slot.1.layer 0 + 1)) counts)[id]? =
      counts[id]?.map (· + slots.countP (·.1.layer == id)) := by
  induction slots generalizing counts with
  | nil => simp
  | cons slot slots ih =>
    obtain ⟨here, later⟩ := List.forall_mem_cons.mp known
    rw [List.foldl_cons, ih _ fun other listed => TreeMap.mem_insert.mpr (.inr (later other listed)),
      TreeMap.getElem?_insert, List.countP_cons]
    by_cases same : slot.1.layer = id
    · subst same
      rw [TreeMap.getD_eq_getD_getElem?, TreeMap.getElem?_eq_some_getElem here]
      simp [Nat.add_assoc, Nat.add_comm 1]
    · simp [same]

theorem activeLayer {slot : Dimension × Float} (active : slot ∈ registry.activeSlots threshold vector) :
    slot.1.layer ∈ registry.layers := by
  have slotted := (List.of_mem_zip (List.mem_filter.mp active).1).1
  rw [Registry.layersOf]
  exact List.mem_eraseDups.mpr (List.mem_map_of_mem slotted)

theorem activityAt (layer : String) : (registry.layerActivity threshold vector)[layer]? =
    if layer ∈ registry.layers then some (registry.activeIn threshold vector layer) else none := by
  have idle := idleAt registry.layers ∅
  have known : ∀ slot ∈ registry.activeSlots threshold vector,
      slot.1.layer ∈ registry.layers.foldl (fun m layer => m.insert layer 0) (∅ : TreeMap String Nat) := by
    intro slot active
    rw [TreeMap.mem_iff_isSome_getElem?, idle, if_pos (activeLayer active)]
    rfl
  rw [layerActivity, ← activeSlots, talliedAt _ _ known, idle]
  by_cases listed : layer ∈ registry.layers
  · simp [listed, activeIn]
  · simp [listed]

theorem memActivity {entry : String × Nat} :
    entry ∈ (registry.layerActivity threshold vector).toList ↔
      entry.1 ∈ registry.layers ∧ entry.2 = registry.activeIn threshold vector entry.1 := by
  rw [TreeMap.mem_toList_iff_getElem?_eq_some, activityAt]
  split
  · rename_i listed
    simp [listed, eq_comm]
  · rename_i unlisted
    simp [unlisted]

theorem activityOrdered :
    (registry.layerActivity threshold vector).toList.Pairwise fun d e => d.1 < e.1 :=
  (TreeMap.ordered_keys_toList (t := registry.layerActivity threshold vector)).imp compare_lt_iff_lt.mp

theorem layersDistinct : registry.layers.Nodup := keptOnce _

theorem activityPerm : ((registry.layerActivity threshold vector).toList.map Prod.fst).Perm
    registry.layers := by
  refine (List.perm_ext_iff_of_nodup ?_ layersDistinct).mpr fun layer => ?_
  · exact (List.pairwise_map.mpr activityOrdered).imp fun less => ne_of_lt less
  · rw [List.mem_map]
    constructor
    · rintro ⟨entry, listed, rfl⟩
      exact (memActivity.mp listed).1
    · intro listed
      exact ⟨(layer, registry.activeIn threshold vector layer), memActivity.mpr ⟨listed, rfl⟩, rfl⟩

theorem activityLength :
    (registry.layerActivity threshold vector).toList.length = registry.layers.length := by
  rw [← activityPerm.length_eq, List.length_map]

theorem countedOnce {layers named : List String} (distinct : layers.Nodup)
    (within : ∀ layer ∈ named, layer ∈ layers) : (layers.map named.count).sum = named.length := by
  have among : ∀ layer ∈ (named : Multiset String), layer ∈ layers.toFinset := fun layer counted =>
    List.mem_toFinset.mpr (within layer (Multiset.mem_coe.mp counted))
  rw [← List.sum_toFinset _ distinct, ← Multiset.coe_card, ← Multiset.sum_count_eq_card among]
  exact Finset.sum_congr rfl fun layer _ => (Multiset.coe_count layer named).symm

theorem activitySum : ((registry.layerActivity threshold vector).toList.map Prod.snd).sum =
    (registry.activeSlots threshold vector).length := by
  have counts : (registry.layerActivity threshold vector).toList.map Prod.snd =
      ((registry.layerActivity threshold vector).toList.map Prod.fst).map
        (registry.activeIn threshold vector) := by
    rw [List.map_map]
    exact List.map_congr_left fun entry listed => (memActivity.mp listed).2
  have each : registry.activeIn threshold vector =
      ((registry.activeSlots threshold vector).map (·.1.layer)).count := by
    funext layer
    rw [List.count, List.countP_map]
    rfl
  rw [counts, (activityPerm.map _).sum_eq, each, countedOnce layersDistinct, List.length_map]
  exact List.forall_mem_map.mpr fun slot active => activeLayer active

theorem activityTotal : (registry.layerActivity threshold vector).toList.foldl (fun n e => n + e.2) 0 =
    (registry.activeSlots threshold vector).length := by
  rw [← activitySum, List.sum_eq_foldl, List.foldl_map]

theorem dominantIs (some : registry.activeSlots threshold vector ≠ []) :
    let leader := dominantLayer (registry.layerActivity threshold vector).toList
    Dominant registry threshold vector leader.1 ∧
      leader.2 = registry.activeIn threshold vector leader.1 := by
  intro leader
  have counted : ∃ e ∈ (registry.layerActivity threshold vector).toList, e.2 ≠ 0 := by
    by_contra none
    push Not at none
    have empty : ((registry.layerActivity threshold vector).toList.map Prod.snd).sum = 0 :=
      List.sum_eq_zero (List.forall_mem_map.mpr none)
    rw [activitySum, List.length_eq_zero_iff] at empty
    exact some empty
  obtain ⟨among, leads⟩ := dominantLeads activityOrdered counted
  obtain ⟨listed, count⟩ := memActivity.mp among
  rw [count] at leads
  refine ⟨⟨listed, fun other known => ?_, fun other known => ?_⟩, count⟩
  · exact (leads (other, _) (memActivity.mpr ⟨known, rfl⟩)).1
  · exact (leads (other, _) (memActivity.mpr ⟨known, rfl⟩)).2

theorem inactiveIff : registry.activeSlots threshold vector = [] ↔
    ∀ slot ∈ registry.dimensions.zip vector, ¬ threshold < slot.2 := by
  simp [activeSlots, List.filter_eq_nil_iff]

end Registry

section
variable {α : Type} [Div α] [LT α]

def Registry.share (ofCount : Nat → α) (registry : Registry) (threshold : Float) (vector : FeatureVector)
    (layer : String) : α :=
  ofCount (registry.activeIn threshold vector layer) /
    ofCount (registry.activeSlots threshold vector).length

structure Reflects (ofCount : Nat → α) (write : α → String) (dominance : α) (registry : Registry)
    (threshold : Float) (vector : FeatureVector) (verdict : Verdict) : Prop where
  idle : verdict = .warn "no active dimensions" ↔
    ∀ slot ∈ registry.dimensions.zip vector, ¬ threshold < slot.2
  active : (∃ slot ∈ registry.dimensions.zip vector, threshold < slot.2) →
    ∃ layer, registry.Dominant threshold vector layer ∧
      ((∃ note, verdict = .warn note) ↔
        2 ≤ registry.layers.length ∧ dominance < registry.share ofCount threshold vector layer) ∧
      ∀ note, verdict = .warn note → note = "layer '" ++ layer ++ "' carries " ++
        write (registry.share ofCount threshold vector layer) ++ " of active dimensions"

variable [DecidableLT α] {registry : Registry} {threshold : Float} {vector : FeatureVector}
  {ofCount : Nat → α} {write : α → String} {dominance : α}

theorem layerNamed (layer rest : String) : "layer '" ++ layer ++ rest ≠ "no active dimensions" := by
  intro same
  have first := congrArg (fun text => text.toList.head?) same
  simp [String.toList_append] at first

theorem balanceReflected : Reflects ofCount write dominance registry threshold vector
    ((Balance.of ofCount dominance (registry.layerActivity threshold vector).toList).verdict write) := by
  unfold Balance.of
  simp only [Registry.activityTotal, Registry.activityLength, beq_iff_eq, List.length_eq_zero_iff]
  by_cases none : registry.activeSlots threshold vector = []
  · have idle := Registry.inactiveIff.mp none
    rw [if_pos none]
    refine ⟨iff_of_true rfl idle, fun some => ?_⟩
    obtain ⟨slot, slotted, above⟩ := some
    exact absurd above (idle slot slotted)
  · have busy := mt Registry.inactiveIff.mpr none
    obtain ⟨dominant, count⟩ := Registry.dominantIs none
    rw [if_neg none, count]
    split
    · rename_i few
      refine ⟨iff_of_false Verdict.noConfusion busy, fun _ => ⟨_, dominant, ?_, nofun⟩⟩
      exact iff_of_false nofun fun several => Nat.not_lt.mpr several.1 few
    · rename_i several
      split
      · rename_i above
        refine ⟨iff_of_false (fun same => ?_) busy, fun _ => ⟨_, dominant, ?_, ?_⟩⟩
        · simp only [Balance.verdict, Verdict.warn.injEq, String.append_assoc] at same
          exact layerNamed _ _ same
        · exact iff_of_true ⟨_, rfl⟩ ⟨Nat.not_lt.mp several, above⟩
        · intro note warned
          cases warned
          rfl
      · rename_i within
        refine ⟨iff_of_false Verdict.noConfusion busy, fun _ => ⟨_, dominant, ?_, nofun⟩⟩
        exact iff_of_false nofun fun exceeds => within exceeds.2

end

/-- The counts are those of the active slots, layer by layer. The verdict on them names the first of the layers
with the most of these, if that layer's part of them all exceeds the setting: in exact fractions, and in the floats
that the program computes. -/
theorem balanceReflects (registry : Registry) (threshold : Float) (vector : FeatureVector)
    (c : Circumstances) (n : Narrative) :
    let counts := registry.layerActivity threshold vector
    let given := { c with layerActivity := counts }
    (∀ layer, counts[layer]? =
      if layer ∈ registry.layers then some (registry.activeIn threshold vector layer) else none) ∧
    (counts.toList.map Prod.snd).sum = (registry.activeSlots threshold vector).length ∧
    (∀ (dominance : ℚ) (write : ℚ → String), Reflects Nat.cast write dominance registry threshold vector
      ((balanceCheckerBy Nat.cast write dominance).apply given n).2) ∧
    ∀ dominance : Float, Reflects Float.ofNat percentage dominance registry threshold vector
      ((balanceChecker dominance).apply given n).2 := by
  refine ⟨Registry.activityAt, Registry.activitySum, fun dominance write => ?_, fun dominance => ?_⟩
  · exact balanceReflected
  · exact balanceReflected

end ConceptSpace

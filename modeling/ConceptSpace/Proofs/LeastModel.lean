import Mathlib.Data.Set.Card
import ConceptSpace.Proofs.Passes
import ConceptSpace.Proofs.Supertypes

/-! Forward chaining computes a least model.
One pass asserts exactly what follows in one step from the concepts true when it began. So every model of
what is given contains all that passes assert, a pass that asserts nothing leaves a model, and each other
pass takes one concept at least out of what the least model has left. -/
namespace ConceptSpace.Reasoner
open Std

structure Model (r : Reasoner) (theory : Theory) (given s : Set String) : Prop where
  given : given ⊆ s
  rules : ∀ rule ∈ theory.rulebase.rules, ¬ rule.confidence.getD 1 < r.minConfidence →
    (∀ t ∈ rule.triggers, t ∈ s) → rule.conclusion ∈ s
  isA : ∀ a b, theory.graph.IsA a b → a ∈ s → b ∈ s

def leastModel (r : Reasoner) (theory : Theory) (given : Set String) : Set String :=
  ⋂₀ {s | r.Model theory given s}

theorem leastModelLeast (r : Reasoner) (theory : Theory) (given : Set String) :
    IsLeast {s | r.Model theory given s} (r.leastModel theory given) := by
  refine ⟨⟨?_, ?_, ?_⟩, fun s model => Set.sInter_subset_of_mem model⟩
  · exact Set.subset_sInter fun s model => model.given
  · intro rule mem strong triggers s model
    exact model.rules rule mem strong fun t ht => triggers t ht s model
  · intro a b edge source s model
    exact model.isA a b edge (source s model)

theorem Model.derived {r : Reasoner} {theory : Theory} {given s t : Set String}
    (model : r.Model theory given s) (inside : t ⊆ s) {f : String} (h : r.Derived theory t f) :
    f ∈ s := by
  cases h with
  | rule rule mem eligible triggers =>
    exact model.rules rule mem (eligibleIff.mp eligible) fun t ht => inside (triggers t ht)
  | supertype source above =>
    have path := (ConceptGraph.memSupertypes.mp above).2
    clear above
    induction path with
    | single edge => exact model.isA _ _ edge (inside source)
    | tail _ edge ih => exact model.isA _ _ edge ih

theorem modelOfClosed {r : Reasoner} {theory : Theory} {given s : Set String} (start : given ⊆ s)
    (closed : ∀ f, r.Derived theory s f → f ∈ s) : r.Model theory given s := by
  refine ⟨start, fun rule mem strong triggers => ?_, fun a b edge source => ?_⟩
  · exact closed _ (.rule rule mem (eligibleIff.mpr strong) triggers)
  · by_cases same : b = a
    · exact same ▸ source
    · exact closed _ (.supertype source (ConceptGraph.memSupertypes.mpr ⟨same, .single edge⟩))

theorem chainInside {r : Reasoner} {theory : Theory} {given s : Set String}
    (model : r.Model theory given s) (pass left : Nat) {c : Context} (inside : c.truths ⊆ s) :
    (r.chain theory pass c left).context.truths ⊆ s := by
  induction left generalizing pass c with
  | zero => exact inside
  | succ left ih =>
    by_cases idle : r.infer theory pass c = []
    · rw [chainStops idle]; exact inside
    · rw [chainGoes idle]
      refine ih (pass + 1) fun f asserted => ?_
      rcases memTruthsAfterPass.mp asserted with old | derived
      · exact inside old
      · exact model.derived inside derived

theorem capWithinRest {r : Reasoner} {theory : Theory} {given s : Set String}
    (model : r.Model theory given s) {pass left : Nat} {c : Context} (inside : c.truths ⊆ s)
    (finite : (s \ c.truths).Finite)
    (exceeded : (r.chain theory pass c left).limitExceeded = true) :
    left ≤ (s \ c.truths).ncard := by
  -- Each pass that the cap allows takes a concept out of what the model has left.
  induction left generalizing pass c with
  | zero => omega
  | succ left ih =>
    by_cases idle : r.infer theory pass c = []
    · simp [chainStops idle] at exceeded
    · rw [chainGoes idle] at exceeded
      have after : (c.assertAll (r.infer theory pass c)).truths ⊆ s := by
        intro f asserted
        rcases memTruthsAfterPass.mp asserted with old | derived
        · exact inside old
        · exact model.derived inside derived
      obtain ⟨e, mem⟩ := List.exists_mem_of_ne_nil _ idle
      obtain ⟨fresh, derived⟩ := inferredIff.mp ⟨e, mem, rfl⟩
      have shrinks : s \ (c.assertAll (r.infer theory pass c)).truths ⊂ s \ c.truths := by
        refine (Set.ssubset_iff_of_subset ?_).mpr ⟨e.fact, ?_, ?_⟩
        · exact Set.sdiff_subset_sdiff_right fun f old => memTruthsAfterPass.mpr (.inl old)
        · exact ⟨model.derived inside derived, fresh⟩
        · exact fun rest => rest.2 (memTruthsAfterPass.mpr (.inr derived))
      have fewer := Set.ncard_lt_ncard shrinks finite
      have bound := ih after (finite.subset shrinks.subset) exceeded
      omega

theorem leastModelFinite (r : Reasoner) (theory : Theory) (given : Set String) :
    (r.leastModel theory given \ given).Finite := by
  let heads := (theory.rulebase.rules.map Rule.conclusion).toFinset ∪
    (theory.graph.edges.map ConceptEdge.target).toFinset
  have model : r.Model theory given (given ∪ heads) := by
    refine ⟨Set.subset_union_left, ?_, ?_⟩
    · intro rule mem _ _
      exact .inr (Finset.mem_coe.mpr (Finset.mem_union_left _
        (List.mem_toFinset.mpr (List.mem_map_of_mem mem))))
    · intro a b isA _
      obtain ⟨e, edge, rfl, _⟩ := isA
      exact .inr (Finset.mem_coe.mpr (Finset.mem_union_right _
        (List.mem_toFinset.mpr (List.mem_map_of_mem (ConceptGraph.memEdges edge)))))
  refine heads.finite_toSet.subset fun f rest => ?_
  exact ((leastModelLeast r theory given).2 model rest.1).resolve_left rest.2

/-- A run that ends before its cap reaches the least model, any run stays inside it, and a cap above the
number of concepts to be found is never met. -/
theorem runComputesLeastModel (r : Reasoner) (theory : Theory) (start : Context) :
    IsLeast {s | r.Model theory start.truths s} (r.leastModel theory start.truths) ∧
    ((r.run theory start).limitExceeded = false →
      (r.run theory start).context.truths = r.leastModel theory start.truths) ∧
    (r.run theory start).context.truths ⊆ r.leastModel theory start.truths ∧
    (r.leastModel theory start.truths \ start.truths).Finite ∧
    ((r.leastModel theory start.truths \ start.truths).ncard < r.cap →
      (r.run theory start).limitExceeded = false) := by
  have least := leastModelLeast r theory start.truths
  have finite := leastModelFinite r theory start.truths
  have inside := chainInside least.1 1 r.cap least.1.given
  refine ⟨least, ?_, inside, finite, ?_⟩
  · intro settled
    have model := modelOfClosed (chainKeeps r theory 1 r.cap start) fun f => chainClosed settled
    exact Set.Subset.antisymm inside (least.2 model)
  · intro room
    by_contra exceeded
    have bound := capWithinRest least.1 least.1.given finite (Bool.eq_true_of_not_eq_false exceeded)
    omega

end ConceptSpace.Reasoner

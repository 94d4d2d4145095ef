import ConceptSpace.Proofs.ContextTruths
import ConceptSpace.Proofs.KeptFirst

/-! One pass of chaining, and chains of passes, over any world model.
A pass asserts exactly what follows in one step from the concepts true when it began, by a rule or as a
supertype, and a chain that ends by itself leaves nothing to follow. -/
namespace ConceptSpace.Reasoner
open Std

variable {World : Type} {r : Reasoner} {theory : TheoryOver World} {c : Context}

theorem eligibleIff {rule : Rule} : r.eligible rule = true ↔ ¬ rule.confidence.getD 1 < r.minConfidence := by
  simp [eligible]

theorem firingConcludes {f : String} :
    f ∈ (r.firing theory c).map Rule.conclusion ↔
      f ∉ c.truths ∧ ∃ rule ∈ theory.rulebase.rules, r.eligible rule = true ∧
        (∀ t ∈ rule.triggers, t ∈ c.truths) ∧ rule.conclusion = f := by
  have once : (r.firing theory c).map Rule.conclusion =
      ((theory.rulebase.rules.filter (r.fires c)).map Rule.conclusion).eraseDups :=
    (keptMap (· == ·) Rule.conclusion _).symm
  rw [once, List.mem_eraseDups, List.mem_map]
  simp only [List.mem_filter, fires, Bool.and_eq_true, Bool.not_eq_true', List.all_eq_true]
  constructor
  · intro fired
    obtain ⟨rule, ⟨mem, ⟨eligible, fresh⟩, triggers⟩, rfl⟩ := fired
    exact ⟨by simp [Context.memTruths, fresh], rule, mem, eligible, triggers, rfl⟩
  · intro concluded
    obtain ⟨fresh, rule, mem, eligible, triggers, rfl⟩ := concluded
    exact ⟨rule, ⟨mem, ⟨eligible, by simpa [Context.memTruths] using fresh⟩, triggers⟩, rfl⟩

variable [WorldModel World]

inductive Derived (r : Reasoner) (theory : TheoryOver World) (s : Set String) : String → Prop where
  | rule (rule : Rule) (mem : rule ∈ theory.rulebase.rules) (eligible : r.eligible rule = true)
      (triggers : ∀ t ∈ rule.triggers, t ∈ s) : Derived r theory s rule.conclusion
  | supertype {a f : String} (source : a ∈ s) (above : f ∈ WorldModel.supertypes theory.graph a) :
      Derived r theory s f

theorem memGeneralised {concluded : List String} {f : String} :
    f ∈ generalised theory c concluded ↔
      f ∉ c.truths ∧ f ∉ concluded ∧ ∃ a ∈ c.truths, f ∈ WorldModel.supertypes theory.graph a := by
  rw [generalised, List.mem_eraseDups, List.mem_filter, List.mem_flatMap]
  simp only [TreeSet.mem_toList, Context.memFacts, Bool.and_eq_true, Bool.not_eq_true',
    List.contains_eq_mem, decide_eq_false_iff_not]
  constructor
  · intro added
    obtain ⟨reached, fresh, unconcluded⟩ := added
    exact ⟨by simp [Context.memTruths, fresh], unconcluded, reached⟩
  · intro reached
    obtain ⟨fresh, unconcluded, reached⟩ := reached
    exact ⟨reached, by simpa [Context.memTruths] using fresh, unconcluded⟩

theorem inferredIff {pass : Nat} {f : String} :
    (∃ e ∈ r.infer theory pass c, e.fact = f) ↔ f ∉ c.truths ∧ r.Derived theory c.truths f := by
  have facts : (∃ e ∈ r.infer theory pass c, e.fact = f) ↔
      f ∈ (r.firing theory c).map Rule.conclusion ∨
        f ∈ generalised theory c ((r.firing theory c).map Rule.conclusion) := by
    simp [infer, or_and_right, exists_or]
  rw [facts, memGeneralised]
  constructor
  · intro inferred
    rcases inferred with concluded | ⟨fresh, _, a, source, above⟩
    · obtain ⟨fresh, rule, mem, eligible, triggers, rfl⟩ := firingConcludes.mp concluded
      exact ⟨fresh, .rule rule mem eligible triggers⟩
    · exact ⟨fresh, .supertype source above⟩
  · intro follows
    obtain ⟨fresh, derived⟩ := follows
    by_cases concluded : f ∈ (r.firing theory c).map Rule.conclusion
    · exact .inl concluded
    · cases derived with
      | rule rule mem eligible triggers =>
        exact absurd (firingConcludes.mpr ⟨fresh, rule, mem, eligible, triggers, rfl⟩) concluded
      | supertype source above => exact .inr ⟨fresh, concluded, _, source, above⟩

theorem memTruthsAfterPass {pass : Nat} {f : String} :
    f ∈ (c.assertAll (r.infer theory pass c)).truths ↔ f ∈ c.truths ∨ r.Derived theory c.truths f := by
  rw [Context.memTruthsAssertAll, inferredIff]
  constructor
  · intro true
    rcases true with old | ⟨_, derived⟩
    · exact .inl old
    · exact .inr derived
  · intro true
    rcases true with old | derived
    · exact .inl old
    · by_cases old : f ∈ c.truths
      · exact .inl old
      · exact .inr ⟨old, derived⟩

theorem idleIff {pass : Nat} :
    r.infer theory pass c = [] ↔ ∀ f, r.Derived theory c.truths f → f ∈ c.truths := by
  constructor
  · intro idle f derived
    by_contra fresh
    have new : ∃ e ∈ r.infer theory pass c, e.fact = f := inferredIff.mpr ⟨fresh, derived⟩
    simp [idle] at new
  · intro closed
    by_contra busy
    obtain ⟨e, mem⟩ := List.exists_mem_of_ne_nil _ busy
    obtain ⟨fresh, derived⟩ := inferredIff.mp ⟨e, mem, rfl⟩
    exact fresh (closed _ derived)

theorem chainStops {pass left : Nat}
    (idle : r.infer theory pass c = []) :
    r.chain theory pass c (left + 1) = ⟨c, [], pass, false⟩ := by
  rw [chain, idle]

theorem chainGoes {pass left : Nat}
    (busy : r.infer theory pass c ≠ []) :
    r.chain theory pass c (left + 1) =
      { r.chain theory (pass + 1) (c.assertAll (r.infer theory pass c)) left with
        trace := r.infer theory pass c ++
          (r.chain theory (pass + 1) (c.assertAll (r.infer theory pass c)) left).trace } := by
  rw [chain]
  split
  · rename_i idle; exact absurd idle busy
  · rfl

theorem chainAsserts (r : Reasoner) (theory : TheoryOver World) (pass left : Nat) (c : Context) :
    (r.chain theory pass c left).context = c.assertAll (r.chain theory pass c left).trace := by
  induction left generalizing pass c with
  | zero => rfl
  | succ left ih =>
    by_cases idle : r.infer theory pass c = []
    · rw [chainStops idle]
      rfl
    · rw [chainGoes idle, Context.assertAllAppend]
      exact ih (pass + 1) _

theorem chainKeeps (r : Reasoner) (theory : TheoryOver World) (pass left : Nat) (c : Context) :
    c.truths ⊆ (r.chain theory pass c left).context.truths := by
  induction left generalizing pass c with
  | zero => exact fun _ old => old
  | succ left ih =>
    by_cases idle : r.infer theory pass c = []
    · rw [chainStops idle]
    · rw [chainGoes idle]
      exact fun f old => ih (pass + 1) _ (memTruthsAfterPass.mpr (.inl old))

theorem chainClosed {pass left : Nat}
    (settled : (r.chain theory pass c left).limitExceeded = false) {f : String}
    (derived : r.Derived theory (r.chain theory pass c left).context.truths f) :
    f ∈ (r.chain theory pass c left).context.truths := by
  induction left generalizing pass c with
  | zero => simp [chain] at settled
  | succ left ih =>
    by_cases idle : r.infer theory pass c = []
    · rw [chainStops idle] at derived ⊢
      exact idleIff.mp idle f derived
    · rw [chainGoes idle] at settled derived ⊢
      exact ih settled derived

end ConceptSpace.Reasoner

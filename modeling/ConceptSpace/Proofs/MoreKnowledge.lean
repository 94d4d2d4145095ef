import ConceptSpace.Proofs.Additions
import ConceptSpace.Proofs.Derivation
import ConceptSpace.Proofs.ValueOrder

/-! Forward chaining from more.
Who starts with more true concepts, more rules, more edges, a lower bar or more passes loses no fact: what
is known after each pass only grows. So the order of rules and edges, and how often each is given, tells
at most in which order a pass logs its facts and which rule it names. -/
namespace ConceptSpace.Reasoner
open Std

structure Within (r : Reasoner) (theory : Theory) (start : Context)
    (q : Reasoner) (larger : Theory) (later : Context) : Prop where
  start : start.truths ⊆ later.truths
  rules : ∀ rule ∈ theory.rulebase.rules, rule ∈ larger.rulebase.rules
  isA : ∀ a b, theory.graph.IsA a b → larger.graph.IsA a b
  minConfidence : q.minConfidence ≤ r.minConfidence
  cap : r.cap ≤ q.cap

structure Rearranged (theory other : Theory) : Prop where
  rules : ∀ rule, rule ∈ theory.rulebase.rules ↔ rule ∈ other.rulebase.rules
  isA : ∀ a b, theory.graph.IsA a b ↔ other.graph.IsA a b

variable {r q : Reasoner} {theory other : Theory} {start later c d : Context}

theorem consequencesMore {s t : Set String}
    (eligible : ∀ rule, r.eligible rule = true → q.eligible rule = true)
    (rules : ∀ rule ∈ theory.rulebase.rules, rule ∈ other.rulebase.rules)
    (isA : ∀ a b, theory.graph.IsA a b → other.graph.IsA a b) (inside : s ⊆ t) :
    r.consequences theory s ⊆ q.consequences other t := by
  intro f follows
  rcases follows with (old | ⟨rule, mem, strong, triggers, concludes⟩) | ⟨a, source, above⟩
  · exact .inl (.inl (inside old))
  · have still := eligibleIff.mp (eligible rule (eligibleIff.mpr strong))
    exact .inl (.inr ⟨rule, rules rule mem, still, fun t ht => inside (triggers t ht), concludes⟩)
  · obtain ⟨other, path⟩ := ConceptGraph.memSupertypes.mp above
    exact .inr ⟨a, inside source,
      ConceptGraph.memSupertypes.mpr ⟨other, Relation.TransGen.mono isA _ _ path⟩⟩

theorem Within.eligible (within : Within r theory start q other later) (rule : Rule)
    (eligible : r.eligible rule = true) : q.eligible rule = true := by
  refine eligibleIff.mpr fun weak => eligibleIff.mp eligible ?_
  exact ValueOrder.belowGreater weak within.minConfidence

theorem Within.known (within : Within r theory start q other later) (n : Nat) :
    r.known theory start.truths n ⊆ q.known other later.truths n := by
  induction n with
  | zero => exact within.start
  | succ n ih =>
    rw [knownNext, knownNext]
    exact consequencesMore within.eligible within.rules within.isA ih

theorem Within.run (within : Within r theory start q other later) :
    (r.run theory start).context.truths ⊆ (q.run other later).context.truths := by
  rw [runKnown, runKnown]
  exact (within.known r.cap).trans (knownGrows within.cap)

theorem Rearranged.symm (same : Rearranged theory other) : Rearranged other theory :=
  ⟨fun rule => (same.rules rule).symm, fun a b => (same.isA a b).symm⟩

theorem Rearranged.consequences (same : Rearranged theory other) :
    r.consequences theory = r.consequences other := by
  have half : ∀ {theory other : Theory}, Rearranged theory other → ∀ s,
      r.consequences theory s ⊆ r.consequences other s := by
    intro theory other same s
    exact consequencesMore (fun _ => id) (fun rule => (same.rules rule).mp)
      (fun a b => (same.isA a b).mp) Set.Subset.rfl
  funext s
  exact (half same s).antisymm (half same.symm s)

theorem Rearranged.idle (same : Rearranged theory other) (now : c.truths = d.truths) {pass : Nat} :
    r.infer theory pass c = [] ↔ r.infer other pass d = [] := by
  rw [idleFixed, idleFixed, same.consequences, now]

theorem Rearranged.pass (same : Rearranged theory other) (now : c.truths = d.truths) (pass : Nat) :
    (c.assertAll (r.infer theory pass c)).truths = (d.assertAll (r.infer other pass d)).truths := by
  ext f
  rw [memTruthsAfterPass, memTruthsAfterPass, ← memConsequences, ← memConsequences, same.consequences, now]

theorem Rearranged.chain (same : Rearranged theory other) (now : c.truths = d.truths) (pass left : Nat) :
    (r.chain theory pass c left).passes = (r.chain other pass d left).passes ∧
      (r.chain theory pass c left).limitExceeded = (r.chain other pass d left).limitExceeded := by
  induction left generalizing pass c d with
  | zero => exact ⟨rfl, rfl⟩
  | succ left ih =>
    by_cases idle : r.infer theory pass c = []
    · rw [chainStops idle, chainStops ((same.idle now).mp idle)]
      exact ⟨rfl, rfl⟩
    · rw [chainGoes idle, chainGoes (mt (same.idle now).mpr idle)]
      exact ih (same.pass now pass) (pass + 1)

theorem Rearranged.known (same : Rearranged theory other) (given : Set String) :
    r.known theory given = r.known other given := by
  funext n
  rw [Reasoner.known, Reasoner.known, same.consequences]

theorem Rearranged.logs (same : Rearranged theory other) (p : Nat) (f : String) :
    (∃ e ∈ (r.run theory start).trace, e.fact = f ∧ e.pass = p) ↔
      ∃ e ∈ (r.run other start).trace, e.fact = f ∧ e.pass = p := by
  rw [runLogs, runLogs, same.known]

theorem Rearranged.context (same : Rearranged theory other) :
    (r.run theory start).context.Equiv (r.run other start).context := by
  have half : ∀ {theory other : Theory}, Rearranged theory other → ∀ id,
      (∃ e ∈ (r.run theory start).trace, e.fact = id) → ∃ e ∈ (r.run other start).trace, e.fact = id := by
    intro theory other same id logged
    obtain ⟨e, mem, fact⟩ := logged
    obtain ⟨d, mem, fact, _⟩ := (same.logs e.pass id).mp ⟨e, mem, fact, rfl⟩
    exact ⟨d, mem, fact⟩
  refine TreeMap.Equiv.of_forall_constGet?_eq fun id => ?_
  have asserted : ∀ theory : Theory, (r.run theory start).context[id]? =
      if ∃ e ∈ (r.run theory start).trace, e.fact = id then some true else start[id]? := by
    intro theory
    rw [← Context.assertedAt]
    exact congrArg (·[id]?) (chainAsserts r theory 1 r.cap start)
  rw [asserted, asserted]
  exact if_congr ⟨half same id, half same.symm id⟩ rfl rfl

/-- More given is more inferred; and what is given in another order, or more than once, is inferred alike
and in the same passes. -/
theorem chainingMonotone (r q : Reasoner) (theory other : Theory) (start later : Context) :
    (Within r theory start q other later →
      (r.run theory start).context.truths ⊆ (q.run other later).context.truths) ∧
    (Rearranged theory other →
      (r.run theory start).context.Equiv (r.run other start).context ∧
      (r.run theory start).passes = (r.run other start).passes ∧
      (r.run theory start).limitExceeded = (r.run other start).limitExceeded ∧
      ∀ p f, (∃ e ∈ (r.run theory start).trace, e.fact = f ∧ e.pass = p) ↔
        ∃ e ∈ (r.run other start).trace, e.fact = f ∧ e.pass = p) := by
  constructor
  · intro within
    exact within.run
  · intro same
    have now : start.truths = start.truths := rfl
    obtain ⟨passes, limit⟩ := @Rearranged.chain r theory other start start same now 1 r.cap
    exact ⟨same.context, passes, limit, same.logs⟩

def barks : Rule := ⟨["barks"], "dog", some 0.75⟩

def keptDog : Rule := ⟨["dog", "animal"], "pet", none⟩

def kennel : Theory where
  rulebase := ⟨[barks, keptDog], []⟩
  graph := (ConceptGraph.empty.addIsA "dog" "mammal").addIsA "mammal" "animal"

def kennelAgain : Theory where
  rulebase := ⟨[keptDog, barks, keptDog], []⟩
  graph := ((ConceptGraph.empty.addIsA "mammal" "animal").addIsA "dog" "mammal").addIsA "mammal" "animal"

def barking : Context := Context.assert ∅ "barks"

theorem kennelAlike : Rearranged kennel kennelAgain ∧
    Within { maxPasses := 2, minConfidence := 0.5 } kennel barking {} kennelAgain (barking.assert "wet") ∧
    (({} : Reasoner).run kennel barking).context.Equiv (({} : Reasoner).run kennelAgain barking).context ∧
    (({ maxPasses := 2, minConfidence := 0.5 } : Reasoner).run kennel barking).context.truths ⊆
      (({} : Reasoner).run kennelAgain (barking.assert "wet")).context.truths := by
  have same : Rearranged kennel kennelAgain := by
    constructor
    · intro rule
      simp only [kennel, kennelAgain, List.mem_cons, List.not_mem_nil, or_false]
      grind
    · intro a b
      have once : kennel.graph.IsA a b ↔ _ := @ConceptGraph.isAIff [.isA "dog" "mammal", .isA "mammal" "animal"] a b
      have again : kennelAgain.graph.IsA a b ↔ _ :=
        @ConceptGraph.isAIff [.isA "mammal" "animal", .isA "dog" "mammal", .isA "mammal" "animal"] a b
      rw [once, again]
      simp [ConceptGraph.Addition.Says, or_comm]
  have within : Within { maxPasses := 2, minConfidence := 0.5 } kennel barking {} kennelAgain
      (barking.assert "wet") := by
    constructor
    · exact fun id old => Context.memTruthsAssert.mpr (.inr old)
    · exact fun rule => (same.rules rule).mp
    · exact fun a b => (same.isA a b).mp
    · decide
    · decide
  exact ⟨same, within, ((chainingMonotone _ {} _ _ _ barking).2 same).1,
    (chainingMonotone _ _ _ _ _ _).1 within⟩

end ConceptSpace.Reasoner

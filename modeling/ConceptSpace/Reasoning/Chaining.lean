import ConceptSpace.ConceptGraph
import ConceptSpace.Rulebase
import ConceptSpace.Reasoning.Context

/-! Forward chaining.
A pass reads the context as it stood when the pass began: it finds the conclusions of the rules that
fire and the supertypes of the true concepts, as far as they are not true yet, and asserts them all
at once. Passes go on until one finds nothing new, or until the cap on passes is reached. -/
namespace ConceptSpace

/-- A world model as chaining sees it: it gives all supertypes of a concept. -/
class WorldModel (World : Type) where
  supertypes : World → String → Std.TreeSet String

instance : WorldModel ConceptGraph := ⟨ConceptGraph.supertypes⟩

structure TheoryOver (World : Type) where
  rulebase : Rulebase
  graph : World

abbrev Theory := TheoryOver ConceptGraph

structure Reasoner where
  threshold : Float := 0.5
  maxPasses : Nat := 50
  minConfidence : Float := 0
  deriving Repr

namespace Reasoner

def cap (r : Reasoner) : Nat := max r.maxPasses 1

def eligible (r : Reasoner) (rule : Rule) : Bool := !(rule.confidence.getD 1 < r.minConfidence)

def fires (r : Reasoner) (context : Context) (rule : Rule) : Bool :=
  r.eligible rule && !context.holds rule.conclusion && rule.triggers.all context.holds

variable {World : Type}

def firing (r : Reasoner) (theory : TheoryOver World) (context : Context) : List Rule :=
  (theory.rulebase.rules.filter (r.fires context)).eraseDupsBy
    fun a b => a.conclusion == b.conclusion

variable [WorldModel World]

def generalised (theory : TheoryOver World) (context : Context) (concluded : List String) : List String :=
  ((context.facts.flatMap fun id => (WorldModel.supertypes theory.graph id).toList).filter
    fun id => !context.holds id && !concluded.contains id).eraseDups

def infer (r : Reasoner) (theory : TheoryOver World) (pass : Nat) (context : Context) : List TraceEntry :=
  let rules := r.firing theory context
  let supertypes := generalised theory context (rules.map (·.conclusion))
  rules.map (fun rule => ⟨pass, rule.label, rule.conclusion⟩)
    ++ supertypes.map (⟨pass, TraceEntry.worldModelSource, ·⟩)

end Reasoner

structure Outcome where
  context : Context
  trace : List TraceEntry
  passes : Nat
  limitExceeded : Bool

def Context.assertAll (c : Context) (entries : List TraceEntry) : Context :=
  entries.foldl (fun c e => c.assert e.fact) c

namespace Reasoner

variable {World : Type} [WorldModel World]

def chain (r : Reasoner) (theory : TheoryOver World) (pass : Nat) (context : Context) :
    (left : Nat) → Outcome
  | 0 => ⟨context, [], pass - 1, true⟩
  | left + 1 =>
    match r.infer theory pass context with
    | [] => ⟨context, [], pass, false⟩
    | new =>
      let rest := chain r theory (pass + 1) (context.assertAll new) left
      { rest with trace := new ++ rest.trace }

def run (r : Reasoner) (theory : TheoryOver World) (context : Context) : Outcome :=
  r.chain theory 1 context r.cap

end Reasoner

namespace Outcome

def warning? (o : Outcome) : Option Fault :=
  if o.limitExceeded then some (.reasoningLimit o.passes) else none

def applyTo (o : Outcome) (registry : Registry) (vector : FeatureVector) : FeatureVector :=
  o.trace.foldl (fun v e => v.raise registry e.fact) vector

def changedSlots (o : Outcome) (registry : Registry) (vector : FeatureVector) : List Nat :=
  (o.trace.flatMap fun e =>
    (registry.indicesOf e.fact).filter fun i => (vector[i]?).any (· == 0)).eraseDups

end Outcome

end ConceptSpace

import ConceptSpace.Reasoning.Context

/-! The formulas of dimensions, evaluated once each in registry order.
A formula that is true makes its dimension true, so that later formulas see it, and raises its slot;
a formula that is false changes nothing. -/
namespace ConceptSpace

structure Sweep where
  context : Context
  vector : FeatureVector
  trace : List TraceEntry

namespace Sweep

def entry (pass : Nat) (d : Dimension) : TraceEntry :=
  ⟨pass, TraceEntry.logicSource ++ ":" ++ d.id, d.id⟩

/-- Sweeps over dimensions and the values of their slots; a value may be missing at the end, and
values without a dimension stay. A fact that was already true is logged only if its slot is raised. -/
def run (pass : Nat) : List Dimension → Context → FeatureVector → Sweep
  | [], context, values => ⟨context, values, []⟩
  | d :: rest, context, values =>
    if d.formula.any (·.evaluate context.holds) then
      let after := run pass rest (context.assert d.id) values.tail
      { after with
        vector := (values.head?.map FeatureVector.raised).toList ++ after.vector
        trace :=
          if !context.holds d.id || values.head?.any (· == 0) then entry pass d :: after.trace
          else after.trace }
    else
      let after := run pass rest context values.tail
      { after with vector := values.head?.toList ++ after.vector }

end Sweep

end ConceptSpace

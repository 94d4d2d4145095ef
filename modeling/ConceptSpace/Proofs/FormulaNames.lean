import ConceptSpace.Formula.Basic

/-! The names in a formula, which are all that its value depends on. -/
namespace ConceptSpace.Formula

theorem memCollect {f : Formula} {listed : List String} {id : String} :
    id ∈ f.collect listed ↔ id ∈ listed ∨ id ∈ f.collect [] := by
  induction f generalizing listed with
  | var name =>
    simp only [collect]
    split <;> simp_all
  | and a b first second =>
    rw [collect, collect, second, first, @second (a.collect []), or_assoc]
  | or a b first second =>
    rw [collect, collect, second, first, @second (a.collect []), or_assoc]
  | not a inner => exact inner

theorem memNamesAnd {a b : Formula} {id : String} :
    id ∈ (Formula.and a b).names ↔ id ∈ a.names ∨ id ∈ b.names :=
  @memCollect b (a.collect []) id

theorem memNamesOr {a b : Formula} {id : String} :
    id ∈ (Formula.or a b).names ↔ id ∈ a.names ∨ id ∈ b.names :=
  @memCollect b (a.collect []) id

theorem evaluateAlike {f : Formula} {first second : String → Bool}
    (same : ∀ id ∈ f.names, first id = second id) : f.evaluate first = f.evaluate second := by
  induction f with
  | var name => exact same name (by simp [names, collect])
  | and a b left right =>
    simp only [evaluate]
    rw [left fun id listed => same id (memNamesAnd.mpr (.inl listed)),
      right fun id listed => same id (memNamesAnd.mpr (.inr listed))]
  | or a b left right =>
    simp only [evaluate]
    rw [left fun id listed => same id (memNamesOr.mpr (.inl listed)),
      right fun id listed => same id (memNamesOr.mpr (.inr listed))]
  | not a inner =>
    simp only [evaluate]
    rw [inner same]

end ConceptSpace.Formula

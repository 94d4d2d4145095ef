import Mathlib.Data.Set.Basic
import ConceptSpace.Reasoning.Chaining

/-! The concepts that a context makes true, as a set. -/
namespace ConceptSpace.Context

def truths (c : Context) : Set String := {id | c.holds id = true}

theorem memTruths {c : Context} {id : String} : id ∈ c.truths ↔ c.holds id = true := Iff.rfl

theorem memTruthsAssert {c : Context} {id x : String} :
    x ∈ (c.assert id).truths ↔ id = x ∨ x ∈ c.truths := by
  rw [memTruths, memTruths, holds, assert, Std.TreeMap.getD_insert]
  by_cases same : id = x
  · simp [same]
  · simp [same, holds]

theorem memTruthsAssertAll {c : Context} {entries : List TraceEntry} {x : String} :
    x ∈ (c.assertAll entries).truths ↔ x ∈ c.truths ∨ ∃ e ∈ entries, e.fact = x := by
  induction entries generalizing c with
  | nil => simp [assertAll]
  | cons e entries ih =>
    have step : c.assertAll (e :: entries) = (c.assert e.fact).assertAll entries := rfl
    rw [step, ih, memTruthsAssert]
    simp only [List.mem_cons, exists_eq_or_imp]
    constructor
    · intro true
      rcases true with (here | old) | later
      · exact .inr (.inl here)
      · exact .inl old
      · exact .inr (.inr later)
    · intro true
      rcases true with old | here | later
      · exact .inl (.inr old)
      · exact .inl (.inl here)
      · exact .inr later

theorem assertAllAppend (c : Context) (first second : List TraceEntry) :
    c.assertAll (first ++ second) = (c.assertAll first).assertAll second :=
  List.foldl_append

theorem assertedAt (given : Context) (entries : List TraceEntry) (id : String) :
    (given.assertAll entries)[id]? = if ∃ e ∈ entries, e.fact = id then some true else given[id]? := by
  induction entries generalizing given with
  | nil => simp [assertAll]
  | cons e entries ih =>
    have step : given.assertAll (e :: entries) = (given.assert e.fact).assertAll entries := rfl
    rw [step, ih, assert, Std.TreeMap.getElem?_insert]
    simp only [List.mem_cons, exists_eq_or_imp]
    by_cases later : ∃ d ∈ entries, d.fact = id
    · simp [later]
    · by_cases here : e.fact = id
      · simp [here]
      · simp [here, later]

theorem memFacts {given : Context} {id : String} : id ∈ given.facts ↔ id ∈ given.truths := by
  rw [memTruths, holds, Std.TreeMap.getD_eq_getD_getElem?, facts, List.mem_map]
  constructor
  · intro listed
    obtain ⟨⟨name, value⟩, mem, rfl⟩ := listed
    obtain ⟨entry, rfl⟩ := List.mem_filter.mp mem
    simp [Std.TreeMap.mem_toList_iff_getElem?_eq_some.mp entry]
  · intro true
    cases stored : given[id]? with
    | none => simp [stored] at true
    | some value =>
      simp only [stored, Option.getD_some] at true
      exact ⟨(id, value), List.mem_filter.mpr
        ⟨Std.TreeMap.mem_toList_iff_getElem?_eq_some.mpr stored, true⟩, rfl⟩

end ConceptSpace.Context

import ConceptSpace.Proofs.FormulaNames
import ConceptSpace.Proofs.TextReadBack

/-! What becomes of a formula's own text when it is read, also of a formula that was never read itself. -/
namespace ConceptSpace.Formula

structure PlainName (word : String) : Prop where
  filled : word ≠ ""
  chars : ∀ c ∈ word.toList, isNameChar c = true
  free : word.toList.map Char.toUpper ∉ ["AND".toList, "OR".toList, "NOT".toList]

theorem plainIsName {word : String} (plain : PlainName word) : IsName word := by
  refine ⟨by simpa using plain.filled, plain.chars, ?_⟩
  have spells : Spells word.toList (.name (String.ofList word.toList)) := .name plain.free
  rwa [String.ofList_toList] at spells

theorem namedPlainly {e : Formula} (plain : ∀ word ∈ e.names, PlainName word) : e.Named := by
  induction e with
  | var name => exact plainIsName (plain name (by simp [names, collect]))
  | and a b first second =>
    exact ⟨first fun word listed => plain word (memNamesAnd.mpr (.inl listed)),
      second fun word listed => plain word (memNamesAnd.mpr (.inr listed))⟩
  | or a b first second =>
    exact ⟨first fun word listed => plain word (memNamesOr.mpr (.inl listed)),
      second fun word listed => plain word (memNamesOr.mpr (.inr listed))⟩
  | not a inner => exact inner plain

/-- A formula's text is read as that formula if neither its depth nor its nesting passes the limit, and
is refused as too deep otherwise; it never denotes another formula, and no other fault is found in it. -/
theorem canonicalText {e : Formula} (plain : ∀ word ∈ e.names, PlainName word) :
    (parse e.text = .ok e ∨ Refused (parse e.text)) ∧
      (parse e.text = .ok e ↔ e.depth ≤ depthLimit ∧ e.nesting ≤ depthLimit) := by
  have named := namedPlainly plain
  have within : Fits 0 e ↔ e.depth ≤ depthLimit ∧ e.nesting ≤ depthLimit := by simp [Fits]
  rw [← within]
  by_cases fits : Fits 0 e
  · have read := textRead named fits
    exact ⟨.inl read, fun _ => fits, fun _ => read⟩
  · obtain ⟨offset, failed⟩ := textRefused named fits
    refine ⟨.inr ⟨offset, failed⟩, ?_, fun within => absurd within fits⟩
    intro read
    cases read.symm.trans failed

def leaning : Nat → Formula
  | 0 => .var "a"
  | n + 1 => .or (.var "a") (leaning n)

theorem leaningMeasures (n : Nat) : (leaning n).depth = n + 1 ∧ (leaning n).nesting = n := by
  induction n with
  | zero => exact ⟨rfl, rfl⟩
  | succ n ih =>
    simp only [leaning, depth, nesting]
    omega

theorem leaningPlain (n : Nat) : ∀ word ∈ (leaning n).names, PlainName word := by
  have plain : PlainName "a" := ⟨by decide, List.all_eq_true.mp (by decide), by decide⟩
  induction n with
  | zero => simpa [leaning, names, collect] using plain
  | succ n ih =>
    intro word listed
    rcases memNamesOr.mp listed with first | rest
    · simp only [names, collect, List.not_mem_nil, if_false, List.nil_append, List.mem_singleton] at first
      exact first ▸ plain
    · exact ih word rest

theorem leaningReadBack :
    ((∀ word ∈ (leaning 255).names, PlainName word) ∧ parse (leaning 255).text = .ok (leaning 255)) ∧
    (∀ word ∈ (leaning 256).names, PlainName word) ∧ Refused (parse (leaning 256).text) := by
  refine ⟨⟨leaningPlain 255, (canonicalText (leaningPlain 255)).2.mpr ?_⟩, leaningPlain 256, ?_⟩
  · rw [(leaningMeasures 255).1, (leaningMeasures 255).2]
    decide
  · have either := canonicalText (leaningPlain 256)
    refine either.1.resolve_left fun read => ?_
    have within := (either.2.mp read).1
    rw [(leaningMeasures 256).1] at within
    exact absurd within (by decide)

end ConceptSpace.Formula

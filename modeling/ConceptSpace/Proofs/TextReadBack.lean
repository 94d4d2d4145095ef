import ConceptSpace.Proofs.FormulaRefusal

/-! Reading a formula's own text back.
A formula that was read has a tree within the limit, but its text may open more at once than the text
it was read from: NOT is written with a parenthesis. -/
namespace ConceptSpace.Formula
open Text

theorem sentenceRead {text : String} {tokens : List Token} {e : Formula} {k : Nat}
    (split : Splits text.toList tokens) (derived : Disjunction tokens e k)
    (shallow : e.depth ≤ depthLimit) (kept : k ≤ depthLimit) : parse text = .ok e := by
  obtain ⟨lexemes, scanned, spelt⟩ := splitsScan split 0
  obtain ⟨shorter, runs⟩ := disjunctionRuns derived text.utf8ByteSize 0 [] spelt shallow (by omega)
    (by simp)
  have ok := ofLexemesIff.mpr ⟨shorter, runs.trans (disjunctsStop _ (by simp))⟩
  rw [List.append_nil] at ok
  exact parseIff.mpr ⟨lexemes, scanned, ok⟩

theorem textRead {e : Formula} (named : e.Named) (fits : Fits 0 e) : parse e.text = .ok e :=
  sentenceRead (textTokens named) (.one (.one (tokensOperand e))) fits.1 (by have := fits.2; omega)

theorem textRefused {e : Formula} (named : e.Named) (beyond : ¬ Fits 0 e) :
    Refused (parse e.text) := by
  obtain ⟨lexemes, scanned, spelt⟩ := splitsScan (textTokens named) 0
  obtain ⟨offset, failed⟩ := disjunctionRefused (conjunctionRefused
    (operandRefused e.text.utf8ByteSize 0 [] spelt (Nat.zero_le _) beyond))
  rw [List.append_nil] at failed
  refine ⟨offset, ?_⟩
  rw [parse, scanned]
  dsimp only
  have filled : lexemes.isEmpty = false := by
    cases lexemes with
    | nil => cases e <;> cases spelt
    | cons => rfl
  rw [ofLexemes, failed]
  simp [filled]

/-- The text of a formula that was read is read back as the same formula exactly when no more than the
limit is open in it at once; else it is refused as too deep. -/
theorem textReadBack {text : String} {e : Formula} (read : parse text = .ok e) :
    (parse e.text = .ok e ↔ e.nesting ≤ depthLimit) ∧
      (¬ e.nesting ≤ depthLimit → Refused (parse e.text)) := by
  obtain ⟨named, shallow⟩ := parsedNamed read
  have beyond : ¬ e.nesting ≤ depthLimit → Refused (parse e.text) := by
    intro deep
    apply textRefused named
    intro fits
    exact deep (by have := fits.2; omega)
  refine ⟨⟨?_, ?_⟩, beyond⟩
  · intro again
    by_cases within : e.nesting ≤ depthLimit
    · exact within
    · obtain ⟨offset, failed⟩ := beyond within
      cases again.symm.trans failed
  · intro within
    exact textRead named ⟨shallow, by omega⟩

def negated : Nat → Formula
  | 0 => .var "a"
  | n + 1 => .not (negated n)

def negations (n : Nat) : List Char := (List.replicate n ['N', 'O', 'T', ' ']).flatten ++ ['a']

theorem negationsSplits (n : Nat) :
    Splits (negations n) (List.replicate n .not ++ [.name "a"]) := by
  induction n with
  | zero =>
    have spells : Spells ['a'] (.name "a") := spellsIff.mpr rfl
    have split := Splits.word (by decide) (List.all_eq_true.mp (by decide)) (by simp) spells .done
    exact split
  | succ n ih =>
    have spells : Spells ['N', 'O', 'T'] .not := spellsIff.mpr rfl
    have blank : isBlank ' ' = true := by decide
    have split := Splits.word (by decide) (List.all_eq_true.mp (by decide)) (endsName (by decide)) spells
      (.blank blank ih)
    exact split

theorem negatedOperand (n : Nat) :
    Operand (List.replicate n .not ++ [.name "a"]) (negated n) n := by
  induction n with
  | zero => exact .name "a"
  | succ n ih => exact .not ih

theorem negatedMeasures (n : Nat) : (negated n).depth = n + 1 ∧ (negated n).nesting = 2 * n := by
  induction n with
  | zero => exact ⟨rfl, rfl⟩
  | succ n ih =>
    simp only [negated, depth, nesting]
    omega

theorem negationsRead {n : Nat} (room : n + 1 ≤ depthLimit) :
    parse (String.ofList (negations n)) = .ok (negated n) := by
  have split : Splits (String.ofList (negations n)).toList (List.replicate n .not ++ [.name "a"]) := by
    rw [String.toList_ofList]
    exact negationsSplits n
  apply sentenceRead split (.one (.one (negatedOperand n)))
  · rw [(negatedMeasures n).1]
    exact room
  · omega

theorem negationsReadBack :
    parse (String.ofList (negations 128)) = .ok (negated 128) ∧
      parse (negated 128).text = .ok (negated 128) := by
  have read := @negationsRead 128 (by decide)
  exact ⟨read, (textReadBack read).1.mpr (by rw [(negatedMeasures 128).2]; decide)⟩

theorem negationsLost :
    parse (String.ofList (negations 129)) = .ok (negated 129) ∧
      parse (negated 129).text ≠ .ok (negated 129) := by
  have read := @negationsRead 129 (by decide)
  refine ⟨read, ?_⟩
  intro again
  obtain ⟨offset, failed⟩ := textRefused (parsedNamed read).1 (by
    intro fits
    have := fits.2
    rw [(negatedMeasures 129).2] at this
    exact absurd this (by decide))
  cases again.symm.trans failed

end ConceptSpace.Formula

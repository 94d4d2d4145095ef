import ConceptSpace.Proofs.FormulaGrammar

/-! Every phrase of the grammar is read, whatever comes after it.
A chain is read up to any of its operators before the rest of it, so the readers are followed along
the derivation, which builds the chain from the left. -/
namespace ConceptSpace.Formula

theorem joinWithin {offset : Nat} {operator : Formula → Formula → Formula} {left right : Phrase}
    (shallow : max left.depth right.depth + 1 ≤ depthLimit) :
    join offset operator left right = .ok
      ⟨⟨operator left.formula right.formula, max left.depth right.depth + 1, right.rest⟩, rfl⟩ :=
  if_neg (Nat.not_lt.mpr shallow)

section
variable {stop nesting n offset : Nat} {after : List Lexeme}
  (left : { p : Phrase // p.rest.length < n }) {right : { p : Phrase // p.rest.length < after.length }}

theorem conjunctsGo (here : left.val.rest = ⟨offset, .and⟩ :: after)
    (read : operand stop nesting after = .ok right)
    (shallow : max left.val.depth right.val.depth + 1 ≤ depthLimit) :
    ∃ shorter, conjuncts stop nesting n left = conjuncts stop nesting n
      ⟨⟨.and left.val.formula right.val.formula, max left.val.depth right.val.depth + 1,
        right.val.rest⟩, shorter⟩ := by
  refine ⟨?_, ?_⟩
  · have := left.2
    have := right.2
    simp only [here, List.length_cons] at *
    omega
  · rw [conjuncts]
    split
    · rename_i position later there
      cases here.symm.trans there
      rw [read]
      dsimp only
      rw [joinWithin shallow]
    · rename_i none
      exact absurd here (none _ _)

theorem conjunctsStop (ends : ∀ l ∈ left.val.rest.head?, l.token ≠ .and) :
    conjuncts stop nesting n left = .ok left := by
  rw [conjuncts]
  split
  · rename_i position later there
    exact absurd rfl (ends _ (by rw [there]; rfl))
  · rfl

theorem disjunctsGo (here : left.val.rest = ⟨offset, .or⟩ :: after)
    (read : conjunction stop nesting after = .ok right)
    (shallow : max left.val.depth right.val.depth + 1 ≤ depthLimit) :
    ∃ shorter, disjuncts stop nesting n left = disjuncts stop nesting n
      ⟨⟨.or left.val.formula right.val.formula, max left.val.depth right.val.depth + 1,
        right.val.rest⟩, shorter⟩ := by
  refine ⟨?_, ?_⟩
  · have := left.2
    have := right.2
    simp only [here, List.length_cons] at *
    omega
  · rw [disjuncts]
    split
    · rename_i position later there
      cases here.symm.trans there
      rw [read]
      dsimp only
      rw [joinWithin shallow]
    · rename_i none
      exact absurd here (none _ _)

theorem disjunctsStop (ends : ∀ l ∈ left.val.rest.head?, l.token ≠ .or) :
    disjuncts stop nesting n left = .ok left := by
  rw [disjuncts]
  split
  · rename_i position later there
    exact absurd rfl (ends _ (by rw [there]; rfl))
  · rfl

end

theorem operandNegates {stop nesting offset : Nat} {rest : List Lexeme}
    {inner : { p : Phrase // p.rest.length < rest.length }} (room : nesting + 1 ≤ depthLimit)
    (read : operand stop (nesting + 1) rest = .ok inner) (shallow : inner.val.depth + 1 ≤ depthLimit) :
    ∃ shorter, operand stop nesting (⟨offset, .not⟩ :: rest) =
      .ok ⟨⟨.not inner.val.formula, inner.val.depth + 1, inner.val.rest⟩, shorter⟩ := by
  refine ⟨Nat.lt_succ_of_lt inner.2, ?_⟩
  rw [operand, if_neg (Nat.not_lt.mpr room), read]
  exact if_neg (Nat.not_lt.mpr shallow)

theorem operandCloses {stop nesting offset position : Nat} {rest after : List Lexeme}
    {inner : { p : Phrase // p.rest.length < rest.length }} (room : nesting + 1 ≤ depthLimit)
    (read : disjunction stop (nesting + 1) rest = .ok inner)
    (closes : inner.val.rest = ⟨position, .closing⟩ :: after) :
    ∃ shorter, operand stop nesting (⟨offset, .opening⟩ :: rest) =
      .ok ⟨⟨inner.val.formula, inner.val.depth, after⟩, shorter⟩ := by
  refine ⟨?_, ?_⟩
  · have := inner.2
    simp only [closes, List.length_cons] at *
    omega
  · rw [operand, if_neg (Nat.not_lt.mpr room), read]
    dsimp only
    split
    · rename_i none
      cases closes.symm.trans none
    · rename_i there
      cases closes.symm.trans there
      rfl
    · rename_i other there
      cases closes.symm.trans there
      cases other rfl

/- By the number of tokens, and over the same tokens from the loosest phrase to the tightest. What
comes after the phrase is left open, save that a conjunction would go on at an AND. -/
mutual

theorem operandFound {tokens : List Token} {e : Formula} {k : Nat} (derived : Operand tokens e k)
    (stop nesting : Nat) {front : List Lexeme} (rest : List Lexeme)
    (spelt : front.map (·.token) = tokens) (shallow : e.depth ≤ depthLimit)
    (kept : nesting + k ≤ depthLimit) :
    ∃ shorter, operand stop nesting (front ++ rest) = .ok ⟨⟨e, e.depth, rest⟩, shorter⟩ := by
  cases derived with
  | name word =>
    obtain ⟨⟨offset, _⟩, after, rfl, rfl, none⟩ := List.map_eq_cons_iff.mp spelt
    obtain rfl := List.map_eq_nil_iff.mp none
    rw [List.singleton_append]
    exact ⟨Nat.lt_succ_self _, by rw [operand, depth]⟩
  | not inner =>
    obtain ⟨⟨offset, _⟩, after, rfl, rfl, within⟩ := List.map_eq_cons_iff.mp spelt
    obtain ⟨_, read⟩ := operandFound inner stop (nesting + 1) rest within (Nat.le_of_succ_le shallow) (by omega)
    have room : nesting + 1 ≤ depthLimit := by omega
    exact operandNegates room read shallow
  | parens inner =>
    obtain ⟨⟨offset, _⟩, after, rfl, rfl, within⟩ := List.map_eq_cons_iff.mp spelt
    obtain ⟨middle, last, rfl, between, closes⟩ := List.map_eq_append_iff.mp within
    obtain ⟨⟨position, _⟩, none, rfl, rfl, empty⟩ := List.map_eq_cons_iff.mp closes
    obtain rfl := List.map_eq_nil_iff.mp empty
    obtain ⟨_, runs⟩ := disjunctionRuns inner stop (nesting + 1) (⟨position, .closing⟩ :: rest) between
      shallow (by omega) (by simp)
    have read := runs.trans (disjunctsStop _ (by simp))
    rw [List.cons_append, List.append_assoc, List.singleton_append]
    exact operandCloses (by omega) read rfl
termination_by (tokens.length, 0)

theorem conjunctionRuns {tokens : List Token} {e : Formula} {k : Nat}
    (derived : Conjunction tokens e k) (stop nesting : Nat) {front : List Lexeme}
    (rest : List Lexeme) (spelt : front.map (·.token) = tokens) (shallow : e.depth ≤ depthLimit)
    (kept : nesting + k ≤ depthLimit) :
    ∃ shorter, conjunction stop nesting (front ++ rest) =
      conjuncts stop nesting (front ++ rest).length ⟨⟨e, e.depth, rest⟩, shorter⟩ := by
  cases derived with
  | one alone =>
    obtain ⟨shorter, read⟩ := operandFound alone stop nesting rest spelt shallow kept
    exact ⟨shorter, by rw [conjunction, read]⟩
  | @more _ _ e f _ _ begun last =>
    obtain ⟨before, behind, rfl, first, tail⟩ := List.map_eq_append_iff.mp spelt
    obtain ⟨⟨offset, _⟩, after, rfl, rfl, second⟩ := List.map_eq_cons_iff.mp tail
    have below : max e.depth f.depth + 1 ≤ depthLimit := shallow
    obtain ⟨start, begins⟩ := conjunctionRuns begun stop nesting (⟨offset, .and⟩ :: (after ++ rest)) first
      (by omega) (by omega)
    obtain ⟨_, read⟩ := operandFound last stop nesting rest second (by omega) (by omega)
    rw [List.append_assoc, List.cons_append]
    obtain ⟨shorter, goes⟩ := conjunctsGo ⟨_, start⟩ rfl read below
    exact ⟨shorter, begins.trans goes⟩
termination_by (tokens.length, 1)

theorem disjunctionRuns {tokens : List Token} {e : Formula} {k : Nat}
    (derived : Disjunction tokens e k) (stop nesting : Nat) {front : List Lexeme}
    (rest : List Lexeme) (spelt : front.map (·.token) = tokens) (shallow : e.depth ≤ depthLimit)
    (kept : nesting + k ≤ depthLimit) (ends : ∀ l ∈ rest.head?, l.token ≠ .and) :
    ∃ shorter, disjunction stop nesting (front ++ rest) =
      disjuncts stop nesting (front ++ rest).length ⟨⟨e, e.depth, rest⟩, shorter⟩ := by
  cases derived with
  | one alone =>
    obtain ⟨shorter, runs⟩ := conjunctionRuns alone stop nesting rest spelt shallow kept
    exact ⟨shorter, by rw [disjunction, runs, conjunctsStop _ ends]⟩
  | @more _ _ e f _ _ begun last =>
    obtain ⟨before, behind, rfl, first, tail⟩ := List.map_eq_append_iff.mp spelt
    obtain ⟨⟨offset, _⟩, after, rfl, rfl, second⟩ := List.map_eq_cons_iff.mp tail
    have below : max e.depth f.depth + 1 ≤ depthLimit := shallow
    obtain ⟨start, begins⟩ := disjunctionRuns begun stop nesting (⟨offset, .or⟩ :: (after ++ rest)) first
      (by omega) (by omega) (by simp)
    obtain ⟨_, runs⟩ := conjunctionRuns last stop nesting rest second (by omega) (by omega)
    rw [List.append_assoc, List.cons_append]
    obtain ⟨shorter, goes⟩ := disjunctsGo ⟨_, start⟩ rfl (runs.trans (conjunctsStop _ ends)) below
    exact ⟨shorter, begins.trans goes⟩
termination_by (tokens.length, 2)

end

theorem ofLexemesIff {stop : Nat} {lexemes : List Lexeme} {e : Formula} :
    ofLexemes stop lexemes = .ok e ↔
      ∃ shorter, disjunction stop 0 lexemes = .ok ⟨⟨e, e.depth, []⟩, shorter⟩ := by
  unfold ofLexemes
  constructor
  · intro ok
    split at ok
    · cases ok
    · split at ok
      · cases ok
      · rename_i whole read
        split at ok
        · rename_i ends
          cases ok
          have same : whole.val = ⟨whole.val.formula, whole.val.formula.depth, []⟩ := by
            rw [← ends, ← (disjunctionReads read).depth]
          refine ⟨same ▸ whole.2, read.trans (congrArg Except.ok (Subtype.ext same))⟩
        · cases ok
        · cases ok
  · intro found
    obtain ⟨shorter, read⟩ := found
    have filled : lexemes.isEmpty = false := by
      cases lexemes with
      | nil => cases shorter
      | cons => rfl
    simp only [filled, read]
    rfl

theorem parseIff {text : String} {e : Formula} :
    parse text = .ok e ↔ ∃ lexemes, scan 0 text.toList = .ok lexemes ∧
      ofLexemes text.utf8ByteSize lexemes = .ok e := by
  unfold parse
  cases scan 0 text.toList with
  | error fault => simp
  | ok lexemes => simp

/-- A text is read as a formula exactly when its tokens are a sentence for it and neither limit is
passed; the depth that each reader hands on is that of its formula. -/
theorem parseIffSentence (text : String) (e : Formula) :
    (parse text = .ok e ↔ ∃ tokens k, Splits text.toList tokens ∧ Disjunction tokens e k ∧
      e.depth ≤ depthLimit ∧ k ≤ depthLimit) ∧
    ∀ stop nesting lexemes p, disjunction stop nesting lexemes = .ok p ∨
      conjunction stop nesting lexemes = .ok p ∨ operand stop nesting lexemes = .ok p →
        p.val.depth = p.val.formula.depth := by
  constructor
  · rw [parseIff]
    constructor
    · intro found
      obtain ⟨lexemes, scanned, ok⟩ := found
      obtain ⟨shorter, read⟩ := ofLexemesIff.mp ok
      have reads := disjunctionReads read
      obtain ⟨front, k, split, derived, kept⟩ := reads.derived
      rw [List.append_nil] at split
      subst split
      exact ⟨_, k, scanSplits scanned, derived, reads.shallow, by omega⟩
    · intro sentence
      obtain ⟨tokens, k, split, derived, shallow, kept⟩ := sentence
      obtain ⟨lexemes, scanned, spelt⟩ := splitsScan split 0
      obtain ⟨shorter, runs⟩ := disjunctionRuns derived text.utf8ByteSize 0 [] spelt shallow
        (by omega) (by simp)
      have ok := ofLexemesIff.mpr ⟨shorter, runs.trans (disjunctsStop _ (by simp))⟩
      rw [List.append_nil] at ok
      exact ⟨lexemes, scanned, ok⟩
  · intro stop nesting lexemes p ok
    rcases ok with ok | ok | ok
    · exact (disjunctionReads ok).depth
    · exact (conjunctionReads ok).depth
    · exact (operandReads ok).depth

end ConceptSpace.Formula

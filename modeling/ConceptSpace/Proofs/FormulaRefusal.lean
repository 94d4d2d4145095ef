import ConceptSpace.Proofs.FormulaText

/-! Formulas beyond the limit are refused.
A reader that is refused within a phrase refuses the phrase; so a formula's text is refused wherever
its tree, or what is open in it on top of what is open around it, passes the limit. -/
namespace ConceptSpace.Formula

def Refused {α : Type} (read : Except SyntaxError α) : Prop :=
  ∃ offset, read = .error ⟨offset, .tooDeep⟩

section
variable {stop nesting offset : Nat} {lexemes after : List Lexeme}

theorem conjunctionRefused (refused : Refused (operand stop nesting lexemes)) :
    Refused (conjunction stop nesting lexemes) := by
  obtain ⟨position, failed⟩ := refused
  exact ⟨position, by rw [conjunction, failed]⟩

theorem disjunctionRefused (refused : Refused (conjunction stop nesting lexemes)) :
    Refused (disjunction stop nesting lexemes) := by
  obtain ⟨position, failed⟩ := refused
  exact ⟨position, by rw [disjunction, failed]⟩

theorem bracketRefused
    (refused : nesting + 1 ≤ depthLimit → Refused (disjunction stop (nesting + 1) lexemes)) :
    Refused (operand stop nesting (⟨offset, .opening⟩ :: lexemes)) := by
  by_cases room : nesting + 1 ≤ depthLimit
  · obtain ⟨position, failed⟩ := refused room
    exact ⟨position, by rw [operand, if_neg (Nat.not_lt.mpr room), failed]⟩
  · exact ⟨offset, by rw [operand, if_pos (Nat.lt_of_not_le room)]⟩

theorem negationRefused
    (refused : nesting + 1 ≤ depthLimit → Refused (operand stop (nesting + 1) lexemes)) :
    Refused (operand stop nesting (⟨offset, .not⟩ :: lexemes)) := by
  by_cases room : nesting + 1 ≤ depthLimit
  · obtain ⟨position, failed⟩ := refused room
    exact ⟨position, by rw [operand, if_neg (Nat.not_lt.mpr room), failed]⟩
  · exact ⟨offset, by rw [operand, if_pos (Nat.lt_of_not_le room)]⟩

theorem negationDeep {inner : { p : Phrase // p.rest.length < lexemes.length }}
    (read : operand stop (nesting + 1) lexemes = .ok inner) (deep : depthLimit < inner.val.depth + 1) :
    Refused (operand stop nesting (⟨offset, .not⟩ :: lexemes)) := by
  by_cases room : nesting + 1 ≤ depthLimit
  · exact ⟨offset, by rw [operand, if_neg (Nat.not_lt.mpr room), read]; exact if_pos deep⟩
  · exact ⟨offset, by rw [operand, if_pos (Nat.lt_of_not_le room)]⟩

variable {n : Nat} (left : { p : Phrase // p.rest.length < n })
  {right : { p : Phrase // p.rest.length < after.length }}

theorem joinDeep {operator : Formula → Formula → Formula} {first second : Phrase}
    (deep : depthLimit < max first.depth second.depth + 1) :
    join offset operator first second = .error ⟨offset, .tooDeep⟩ :=
  if_pos deep

theorem conjunctsRefused (here : left.val.rest = ⟨offset, .and⟩ :: after)
    (refused : Refused (operand stop nesting after)) : Refused (conjuncts stop nesting n left) := by
  obtain ⟨position, failed⟩ := refused
  refine ⟨position, ?_⟩
  rw [conjuncts]
  split
  · rename_i there
    cases here.symm.trans there
    rw [failed]
  · rename_i none
    exact absurd here (none _ _)

theorem conjunctsDeep (here : left.val.rest = ⟨offset, .and⟩ :: after)
    (read : operand stop nesting after = .ok right)
    (deep : depthLimit < max left.val.depth right.val.depth + 1) :
    Refused (conjuncts stop nesting n left) := by
  refine ⟨offset, ?_⟩
  rw [conjuncts]
  split
  · rename_i there
    cases here.symm.trans there
    rw [read]
    dsimp only
    rw [joinDeep deep]
  · rename_i none
    exact absurd here (none _ _)

theorem disjunctsRefused (here : left.val.rest = ⟨offset, .or⟩ :: after)
    (refused : Refused (conjunction stop nesting after)) : Refused (disjuncts stop nesting n left) := by
  obtain ⟨position, failed⟩ := refused
  refine ⟨position, ?_⟩
  rw [disjuncts]
  split
  · rename_i there
    cases here.symm.trans there
    rw [failed]
  · rename_i none
    exact absurd here (none _ _)

theorem disjunctsDeep (here : left.val.rest = ⟨offset, .or⟩ :: after)
    (read : conjunction stop nesting after = .ok right)
    (deep : depthLimit < max left.val.depth right.val.depth + 1) :
    Refused (disjuncts stop nesting n left) := by
  refine ⟨offset, ?_⟩
  rw [disjuncts]
  split
  · rename_i there
    cases here.symm.trans there
    rw [read]
    dsimp only
    rw [joinDeep deep]
  · rename_i none
    exact absurd here (none _ _)

end

def Fits (nesting : Nat) (e : Formula) : Prop :=
  e.depth ≤ depthLimit ∧ nesting + e.nesting ≤ depthLimit
instance (nesting : Nat) (e : Formula) : Decidable (Fits nesting e) := by
  unfold Fits; infer_instance

section
variable {front : List Lexeme}

theorem conjunctionRead {e : Formula} (stop nesting : Nat) (rest : List Lexeme)
    (spelt : front.map (·.token) = e.tokens) (fits : Fits nesting e)
    (ends : ∀ l ∈ rest.head?, l.token ≠ .and) :
    ∃ shorter, conjunction stop nesting (front ++ rest) = .ok ⟨⟨e, e.depth, rest⟩, shorter⟩ := by
  obtain ⟨shorter, runs⟩ := conjunctionRuns (.one (tokensOperand e)) stop nesting rest spelt fits.1 fits.2
  exact ⟨shorter, runs.trans (conjunctsStop _ ends)⟩

theorem chainCut {first second : List Token} {token : Token}
    (spelt : front.map (·.token) = .opening :: ((first ++ token :: second) ++ [.closing])) :
    ∃ opens left here right closes, left.map (·.token) = first ∧ right.map (·.token) = second ∧
      front = ⟨opens, .opening⟩ :: (left ++ ⟨here, token⟩ :: (right ++ [⟨closes, .closing⟩])) := by
  obtain ⟨⟨opens, _⟩, body, rfl, rfl, within⟩ := List.map_eq_cons_iff.mp spelt
  obtain ⟨chain, last, rfl, both, ended⟩ := List.map_eq_append_iff.mp within
  obtain ⟨⟨closes, _⟩, none, rfl, rfl, empty⟩ := List.map_eq_cons_iff.mp ended
  obtain rfl := List.map_eq_nil_iff.mp empty
  obtain ⟨left, tail, rfl, begun, later⟩ := List.map_eq_append_iff.mp both
  obtain ⟨⟨here, _⟩, right, rfl, rfl, after⟩ := List.map_eq_cons_iff.mp later
  exact ⟨opens, left, here, right, closes, begun, after, by simp⟩

theorem negationCut {inner : List Token}
    (spelt : front.map (·.token) = .not :: .opening :: (inner ++ [.closing])) :
    ∃ here opens body closes, body.map (·.token) = inner ∧
      front = ⟨here, .not⟩ :: ⟨opens, .opening⟩ :: (body ++ [⟨closes, .closing⟩]) := by
  obtain ⟨⟨here, _⟩, rest, rfl, rfl, later⟩ := List.map_eq_cons_iff.mp spelt
  obtain ⟨⟨opens, _⟩, within, rfl, rfl, both⟩ := List.map_eq_cons_iff.mp later
  obtain ⟨body, last, rfl, begun, ended⟩ := List.map_eq_append_iff.mp both
  obtain ⟨⟨closes, _⟩, none, rfl, rfl, empty⟩ := List.map_eq_cons_iff.mp ended
  obtain rfl := List.map_eq_nil_iff.mp empty
  exact ⟨here, opens, body, closes, begun, rfl⟩

theorem operandRefused {e : Formula} (stop nesting : Nat) (rest : List Lexeme)
    (spelt : front.map (·.token) = e.tokens) (room : nesting ≤ depthLimit) (beyond : ¬ Fits nesting e) :
    Refused (operand stop nesting (front ++ rest)) := by
  induction e generalizing nesting front rest with
  | var name => exact absurd ⟨Nat.le_add_left 1 255, room⟩ beyond
  | not a inner =>
    obtain ⟨here, opens, body, closes, within, rfl⟩ := negationCut spelt
    by_cases fits : Fits (nesting + 2) a
    -- The operand is read, so it is the negation that makes the tree too deep.
    · have bracketed : Operand (.opening :: (a.tokens ++ [.closing])) a (a.nesting + 1) :=
        .parens (.one (.one (tokensOperand a)))
      have inside : (⟨opens, .opening⟩ :: (body ++ [⟨closes, .closing⟩])).map Lexeme.token =
          .opening :: (a.tokens ++ [.closing]) := by
        simp [within]
      obtain ⟨_, read⟩ := operandFound bracketed stop (nesting + 1) rest inside fits.1
        (by have := fits.2; omega)
      apply negationDeep read
      simp only [Fits, depth, Formula.nesting] at *
      omega
    · have same : ⟨here, .not⟩ :: ⟨opens, .opening⟩ :: (body ++ [⟨closes, .closing⟩]) ++ rest =
          ⟨here, .not⟩ :: ⟨opens, .opening⟩ :: (body ++ ⟨closes, .closing⟩ :: rest) := by
        simp
      rw [same]
      apply negationRefused
      intro _
      apply bracketRefused
      intro below
      exact disjunctionRefused (conjunctionRefused (inner (nesting + 2) _ within below fits))
  | and a b first second =>
    obtain ⟨opens, left, here, right, closes, begun, ended, rfl⟩ := chainCut spelt
    have same : ⟨opens, .opening⟩ :: (left ++ ⟨here, .and⟩ :: (right ++ [⟨closes, .closing⟩])) ++ rest =
        ⟨opens, .opening⟩ :: (left ++ ⟨here, .and⟩ :: (right ++ ⟨closes, .closing⟩ :: rest)) := by
      simp
    rw [same]
    apply bracketRefused
    intro below
    apply disjunctionRefused
    by_cases leftFits : Fits (nesting + 1) a
    · obtain ⟨_, read⟩ := operandFound (tokensOperand a) stop (nesting + 1)
        (⟨here, .and⟩ :: (right ++ ⟨closes, .closing⟩ :: rest)) begun leftFits.1 leftFits.2
      rw [conjunction, read]
      by_cases rightFits : Fits (nesting + 1) b
      · obtain ⟨_, also⟩ := operandFound (tokensOperand b) stop (nesting + 1)
          (⟨closes, .closing⟩ :: rest) ended rightFits.1 rightFits.2
        apply conjunctsDeep _ rfl also
        simp only [Fits, depth, Formula.nesting] at *
        omega
      · exact conjunctsRefused _ rfl (second (nesting + 1) _ ended below rightFits)
    · exact conjunctionRefused (first (nesting + 1) _ begun below leftFits)
  | or a b first second =>
    obtain ⟨opens, left, here, right, closes, begun, ended, rfl⟩ := chainCut spelt
    have same : ⟨opens, .opening⟩ :: (left ++ ⟨here, .or⟩ :: (right ++ [⟨closes, .closing⟩])) ++ rest =
        ⟨opens, .opening⟩ :: (left ++ ⟨here, .or⟩ :: (right ++ ⟨closes, .closing⟩ :: rest)) := by
      simp
    rw [same]
    apply bracketRefused
    intro below
    by_cases leftFits : Fits (nesting + 1) a
    · obtain ⟨_, read⟩ := conjunctionRead stop (nesting + 1)
        (⟨here, .or⟩ :: (right ++ ⟨closes, .closing⟩ :: rest)) begun leftFits (by simp)
      rw [disjunction, read]
      by_cases rightFits : Fits (nesting + 1) b
      · obtain ⟨_, also⟩ := conjunctionRead stop (nesting + 1) (⟨closes, .closing⟩ :: rest) ended
          rightFits (by simp)
        apply disjunctsDeep _ rfl also
        simp only [Fits, depth, Formula.nesting] at *
        omega
      · exact disjunctsRefused _ rfl
          (conjunctionRefused (second (nesting + 1) _ ended below rightFits))
    · exact disjunctionRefused (conjunctionRefused (first (nesting + 1) _ begun below leftFits))

end

end ConceptSpace.Formula

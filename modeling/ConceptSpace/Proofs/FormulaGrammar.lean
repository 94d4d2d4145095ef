import ConceptSpace.Formula.Parse
import ConceptSpace.Proofs.TokenSplit

/-! The readers of formulas against their grammar.
The grammar builds both chains of operators from the left, and says with each phrase how many
negations and parentheses are open where most of them are. -/
namespace ConceptSpace.Formula

mutual

inductive Disjunction : List Token → Formula → Nat → Prop where
  | one {tokens : List Token} {e : Formula} {k : Nat} :
    Conjunction tokens e k → Disjunction tokens e k
  | more {front back : List Token} {e f : Formula} {k m : Nat} :
    Disjunction front e k → Conjunction back f m →
      Disjunction (front ++ .or :: back) (.or e f) (max k m)

inductive Conjunction : List Token → Formula → Nat → Prop where
  | one {tokens : List Token} {e : Formula} {k : Nat} :
    Operand tokens e k → Conjunction tokens e k
  | more {front back : List Token} {e f : Formula} {k m : Nat} :
    Conjunction front e k → Operand back f m →
      Conjunction (front ++ .and :: back) (.and e f) (max k m)

inductive Operand : List Token → Formula → Nat → Prop where
  | name (word : String) : Operand [.name word] (.var word) 0
  | not {tokens : List Token} {e : Formula} {k : Nat} :
    Operand tokens e k → Operand (.not :: tokens) (.not e) (k + 1)
  | parens {tokens : List Token} {e : Formula} {k : Nat} :
    Disjunction tokens e k → Operand (.opening :: (tokens ++ [.closing])) e (k + 1)

end

structure Reads (derives : List Token → Formula → Nat → Prop) (nesting : Nat) (lexemes : List Lexeme)
    (p : Phrase) : Prop where
  depth : p.depth = p.formula.depth
  shallow : p.depth ≤ depthLimit
  derived : ∃ front k, lexemes = front ++ p.rest ∧ derives (front.map (·.token)) p.formula k ∧
    (k = 0 ∨ nesting + k ≤ depthLimit)

theorem joinOk {offset : Nat} {operator : Formula → Formula → Formula} {left right : Phrase}
    {both : { p : Phrase // p.rest = right.rest }} (ok : join offset operator left right = .ok both) :
    max left.depth right.depth + 1 ≤ depthLimit ∧
      both.val = ⟨operator left.formula right.formula, max left.depth right.depth + 1, right.rest⟩ := by
  unfold join at ok
  dsimp only at ok
  split at ok
  · cases ok
  · cases ok
    exact ⟨by omega, rfl⟩

section
variable {whole piece : List Token → Formula → Nat → Prop} {token : Token}
  {operator : Formula → Formula → Formula}

theorem joinReads (deeper : ∀ e f, (operator e f).depth = max e.depth f.depth + 1)
    (more : ∀ front back e f k m, whole front e k → piece back f m →
      whole (front ++ token :: back) (operator e f) (max k m))
    {nesting offset : Nat} {lexemes after : List Lexeme} {left right both : Phrase}
    (first : Reads whole nesting lexemes left) (here : left.rest = ⟨offset, token⟩ :: after)
    (second : Reads piece nesting after right)
    (joined : both = ⟨operator left.formula right.formula, max left.depth right.depth + 1, right.rest⟩)
    (shallow : max left.depth right.depth + 1 ≤ depthLimit) : Reads whole nesting lexemes both := by
  obtain ⟨front, k, split, derived, kept⟩ := first.derived
  obtain ⟨back, m, rest, tail, inside⟩ := second.derived
  subst joined
  refine ⟨?_, shallow, front ++ ⟨offset, token⟩ :: back, max k m, ?_, ?_, by omega⟩
  · simp only [deeper, first.depth, second.depth]
  · rw [split, here, rest, List.append_assoc, List.cons_append]
  · rw [List.map_append, List.map_cons]
    exact more _ _ _ _ _ _ derived tail

end

/- One theorem for each reader, by the readers' own measure. A loop is told with the phrase before it:
if that is derived from the lexemes, so is what the loop returns. -/
mutual

theorem disjunctionReads {stop nesting : Nat} {lexemes : List Lexeme}
    {p : { p : Phrase // p.rest.length < lexemes.length }}
    (ok : disjunction stop nesting lexemes = .ok p) : Reads Disjunction nesting lexemes p.val := by
  rw [disjunction] at ok
  split at ok
  · cases ok
  · rename_i first started
    have fewer := first.2
    have reads := conjunctionReads started
    obtain ⟨front, k, split, derived, kept⟩ := reads.derived
    exact disjunctsReads ⟨reads.depth, reads.shallow, front, k, split, .one derived, kept⟩ ok
termination_by (lexemes.length, 4)

theorem disjunctsReads {stop nesting : Nat} {lexemes : List Lexeme} {n : Nat}
    {left p : { p : Phrase // p.rest.length < n }} (before : Reads Disjunction nesting lexemes left.val)
    (ok : disjuncts stop nesting n left = .ok p) : Reads Disjunction nesting lexemes p.val := by
  rw [disjuncts] at ok
  split at ok
  · rename_i offset after here
    have fewer : after.length < left.val.rest.length := by simp [here]
    split at ok
    · cases ok
    · rename_i right read
      split at ok
      · cases ok
      · rename_i both joined
        obtain ⟨shallow, same⟩ := joinOk joined
        have next := joinReads (fun _ _ => rfl) (fun _ _ _ _ _ _ => Disjunction.more) before here
          (conjunctionReads read) same shallow
        have shorter : both.val.rest.length < left.val.rest.length := by
          have := right.2
          rw [both.2]
          omega
        exact disjunctsReads next ok
  · cases ok
    exact before
termination_by (left.val.rest.length, 3)

theorem conjunctionReads {stop nesting : Nat} {lexemes : List Lexeme}
    {p : { p : Phrase // p.rest.length < lexemes.length }}
    (ok : conjunction stop nesting lexemes = .ok p) : Reads Conjunction nesting lexemes p.val := by
  rw [conjunction] at ok
  split at ok
  · cases ok
  · rename_i first started
    have fewer := first.2
    have reads := operandReads started
    obtain ⟨front, k, split, derived, kept⟩ := reads.derived
    exact conjunctsReads ⟨reads.depth, reads.shallow, front, k, split, .one derived, kept⟩ ok
termination_by (lexemes.length, 2)

theorem conjunctsReads {stop nesting : Nat} {lexemes : List Lexeme} {n : Nat}
    {left p : { p : Phrase // p.rest.length < n }} (before : Reads Conjunction nesting lexemes left.val)
    (ok : conjuncts stop nesting n left = .ok p) : Reads Conjunction nesting lexemes p.val := by
  rw [conjuncts] at ok
  split at ok
  · rename_i offset after here
    have fewer : after.length < left.val.rest.length := by simp [here]
    split at ok
    · cases ok
    · rename_i right read
      split at ok
      · cases ok
      · rename_i both joined
        obtain ⟨shallow, same⟩ := joinOk joined
        have next := joinReads (fun _ _ => rfl) (fun _ _ _ _ _ _ => Conjunction.more) before here
          (operandReads read) same shallow
        have shorter : both.val.rest.length < left.val.rest.length := by
          have := right.2
          rw [both.2]
          omega
        exact conjunctsReads next ok
  · cases ok
    exact before
termination_by (left.val.rest.length, 1)

theorem operandReads {stop nesting : Nat} {lexemes : List Lexeme}
    {p : { p : Phrase // p.rest.length < lexemes.length }}
    (ok : operand stop nesting lexemes = .ok p) : Reads Operand nesting lexemes p.val := by
  rw [operand.eq_def] at ok
  split at ok
  · cases ok
  · rename_i offset word rest
    cases ok
    -- A variable opens nothing, so it is within the limit however much is open around it.
    exact ⟨rfl, Nat.le_add_left 1 255, [⟨offset, .name word⟩], 0, rfl, .name word, .inl rfl⟩
  · rename_i offset rest
    split at ok
    · cases ok
    · split at ok
      · cases ok
      · rename_i inner read
        have reads := operandReads read
        obtain ⟨front, k, split, derived, kept⟩ := reads.derived
        split at ok
        · cases ok
        · cases ok
          refine ⟨congrArg (· + 1) reads.depth, by dsimp only; omega, ⟨offset, .not⟩ :: front, k + 1,
            ?_, .not derived, by omega⟩
          rw [List.cons_append, ← split]
  · rename_i offset rest
    split at ok
    · cases ok
    · split at ok
      · cases ok
      · rename_i inner read
        have reads := disjunctionReads read
        obtain ⟨front, k, split, derived, kept⟩ := reads.derived
        split at ok
        · cases ok
        · rename_i position after closes
          cases ok
          refine ⟨reads.depth, reads.shallow,
            ⟨offset, .opening⟩ :: (front ++ [⟨position, .closing⟩]), k + 1, ?_, ?_, by omega⟩
          · dsimp only
            rw [List.cons_append, List.append_assoc, List.singleton_append, ← closes, ← split]
          · simpa using Operand.parens derived
        · cases ok
  · cases ok
termination_by (lexemes.length, 0)

end

end ConceptSpace.Formula

import ConceptSpace.Proofs.FormulaGrammar

/-! What may come next in a sentence.
After the tokens of a beginning it is either an operand that must come, or what follows one; all else that
counts is how many parentheses are open. What this state does not allow goes on with no sentence. -/
namespace ConceptSpace.Formula

def Sentence (tokens : List Token) : Prop := ∃ e k, Disjunction tokens e k

def Viable (tokens : List Token) : Prop := ∃ rest, Sentence (tokens ++ rest)

inductive Awaiting where
  | operand (opened : Nat)
  | operator (opened : Nat)
  deriving DecidableEq, Repr

namespace Awaiting

def next : Awaiting → Token → Option Awaiting
  | .operand n, .name _ => some (.operator n)
  | .operand n, .not => some (.operand n)
  | .operand n, .opening => some (.operand (n + 1))
  | .operator n, .and => some (.operand n)
  | .operator n, .or => some (.operand n)
  | .operator (n + 1), .closing => some (.operator n)
  | _, _ => none

def after (state : Awaiting) (tokens : List Token) : Option Awaiting := tokens.foldlM next state

theorem afterCons {state : Awaiting} {token : Token} {tokens : List Token} :
    state.after (token :: tokens) = (state.next token).bind (·.after tokens) := rfl

theorem afterAppend {state : Awaiting} {front back : List Token} :
    state.after (front ++ back) = (state.after front).bind (·.after back) :=
  List.foldlM_append

theorem afterOperator {state before between last : Awaiting} {token : Token} {front back : List Token}
    (begun : state.after front = some before) (goes : before.next token = some between)
    (ended : between.after back = some last) : state.after (front ++ token :: back) = some last := by
  rw [afterAppend, begun, Option.bind_some, afterCons, goes, Option.bind_some, ended]

theorem afterNone {state : Awaiting} {token : Token} {tokens rest : List Token}
    (stuck : ∀ s, state.after tokens = some s → s.next token = none) :
    state.after ((tokens ++ [token]) ++ rest) = none := by
  rw [List.append_assoc, afterAppend]
  cases here : state.after tokens with
  | none => rfl
  | some s => rw [Option.bind_some, List.singleton_append, afterCons, stuck s here, Option.bind_none]

end Awaiting

/- A phrase of any kind stands where an operand is awaited, and leaves open what was open before it. -/
mutual

theorem disjunctionAwaited {tokens : List Token} {e : Formula} {k : Nat} (n : Nat) :
    Disjunction tokens e k → Awaiting.after (.operand n) tokens = some (.operator n)
  | .one alone => conjunctionAwaited n alone
  | .more begun last =>
    Awaiting.afterOperator (disjunctionAwaited n begun) rfl (conjunctionAwaited n last)

theorem conjunctionAwaited {tokens : List Token} {e : Formula} {k : Nat} (n : Nat) :
    Conjunction tokens e k → Awaiting.after (.operand n) tokens = some (.operator n)
  | .one alone => operandAwaited n alone
  | .more begun last =>
    Awaiting.afterOperator (conjunctionAwaited n begun) rfl (operandAwaited n last)

theorem operandAwaited {tokens : List Token} {e : Formula} {k : Nat} (n : Nat) :
    Operand tokens e k → Awaiting.after (.operand n) tokens = some (.operator n)
  | .name _ => rfl
  | .not inner =>
    have after := operandAwaited n inner
    after
  | .parens inner => Awaiting.afterOperator (disjunctionAwaited (n + 1) inner) rfl rfl

end

theorem sentenceAwaited {tokens : List Token} (sentence : Sentence tokens) :
    Awaiting.after (.operand 0) tokens = some (.operator 0) := by
  obtain ⟨e, k, derived⟩ := sentence
  exact disjunctionAwaited 0 derived

theorem stuckUnviable {tokens : List Token} {token : Token} {state : Awaiting}
    (here : Awaiting.after (.operand 0) tokens = some state) (stuck : state.next token = none) :
    ¬ Viable (tokens ++ [token]) := by
  intro viable
  obtain ⟨rest, sentence⟩ := viable
  have passed := sentenceAwaited sentence
  rw [Awaiting.afterNone fun s also => Option.some.inj (here.symm.trans also) ▸ stuck] at passed
  cases passed

end ConceptSpace.Formula

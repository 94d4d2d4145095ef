import ConceptSpace.Proofs.FormulaReading

/-! A formula's own text: the tokens it splits into, and the derivation they have.
The text opens one parenthesis for each AND and OR, and a negation and a parenthesis for each NOT. -/
namespace ConceptSpace.Formula
open Text

def nesting : Formula → Nat
  | .var _ => 0
  | .and a b => max a.nesting b.nesting + 1
  | .or a b => max a.nesting b.nesting + 1
  | .not a => a.nesting + 2

def tokens : Formula → List Token
  | .var name => [.name name]
  | .and a b => .opening :: ((a.tokens ++ .and :: b.tokens) ++ [.closing])
  | .or a b => .opening :: ((a.tokens ++ .or :: b.tokens) ++ [.closing])
  | .not a => .not :: .opening :: (a.tokens ++ [.closing])

structure IsName (word : String) : Prop where
  filled : word.toList ≠ []
  chars : ∀ c ∈ word.toList, isNameChar c = true
  spells : Spells word.toList (.name word)

def Named : Formula → Prop
  | .var name => IsName name
  | .and a b => a.Named ∧ b.Named
  | .or a b => a.Named ∧ b.Named
  | .not a => a.Named

theorem tokensOperand (e : Formula) : Operand e.tokens e e.nesting := by
  induction e with
  | var name => exact .name name
  | and a b first second => exact .parens (.one (.more (.one first) second))
  | or a b first second => exact .parens (.more (.one (.one first)) (.one second))
  | not a inner => exact .not (.parens (.one (.one inner)))

section
variable {text : List Char} {tokens : List Token}

theorem endsName {c : Char} (plain : isNameChar c = false) : ∀ d ∈ (c :: text).head?, isNameChar d = false := by
  intro d first
  cases first
  exact plain

theorem operatorSplits {word : List Char} {token : Token} (spells : Spells word token)
    (filled : word ≠ []) (names : ∀ c ∈ word, isNameChar c = true) (split : Splits text tokens) :
    Splits (' ' :: (word ++ ' ' :: text)) (token :: tokens) := by
  have blank : isBlank ' ' = true := by decide
  exact .blank blank (.word filled names (endsName (by decide)) spells (.blank blank split))

theorem textSplits {e : Formula} (named : e.Named) (ends : ∀ c ∈ text.head?, isNameChar c = false)
    (split : Splits text tokens) : Splits (e.text.toList ++ text) (e.tokens ++ tokens) := by
  have closes : isNameChar ')' = false := by decide
  induction e generalizing text tokens with
  | var name => exact .word named.filled named.chars ends named.spells split
  | and a b first second =>
    have spells : Spells ['A', 'N', 'D'] .and := spellsIff.mpr rfl
    have right := second named.2 (endsName closes) (.closing split)
    have between := operatorSplits spells (by decide) (List.all_eq_true.mp (by decide)) right
    have whole := Splits.opening (first named.1 (endsName (by decide)) between)
    simpa [Formula.text, Formula.tokens] using whole
  | or a b first second =>
    have spells : Spells ['O', 'R'] .or := spellsIff.mpr rfl
    have right := second named.2 (endsName closes) (.closing split)
    have between := operatorSplits spells (by decide) (List.all_eq_true.mp (by decide)) right
    have whole := Splits.opening (first named.1 (endsName (by decide)) between)
    simpa [Formula.text, Formula.tokens] using whole
  | not a inner =>
    have spells : Spells ['N', 'O', 'T'] .not := spellsIff.mpr rfl
    have opened := Splits.opening (inner named (endsName closes) (.closing split))
    have whole := Splits.word (by decide) (List.all_eq_true.mp (by decide)) (endsName (by decide)) spells opened
    simpa [Formula.text, Formula.tokens] using whole

end

theorem textTokens {e : Formula} (named : e.Named) : Splits e.text.toList e.tokens := by
  have split := @textSplits [] [] e named (by simp) .done
  rwa [List.append_nil, List.append_nil] at split

theorem splitNames {text : List Char} {tokens : List Token} (split : Splits text tokens) {word : String}
    (listed : .name word ∈ tokens) : IsName word := by
  induction split with
  | done => cases listed
  | blank _ _ ih => exact ih listed
  | opening _ ih => exact ih (by simpa using listed)
  | closing _ ih => exact ih (by simpa using listed)
  | word filled names _ spells _ ih =>
    rcases List.mem_cons.mp listed with rfl | later
    · cases spells with
      | operator other => simp [spellings] at other
      | name free => exact ⟨by simpa using filled, by simpa using names, by simpa using Spells.name free⟩
    · exact ih later

mutual

theorem disjunctionNamed {tokens : List Token} {e : Formula} {k : Nat} (derived : Disjunction tokens e k)
    (names : ∀ word, .name word ∈ tokens → IsName word) : e.Named := by
  cases derived with
  | one alone => exact conjunctionNamed alone names
  | more begun last =>
    exact ⟨disjunctionNamed begun fun word listed => names word (by simp [listed]),
      conjunctionNamed last fun word listed => names word (by simp [listed])⟩
termination_by (tokens.length, 2)

theorem conjunctionNamed {tokens : List Token} {e : Formula} {k : Nat} (derived : Conjunction tokens e k)
    (names : ∀ word, .name word ∈ tokens → IsName word) : e.Named := by
  cases derived with
  | one alone => exact operandNamed alone names
  | more begun last =>
    exact ⟨conjunctionNamed begun fun word listed => names word (by simp [listed]),
      operandNamed last fun word listed => names word (by simp [listed])⟩
termination_by (tokens.length, 1)

theorem operandNamed {tokens : List Token} {e : Formula} {k : Nat} (derived : Operand tokens e k)
    (names : ∀ word, .name word ∈ tokens → IsName word) : e.Named := by
  cases derived with
  | name word => exact names word (by simp)
  | not inner =>
    have inside := operandNamed inner fun word listed => names word (List.mem_cons_of_mem _ listed)
    exact inside
  | parens inner => exact disjunctionNamed inner fun word listed => names word (by simp [listed])
termination_by (tokens.length, 0)

end

theorem parsedNamed {text : String} {e : Formula} (read : parse text = .ok e) :
    e.Named ∧ e.depth ≤ depthLimit := by
  obtain ⟨lexemes, scanned, ok⟩ := parseIff.mp read
  obtain ⟨_, whole⟩ := ofLexemesIff.mp ok
  have reads := disjunctionReads whole
  obtain ⟨front, k, split, derived, _⟩ := reads.derived
  rw [List.append_nil] at split
  subst split
  exact ⟨disjunctionNamed derived fun word => splitNames (scanSplits scanned), reads.shallow⟩

end ConceptSpace.Formula

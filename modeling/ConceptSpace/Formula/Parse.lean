import ConceptSpace.Formula.Basic
import ConceptSpace.Formula.Token

/-! Reading formulas: AND binds tighter than OR, both group to the left, and NOT binds tightest.
Each reader takes the lexemes left and returns a formula with the lexemes after it, always fewer.
The depth of the tree is carried along, and the number of negations and parentheses still open is
handed down, so both limits are met before a tree beyond them is built. -/
namespace ConceptSpace.Formula

structure Phrase where
  formula : Formula
  depth : Nat
  rest : List Lexeme
  deriving DecidableEq, Repr

abbrev Reading (n : Nat) := Except SyntaxError { p : Phrase // p.rest.length < n }

def join (offset : Nat) (operator : Formula → Formula → Formula) (left right : Phrase) :
    Except SyntaxError { p : Phrase // p.rest = right.rest } :=
  let depth := max left.depth right.depth + 1
  if depthLimit < depth then .error ⟨offset, .tooDeep⟩
  else .ok ⟨⟨operator left.formula right.formula, depth, right.rest⟩, rfl⟩

mutual

def disjunction (stop nesting : Nat) (lexemes : List Lexeme) : Reading lexemes.length :=
  match conjunction stop nesting lexemes with
  | .error e => .error e
  | .ok first => disjuncts stop nesting lexemes.length first
termination_by (lexemes.length, 4)

def disjuncts (stop nesting n : Nat) (left : { p : Phrase // p.rest.length < n }) : Reading n :=
  match h : left.val.rest with
  | ⟨offset, .or⟩ :: after =>
    match conjunction stop nesting after with
    | .error e => .error e
    | .ok right =>
      match join offset .or left.val right.val with
      | .error e => .error e
      | .ok both => disjuncts stop nesting n
          ⟨both.val, by have := left.2; have := right.2; simp only [both.2, h, List.length_cons] at *; omega⟩
  | _ => .ok left
termination_by (left.val.rest.length, 3)
decreasing_by
  all_goals have := left.2
  · simp only [h, List.length_cons]; apply Prod.Lex.left; omega
  · have := right.2; simp only [both.2, h, List.length_cons]; apply Prod.Lex.left; omega

def conjunction (stop nesting : Nat) (lexemes : List Lexeme) : Reading lexemes.length :=
  match operand stop nesting lexemes with
  | .error e => .error e
  | .ok first => conjuncts stop nesting lexemes.length first
termination_by (lexemes.length, 2)

def conjuncts (stop nesting n : Nat) (left : { p : Phrase // p.rest.length < n }) : Reading n :=
  match h : left.val.rest with
  | ⟨offset, .and⟩ :: after =>
    match operand stop nesting after with
    | .error e => .error e
    | .ok right =>
      match join offset .and left.val right.val with
      | .error e => .error e
      | .ok both => conjuncts stop nesting n
          ⟨both.val, by have := left.2; have := right.2; simp only [both.2, h, List.length_cons] at *; omega⟩
  | _ => .ok left
termination_by (left.val.rest.length, 1)
decreasing_by
  all_goals have := left.2
  · simp only [h, List.length_cons]; apply Prod.Lex.left; omega
  · have := right.2; simp only [both.2, h, List.length_cons]; apply Prod.Lex.left; omega

def operand (stop nesting : Nat) (lexemes : List Lexeme) : Reading lexemes.length :=
  match lexemes with
  | [] => .error ⟨stop, .unexpectedEnd⟩
  | ⟨_, .name word⟩ :: rest => .ok ⟨⟨.var word, 1, rest⟩, Nat.lt_succ_self _⟩
  | ⟨offset, .not⟩ :: rest =>
    if depthLimit < nesting + 1 then .error ⟨offset, .tooDeep⟩
    else
      match operand stop (nesting + 1) rest with
      | .error e => .error e
      | .ok inner =>
        if depthLimit < inner.val.depth + 1 then .error ⟨offset, .tooDeep⟩
        else .ok ⟨⟨.not inner.val.formula, inner.val.depth + 1, inner.val.rest⟩,
          Nat.lt_succ_of_lt inner.2⟩
  | ⟨offset, .opening⟩ :: rest =>
    if depthLimit < nesting + 1 then .error ⟨offset, .tooDeep⟩
    else
      match disjunction stop (nesting + 1) rest with
      | .error e => .error e
      | .ok inner =>
        match h : inner.val.rest with
        | [] => .error ⟨stop, .closingMissing⟩
        | ⟨_, .closing⟩ :: after =>
          .ok ⟨⟨inner.val.formula, inner.val.depth, after⟩, by
            have := inner.2; simp only [h, List.length_cons] at *; omega⟩
        | ⟨position, found⟩ :: _ => .error ⟨position, .closingExpected found⟩
  | ⟨offset, found⟩ :: _ => .error ⟨offset, .unexpected found⟩
termination_by (lexemes.length, 0)

end

def ofLexemes (stop : Nat) (lexemes : List Lexeme) : Except SyntaxError Formula :=
  if lexemes.isEmpty then .error ⟨0, .emptyExpression⟩
  else
    match disjunction stop 0 lexemes with
    | .error e => .error e
    | .ok whole =>
      match whole.val.rest with
      | [] => .ok whole.val.formula
      | ⟨offset, .closing⟩ :: _ => .error ⟨offset, .closingUnexpected⟩
      | ⟨offset, found⟩ :: _ => .error ⟨offset, .trailing found⟩

def parse (text : String) : Except SyntaxError Formula :=
  match scan 0 text.toList with
  | .error e => .error e
  | .ok lexemes => ofLexemes text.utf8ByteSize lexemes

end ConceptSpace.Formula

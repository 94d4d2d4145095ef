import ConceptSpace.Text.Blank

/-! Tokens of written formulas.
A word is a longest run of name characters; the words AND, OR and NOT are operators in any case.
Positions are byte offsets in the text. -/
namespace ConceptSpace.Formula

inductive Token where
  | name (word : String)
  | and
  | or
  | not
  | opening
  | closing
  deriving DecidableEq, Repr

inductive SyntaxFault where
  | unknownOperator (c : Char)
  | emptyExpression
  | tooDeep
  | closingExpected (found : Token)
  | closingMissing
  | closingUnexpected
  | trailing (found : Token)
  | unexpected (found : Token)
  | unexpectedEnd
  deriving DecidableEq, Repr

structure SyntaxError where
  offset : Nat
  fault : SyntaxFault
  deriving DecidableEq, Repr

structure Lexeme where
  offset : Nat
  token : Token
  deriving DecidableEq, Repr

def depthLimit : Nat := 256

def Token.describe : Token → String
  | .name word => "identifier '" ++ word ++ "'"
  | .and => "AND"
  | .or => "OR"
  | .not => "NOT"
  | .opening => "'('"
  | .closing => "')'"

def SyntaxFault.message : SyntaxFault → String
  | .unknownOperator c => "unknown operator '" ++ String.singleton c ++ "'"
  | .emptyExpression => "empty expression"
  | .tooDeep => "expression nested too deeply (limit " ++ toString depthLimit ++ ")"
  | .closingExpected found => "expected ')' but found " ++ found.describe
  | .closingMissing => "unbalanced parentheses: missing ')'"
  | .closingUnexpected => "unbalanced parentheses: unexpected ')'"
  | .trailing found => "unexpected trailing " ++ found.describe
  | .unexpected found => "unexpected " ++ found.describe
  | .unexpectedEnd => "unexpected end of expression"

def isNameChar (c : Char) : Bool :=
  c.isAlphanum || c == '_' || c == '.' || c == ':' || c == '-'

def Token.ofWord (word : List Char) : Token :=
  let upper := word.map Char.toUpper
  if upper = ['A', 'N', 'D'] then .and
  else if upper = ['O', 'R'] then .or
  else if upper = ['N', 'O', 'T'] then .not
  else .name (String.ofList word)

def scan (offset : Nat) : List Char → Except SyntaxError (List Lexeme)
  | [] => .ok []
  | c :: rest =>
    if Text.isBlank c then scan (offset + c.utf8Size) rest
    else if c = '(' then (scan (offset + 1) rest).map (⟨offset, .opening⟩ :: ·)
    else if c = ')' then (scan (offset + 1) rest).map (⟨offset, .closing⟩ :: ·)
    else if isNameChar c then
      let more := rest.takeWhile isNameChar
      (scan (offset + 1 + more.length) (rest.dropWhile isNameChar)).map
        (⟨offset, .ofWord (c :: more)⟩ :: ·)
    else .error ⟨offset, .unknownOperator c⟩
termination_by text => text.length
decreasing_by
  all_goals simp only [List.length_cons]
  all_goals first | omega | exact Nat.lt_succ_of_le (List.dropWhile_sublist _).length_le

end ConceptSpace.Formula

import ConceptSpace.Decimal.Reading

/-! Shell scripts: simple commands with redirections, joined to pipelines, and pipelines joined by
line breaks, `;`, `&&` and `||`. A word may hold parameters, and commands whose output is put in. -/
namespace ConceptSpace.Script

inductive Part where
  | literal (text : List Char)
  | parameter (name : String) (quoted : Bool)
  | command (script : String) (quoted : Bool)
  deriving DecidableEq, Repr

abbrev Word := List Part

inductive Lexeme where
  | word (parts : Word)
  | redirection (descriptor : Nat) (isInput duplicates : Bool)
  | pipe
  | ends (isBreak : Bool)
  | onSuccess
  | onFailure
  deriving DecidableEq, Repr

inductive ScriptError where
  | unterminatedQuote
  | unexpected (lexeme : String)
  deriving DecidableEq, Repr

def ScriptError.message : ScriptError → String
  | .unterminatedQuote => "Syntax error: Unterminated quoted string"
  | .unexpected lexeme => "Syntax error: " ++ lexeme ++ " unexpected"

def isNameChar (c : Char) : Bool := c.isAlphanum || c == '_'

def commandText (depth : Nat) (quote : Option Char) : List Char → List Char × List Char
  | [] => ([], [])
  | '\\' :: c :: rest =>
    let (text, rest) := commandText depth quote rest
    ('\\' :: c :: text, rest)
  | c :: rest =>
    let kept (depth : Nat) (quote : Option Char) :=
      let (text, rest) := commandText depth quote rest
      (c :: text, rest)
    match quote with
    | some q => kept depth (if c == q then none else quote)
    | none =>
      if c == '\'' || c == '"' then kept depth (some c)
      else if c == '(' then kept (depth + 1) none
      else if c != ')' then kept depth none
      else if depth == 0 then ([], rest)
      else kept (depth - 1) none

def substitution (quoted : Bool) (text : List Char) : Part × List Char :=
  match text with
  | '\x7b' :: rest =>
    (.parameter (String.ofList (rest.takeWhile (· != '\x7d'))) quoted,
      (rest.dropWhile (· != '\x7d')).drop 1)
  | '(' :: rest =>
    let (script, rest) := commandText 0 none rest
    (.command (String.ofList script) quoted, rest)
  | c :: rest =>
    if c.isAlpha || c == '_' then
      (.parameter (String.ofList (text.takeWhile isNameChar)) quoted, text.dropWhile isNameChar)
    else if Decimal.isDigit c || ['#', '@', '*', '?', '$', '!'].contains c then
      (.parameter (String.singleton c) quoted, rest)
    else (.literal ['$'], text)
  | [] => (.literal ['$'], [])

def doubleQuoted (run : List Char) : (fuel : Nat) → List Char → Option (List Part × List Char)
  | 0, _ => none
  | _ + 1, [] => none
  | _ + 1, '"' :: rest => some ([.literal run.reverse], rest)
  | fuel + 1, '\\' :: c :: rest =>
    if c == '\n' then doubleQuoted run fuel rest
    else if ['$', '"', '\\'].contains c || c.toNat == 96 then doubleQuoted (c :: run) fuel rest
    else doubleQuoted (c :: '\\' :: run) fuel rest
  | fuel + 1, '$' :: rest =>
    let (part, rest) := substitution true rest
    (doubleQuoted [] fuel rest).map fun (parts, rest) => (.literal run.reverse :: part :: parts, rest)
  | fuel + 1, c :: rest => doubleQuoted (c :: run) fuel rest

def isBlank (c : Char) : Bool := c == ' ' || c == '\t'

def endsWord (c : Char) : Bool := isBlank c || ['\n', ';', '&', '|', '<', '>', '(', ')'].contains c

def word? : (fuel : Nat) → List Char → Option (Word × List Char)
  | 0, _ => none
  | _ + 1, [] => some ([], [])
  | fuel + 1, c :: rest =>
    if endsWord c then some ([], c :: rest)
    else
      let more (parts : List Part) (rest : List Char) :=
        (word? fuel rest).map fun (following, rest) => (parts ++ following, rest)
      match c, rest with
      | '\'', rest =>
        if rest.contains '\'' then
          more [.literal (rest.takeWhile (· != '\''))] ((rest.dropWhile (· != '\'')).drop 1)
        else none
      | '"', rest => (doubleQuoted [] (rest.length + 1) rest).bind fun (parts, rest) => more parts rest
      | '\\', d :: rest => if d == '\n' then word? fuel rest else more [.literal [d]] rest
      | '$', rest =>
        let (part, rest) := substitution false rest
        more [part] rest
      | c, rest => more [.literal [c]] rest

def redirection (descriptor : Option Nat) (text : List Char) : Option (Lexeme × List Char) :=
  match text with
  | '>' :: '&' :: rest => some (.redirection (descriptor.getD 1) false true, rest)
  | '>' :: '>' :: rest => some (.redirection (descriptor.getD 1) false false, rest)
  | '>' :: rest => some (.redirection (descriptor.getD 1) false false, rest)
  | '<' :: '&' :: rest => some (.redirection (descriptor.getD 0) true true, rest)
  | '<' :: rest => some (.redirection (descriptor.getD 0) true false, rest)
  | _ => none

def lexemes : (fuel : Nat) → List Char → Except ScriptError (List Lexeme)
  | 0, _ => .ok []
  | fuel + 1, text =>
    let one (lexeme : Lexeme) (rest : List Char) := (lexemes fuel rest).map (lexeme :: ·)
    match text.dropWhile isBlank with
    | [] => .ok []
    | '#' :: rest => lexemes fuel (rest.dropWhile (· != '\n'))
    | '\n' :: rest => one (.ends true) rest
    | ';' :: rest => one (.ends false) rest
    | '&' :: '&' :: rest => one .onSuccess rest
    | '&' :: rest => one (.ends false) rest
    | '|' :: '|' :: rest => one .onFailure rest
    | '|' :: rest => one .pipe rest
    | '(' :: _ => .error (.unexpected "\"(\"")
    | ')' :: _ => .error (.unexpected "\")\"")
    | c :: rest =>
      match redirection none (c :: rest) with
      | some (lexeme, rest) => one lexeme rest
      | none =>
        match if Decimal.isDigit c then redirection (some (Decimal.digitValue c)) rest else none with
        | some (lexeme, rest) => one lexeme rest
        | none =>
          match word? (rest.length + 2) (c :: rest) with
          | some (parts, rest) => one (.word parts) rest
          | none => .error .unterminatedQuote

structure Redirection where
  descriptor : Nat
  isInput : Bool
  duplicates : Bool
  target : Word
  deriving DecidableEq, Repr

structure Command where
  words : List Word
  redirections : List Redirection
  deriving DecidableEq, Repr

inductive Condition where
  | always
  | onSuccess
  | onFailure
  deriving DecidableEq, Repr

structure Step where
  line : Nat
  condition : Condition
  pipeline : List Command
  deriving DecidableEq, Repr

def Command.isEmpty (c : Command) : Bool := c.words.isEmpty && c.redirections.isEmpty

def command? (c : Command) : List Lexeme → Option (Command × List Lexeme)
  | .word parts :: rest => command? { c with words := c.words ++ [parts] } rest
  | .redirection descriptor isInput duplicates :: .word target :: rest =>
    command? { c with redirections := c.redirections ++ [⟨descriptor, isInput, duplicates, target⟩] } rest
  | .redirection _ _ _ :: _ => none
  | rest => some (c, rest)

def steps (line : Nat) (condition : Condition) (before : List Command) :
    (fuel : Nat) → List Lexeme → Except ScriptError (List Step)
  | 0, _ => .ok []
  | fuel + 1, lexemes => do
    match command? ⟨[], []⟩ lexemes with
    | none => .error (.unexpected "newline")
    | some (c, rest) =>
      let pipeline := before ++ [c]
      let isOpen := c.isEmpty && (!before.isEmpty || condition != .always)
      let following (line : Nat) (next : Condition) (rest : List Lexeme) (mark : String) :=
        if c.isEmpty then .error (.unexpected mark)
        else (steps line next [] fuel rest).map (⟨line, condition, pipeline⟩ :: ·)
      match rest with
      | .pipe :: rest =>
        if c.isEmpty then .error (.unexpected "\"|\"") else steps line condition pipeline fuel rest
      | .onSuccess :: rest => following line .onSuccess rest "\"&&\""
      | .onFailure :: rest => following line .onFailure rest "\"||\""
      | .ends true :: rest =>
        if isOpen then steps (line + 1) condition before fuel rest
        else if c.isEmpty then steps (line + 1) .always [] fuel rest
        else (steps (line + 1) .always [] fuel rest).map (⟨line, condition, pipeline⟩ :: ·)
      | .ends false :: rest => following line .always rest "\";\""
      | _ =>
        if isOpen then .error (.unexpected "end of file")
        else .ok (if c.isEmpty then [] else [⟨line, condition, pipeline⟩])

def read (text : String) : Except ScriptError (List Step) := do
  let found ← lexemes (text.length + 1) text.toList
  steps 1 .always [] (found.length + 1) found

end ConceptSpace.Script

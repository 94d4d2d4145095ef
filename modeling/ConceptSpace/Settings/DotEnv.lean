import ConceptSpace.Settings.Environment

/-! Files of variables, one a line.
Lines are read up to the first one that cannot be; a quoted value may run over several lines. A value
may refer to variables that are set already, in the environment or on a line before. -/
namespace ConceptSpace.DotEnv

inductive LineState where
  | plain
  | blank
  | escape
  | double
  | doubleEscape
  | single
  | singleEscape
  deriving DecidableEq, Repr

def LineState.outside (c : Char) (isBlankBefore : Bool) : LineState :=
  if c == '\\' then .escape
  else if c == '"' then .double
  else if c == '\'' then .single
  else if !isBlankBefore && Text.isBlank c && c != '\n' && c != '\r' then .blank
  else .plain

def LineState.next? (state : LineState) (c : Char) : Option LineState :=
  match state with
  | .plain => some (.outside c false)
  | .blank => if c == '#' then none else some (.outside c true)
  | .escape => some .plain
  | .double => some (if c == '\\' then .doubleEscape else if c == '"' then .plain else .double)
  | .doubleEscape => some .double
  | .single => some (if c == '\\' then .singleEscape else if c == '\'' then .plain else .single)
  | .singleEscape => some .single

def logicalLine? (state : LineState) (done : List Char) :
    List Char → Option (List Char × List Char)
  | [] => if state == .plain || state == .blank then some (done.reverse, []) else none
  | c :: rest =>
    match state.next? c with
    | none => some (done.reverse, (rest.dropWhile (· != '\n')).drop 1)
    | some state =>
      if c == '\n' && state == .plain then some (done.reverse, rest)
      else logicalLine? state (c :: done) rest

inductive Reference where
  | none
  | bare
  | braced
  deriving DecidableEq, Repr

structure Value where
  text : List Char := []
  isSingle : Bool := false
  isDouble : Bool := false
  isEscaped : Bool := false
  isOver : Bool := false
  reference : Reference := .none
  name : List Char := []

namespace Value

def push (v : Value) (c : Char) : Value := { v with text := c :: v.text }

def substitute (known : Environment) (v : Value) : Value :=
  let value := (known.get? (String.ofList v.name.reverse)).getD ""
  { v with text := value.toList.reverse ++ v.text, name := [], reference := .none }

def step (v : Value) (c : Char) : Value :=
  if c == '$' then { v with reference := .bare }
  else if v.isDouble then
    if c == '"' then { v with isDouble := false }
    else if c == '\\' then { v with isEscaped := true }
    else v.push c
  else if c == '\'' then { v with isSingle := true }
  else if c == '"' then { v with isDouble := true }
  else if c == '\\' then { v with isEscaped := true }
  else if c == ' ' || c == '\t' then { v with isOver := true }
  else v.push c

def result? (known : Environment) (v : Value) : Option String :=
  if v.reference == .braced || v.isSingle || v.isDouble then none
  else some (String.ofList (v.substitute known).text.reverse)

def read? (known : Environment) (v : Value) : List Char → Option String
  | [] => v.result? known
  | c :: rest =>
    if v.isOver then
      if c == ' ' || c == '\t' then read? known v rest
      else if c == '#' then v.result? known
      else none
    else if v.isEscaped then
      let v := { v with isEscaped := false }
      if ['\\', '\'', '"', '$', ' '].contains c then read? known (v.push c) rest
      else if c == 'n' then read? known (v.push '\n') rest
      else none
    else if v.isSingle then
      read? known (if c == '\'' then { v with isSingle := false } else v.push c) rest
    else
      match v.reference with
      | .none => read? known (v.step c) rest
      | .bare =>
        if Text.isAlphanumeric c then read? known { v with name := c :: v.name } rest
        else if c == '\x7b' && v.name.isEmpty then read? known { v with reference := .braced } rest
        else
          let v := v.substitute known
          read? known (if c == '$' then { v with reference := .bare } else v.push c) rest
      | .braced =>
        if c == '\x7d' then read? known (v.substitute known) rest
        else read? known { v with name := c :: v.name } rest

end Value

def isNameStart (c : Char) : Bool := c.isAlpha || c == '_'

def isNameChar (c : Char) : Bool := c.isAlphanum || c == '_' || c == '.'

def name? (text : List Char) : Option (String × List Char) :=
  if text.head?.any isNameStart then
    some (String.ofList (text.takeWhile isNameChar), Text.trimStartChars (text.dropWhile isNameChar))
  else none

def line? (known : Environment) (text : List Char) : Option (Option (String × String)) := do
  let text := Text.trimStartChars text
  if text.isEmpty || text.head? == some '#' then return none
  let (name, rest) ← name? text
  let (name, rest) ← match name == "export", rest with
    | true, c :: more => if c == '=' then some (name, c :: more) else name? (c :: more)
    | _, rest => some (name, rest)
  match rest with
  | '=' :: rest =>
    let rest := Text.trimStartChars rest
    if rest.isEmpty || rest.head? == some '#' then return some (name, "")
    else return some (name, ← Value.read? known {} rest)
  | _ => none

def settings (environment : Environment) (found : Environment) :
    (fuel : Nat) → List Char → Environment
  | 0, _ => found
  | _ + 1, [] => found
  | fuel + 1, text =>
    if (Text.trimStartChars (text.takeWhile (· != '\n'))).head? == some '#' then
      settings environment found fuel ((text.dropWhile (· != '\n')).drop 1)
    else
      match logicalLine? .plain [] text with
      | none => found
      | some (line, rest) =>
        let line := if line.getLast? == some '\r' then line.dropLast else line
        match line? (environment ++ found) line with
        | none => found
        | some none => settings environment found fuel rest
        | some (some setting) => settings environment (found ++ [setting]) fuel rest

def path : String := ".env"

def load (files : FileTree) (environment : Environment) : Environment :=
  match files.readText path with
  | .ok text =>
    let chars := match text.toList with
      | '\ufeff' :: rest => rest
      | chars => chars
    environment ++ settings environment [] (chars.length + 1) chars
  | .error _ => environment

end ConceptSpace.DotEnv

import ConceptSpace.Text.Hex

/-! TOML texts in quotes: basic ones with escapes and literal ones without, on one line or on more.
Three quotes enclose a text of several lines; a line break directly after them is left out. -/
namespace ConceptSpace.Toml

def isSpace (c : Char) : Bool := c == ' ' || c == '\t'

def isControl (c : Char) : Bool := (c.toNat < 32 && c != '\t') || c.toNat == 127

def newline? : List Char → Option (List Char)
  | '\n' :: rest => some rest
  | '\r' :: '\n' :: rest => some rest
  | _ => none

def escape? : Char → Option Char
  | '"' => some '"'
  | '\\' => some '\\'
  | 'b' => some '\x08'
  | 'f' => some '\x0c'
  | 'n' => some '\n'
  | 'r' => some '\r'
  | 't' => some '\t'
  | _ => none

def escaped? : List Char → Option (Char × List Char)
  | 'u' :: rest => Text.codePoint? 4 rest
  | 'U' :: rest => Text.codePoint? 8 rest
  | c :: rest => (escape? c).map (·, rest)
  | [] => none

def basic? (done : List Char) : (fuel : Nat) → List Char → Option (String × List Char)
  | 0, _ => none
  | _ + 1, [] => none
  | _ + 1, '"' :: rest => some (String.ofList done.reverse, rest)
  | fuel + 1, '\\' :: rest =>
    match escaped? rest with
    | some (c, rest) => basic? (c :: done) fuel rest
    | none => none
  | fuel + 1, c :: rest => if isControl c then none else basic? (c :: done) fuel rest

def literal? (text : List Char) : Option (String × List Char) :=
  let inside := text.takeWhile (· != '\'')
  match text.dropWhile (· != '\'') with
  | _ :: rest => if inside.any isControl then none else some (String.ofList inside, rest)
  | [] => none

def closing? (quote : Char) (text : List Char) : Option (List Char × List Char) :=
  let count := (text.takeWhile (· == quote)).length
  if 3 ≤ count && count ≤ 5 then some (List.replicate (count - 3) quote, text.drop count) else none

def several? (quote : Char) (done : List Char) : (fuel : Nat) → List Char → Option (String × List Char)
  | 0, _ => none
  | _ + 1, [] => none
  | fuel + 1, c :: rest =>
    match newline? (c :: rest) with
    | some rest => several? quote ('\n' :: done) fuel rest
    | none =>
      match closing? quote (c :: rest) with
      | some (quotes, rest) => some (String.ofList (done.reverse ++ quotes), rest)
      | none =>
        if c == '\\' && quote == '"' then
          if (newline? (rest.dropWhile isSpace)).isSome then
            several? quote done fuel (rest.dropWhile fun c => isSpace c || c == '\n' || c == '\r')
          else
            match escaped? rest with
            | some (c, rest) => several? quote (c :: done) fuel rest
            | none => none
        else if isControl c || (quote :: quote :: [quote]).isPrefixOf (c :: rest) then none
        else several? quote (c :: done) fuel rest

def quoted? (text : List Char) : Option (String × List Char) :=
  let lines (quote : Char) (rest : List Char) :=
    several? quote [] (rest.length + 1) ((newline? rest).getD rest)
  match text with
  | '"' :: '"' :: '"' :: rest => lines '"' rest
  | '\'' :: '\'' :: '\'' :: rest => lines '\'' rest
  | '"' :: rest => basic? [] (rest.length + 1) rest
  | '\'' :: rest => literal? rest
  | _ => none

end ConceptSpace.Toml

import ConceptSpace.Document.Yaml.Cursor
import ConceptSpace.Text.Hex

/-! YAML scalars in quotes: in single quotes, where a quote is written twice, and in double quotes,
where a backslash starts an escape. What is read so far is held last character first. -/
namespace ConceptSpace.Yaml

def singleRun (done : List Char) (n : Nat) : List Char → List Char × Nat
  | '\'' :: '\'' :: rest => singleRun ('\'' :: done) (n + 2) rest
  | c :: rest =>
    if c == '\'' || isBlank c || isBreak c then (done, n) else singleRun (c :: done) (n + 1) rest
  | [] => (done, n)

def escape? : Char → Option Char
  | '0' => some '\x00'
  | 'a' => some '\x07'
  | 'b' => some '\x08'
  | 't' => some '\t'
  | '\t' => some '\t'
  | 'n' => some '\n'
  | 'v' => some '\x0b'
  | 'f' => some '\x0c'
  | 'r' => some '\r'
  | 'e' => some '\x1b'
  | ' ' => some ' '
  | '"' => some '"'
  | '/' => some '/'
  | '\\' => some '\\'
  | 'N' => some '\u0085'
  | '_' => some '\u00a0'
  | 'L' => some '\u2028'
  | 'P' => some '\u2029'
  | _ => none

def codeWidth? : Char → Option Nat
  | 'x' => some 2
  | 'u' => some 4
  | 'U' => some 8
  | _ => none

def doubleRun? (done : List Char) (n : Nat) : (fuel : Nat) → List Char → Option (List Char × Nat)
  | 0, _ => none
  | _ + 1, [] => some (done, n)
  | _ + 1, ['\\'] => none
  | fuel + 1, '\\' :: c :: rest =>
    if isBreak c then some (done, n)
    else
      match codeWidth? c with
      | some width => do
        let (c, rest) ← Text.codePoint? width rest
        doubleRun? (c :: done) (n + 2 + width) fuel rest
      | none => do
        let c ← escape? c
        doubleRun? (c :: done) (n + 2) fuel rest
  | fuel + 1, c :: rest =>
    if c == '"' || isBlank c || isBreak c then some (done, n)
    else doubleRun? (c :: done) (n + 1) fuel rest

def quoted? (quote : Char) (done : List Char) : (fuel : Nat) → Cursor → Option (List Char × Cursor)
  | 0, _ => none
  | fuel + 1, c =>
    if c.atMarker || c.rest.isEmpty then none
    else do
      let (done, n) ←
        if quote == '"' then doubleRun? done 0 fuel c.rest else some (singleRun done 0 c.rest)
      let c := c.advance n
      let (gap, c) : Gap × Cursor :=
        if c.rest.head? == some '\\' then ({ broken := true }, (c.advance 1).lineBreak.2) else ({}, c)
      if c.rest.head? == some quote then return (done, c.advance 1)
      let (gap, c) ← gap.read? 0 fuel c
      quoted? quote (gap.text.reverse ++ done) fuel c

end ConceptSpace.Yaml

import ConceptSpace.Document.Yaml.BlockText
import ConceptSpace.Document.Yaml.Plain
import ConceptSpace.Document.Yaml.Property
import ConceptSpace.Document.Yaml.Quoted

/-! Cutting YAML texts into tokens.
Indentation opens and closes lists and records, as long as no bracket is open. That something is a key
shows only at the colon behind it; its token is then put in front of it. Tokens and open brackets are held
last first. -/
namespace ConceptSpace.Yaml

structure KeyStart where
  place : Nat
  required : Bool
  index : Nat
  line : Nat
  column : Nat

def KeyStart.reaches (k : KeyStart) (c : Cursor) : Bool := k.line == c.line && c.index ≤ k.index + 1024

structure Lexer where
  cursor : Cursor
  tokens : List Token := []
  count : Nat := 0
  indent : Int := -1
  outer : List Int := []
  keyAllowed : Bool := true
  blockKey : Option KeyStart := none
  flowKeys : List (Option KeyStart) := []

namespace Lexer

def inFlow (l : Lexer) : Bool := !l.flowKeys.isEmpty

def push (token : Token) (l : Lexer) : Lexer :=
  { l with tokens := token :: l.tokens, count := l.count + 1 }

def insert (place : Nat) (token : Token) (l : Lexer) : Lexer :=
  let later := l.count - place
  { l with tokens := l.tokens.take later ++ token :: l.tokens.drop later, count := l.count + 1 }

def mark (token : Token) (n : Nat) (l : Lexer) : Lexer :=
  { l.push token with cursor := l.cursor.advance n }

def pendingKey (l : Lexer) : Option KeyStart :=
  match l.flowKeys with
  | key :: _ => key
  | [] => l.blockKey

def setKey (key : Option KeyStart) (l : Lexer) : Lexer :=
  match l.flowKeys with
  | _ :: rest => { l with flowKeys := key :: rest }
  | [] => { l with blockKey := key }

def dropKey? (l : Lexer) : Option Lexer :=
  if l.pendingKey.any (·.required) then none else some (l.setKey none)

def saveKey? (l : Lexer) : Option Lexer :=
  if l.keyAllowed then
    let c := l.cursor
    let required := !l.inFlow && l.indent == c.column
    l.dropKey?.map (setKey (some ⟨l.count, required, c.index, c.line, c.column⟩))
  else some l

def dropDistantKey? (l : Lexer) : Option Lexer :=
  match l.blockKey with
  | none => some l
  | some key =>
    if key.reaches l.cursor then some l
    else if key.required then none
    else some { l with blockKey := none }

def openBlock (place column : Nat) (token : Token) (l : Lexer) : Lexer :=
  if !l.inFlow && l.indent < column then
    { l.insert place token with indent := column, outer := l.indent :: l.outer }
  else l

def closeBlocks (column : Int) (l : Lexer) : Lexer :=
  if l.inFlow then l
  else
    let columns := l.indent :: l.outer
    let closed := columns.takeWhile (column < ·)
    match columns.drop closed.length with
    | indent :: outer => { closed.foldl (fun l _ => l.push .blockEnd) l with indent, outer }
    | [] => l

def skipSpace : (fuel : Nat) → Lexer → Lexer
  | 0, l => l
  | fuel + 1, l =>
    let c := if l.cursor.index == 0 && l.cursor.rest.head? == some '\ufeff' then l.cursor.advance 1
      else l.cursor
    let c := (c.pass fun b => b == ' ' || b == '\t' && (l.inFlow || !l.keyAllowed)).comment
    if c.rest.head?.any isBreak then
      skipSpace fuel { l with cursor := c.lineBreak.2, keyAllowed := l.keyAllowed || !l.inFlow }
    else { l with cursor := c }

def top? (l : Lexer) : Option Lexer :=
  (l.closeBlocks (-1)).dropKey?.map fun l => { l with keyAllowed := false }

def openFlow? (token : Token) (l : Lexer) : Option Lexer :=
  l.saveKey?.map fun l => { l.mark token 1 with flowKeys := none :: l.flowKeys, keyAllowed := true }

def closeFlow? (token : Token) (l : Lexer) : Option Lexer :=
  l.dropKey?.map fun l => { l.mark token 1 with flowKeys := l.flowKeys.tail, keyAllowed := false }

def comma? (l : Lexer) : Option Lexer :=
  l.dropKey?.map fun l => { l.mark .comma 1 with keyAllowed := true }

def item? (l : Lexer) : Option Lexer :=
  if !l.inFlow && !l.keyAllowed then none
  else
    (l.openBlock l.count l.cursor.column .listStart).dropKey?.map fun l =>
      { l.mark .item 1 with keyAllowed := true }

def key? (l : Lexer) : Option Lexer :=
  if !l.inFlow && !l.keyAllowed then none
  else
    (l.openBlock l.count l.cursor.column .recordStart).dropKey?.map fun l =>
      { l.mark .key 1 with keyAllowed := !l.inFlow }

def value? (l : Lexer) : Option Lexer :=
  match l.pendingKey.filter (·.reaches l.cursor) with
  | some key =>
    let l := ((l.insert key.place .key).openBlock key.place key.column .recordStart).setKey none
    some { l.mark .value 1 with keyAllowed := false }
  | none =>
    if !l.inFlow && !l.keyAllowed then none
    else
      let l := l.openBlock l.count l.cursor.column .recordStart
      some { l.mark .value 1 with keyAllowed := !l.inFlow }

def keyPart? (read? : Cursor → Option (Token × Cursor)) (l : Lexer) : Option Lexer := do
  let l ← l.saveKey?
  let (token, cursor) ← read? l.cursor
  some { l.push token with cursor, keyAllowed := false }

def quotedScalar? (quote : Char) (fuel : Nat) (l : Lexer) : Option Lexer :=
  l.keyPart? fun c => (quoted? quote [] fuel (c.advance 1)).map fun (text, c) =>
    (.scalar .quoted (String.ofList text.reverse), c)

def plainScalar? (fuel : Nat) (l : Lexer) : Option Lexer := do
  let l ← l.saveKey?
  let (text, broken, cursor) ← plain? l.inFlow (l.indent + 1).toNat [] {} fuel l.cursor
  some { l.push (.scalar .plain (String.ofList text.reverse)) with cursor, keyAllowed := broken }

def blockScalar? (style : Style) (fuel : Nat) (l : Lexer) : Option Lexer := do
  let l ← l.dropKey?
  let (text, cursor) ← blockText? (style == .folded) l.indent fuel (l.cursor.advance 1)
  some { l.push (.scalar style text) with cursor, keyAllowed := true }

def token? (fuel : Nat) (l : Lexer) (c : Char) (rest : List Char) : Option Lexer :=
  if c == '%' && l.cursor.column == 0 then do
    let l ← l.top?
    let (token, cursor) ← directive? fuel l.cursor
    some { l.push token with cursor }
  else if l.cursor.hasMarker '-' then l.top?.map (mark .documentStart 3)
  else if l.cursor.hasMarker '.' then l.top?.map (mark .documentEnd 3)
  else if c == '[' then l.openFlow? .flowListStart
  else if c == '\x7b' then l.openFlow? .flowRecordStart
  else if c == ']' then l.closeFlow? .flowListEnd
  else if c == '\x7d' then l.closeFlow? .flowRecordEnd
  else if c == ',' then l.comma?
  else if c == '-' && endsWord rest then l.item?
  else if c == '?' && (l.inFlow || endsWord rest) then l.key?
  else if c == ':' && (l.inFlow || endsWord rest) then l.value?
  else if c == '*' then
    l.keyPart? fun c => (anchorName? (c.advance 1)).map fun (name, c) => (.reference name, c)
  else if c == '&' then
    l.keyPart? fun c => (anchorName? (c.advance 1)).map fun (name, c) => (.anchor name, c)
  else if c == '!' then l.keyPart? (tag? l.inFlow fuel)
  else if c == '|' && !l.inFlow then l.blockScalar? .literal fuel
  else if c == '>' && !l.inFlow then l.blockScalar? .folded fuel
  else if c == '\'' || c == '"' then l.quotedScalar? c fuel
  else if isIndicator c || isBlank c then none
  else l.plainScalar? fuel

def run? : (fuel : Nat) → Lexer → Option Lexer
  | 0, _ => none
  | fuel + 1, l => do
    let l ← (l.skipSpace fuel).dropDistantKey?
    let l := l.closeBlocks l.cursor.column
    match l.cursor.rest with
    | [] => l.top?
    | c :: rest => run? fuel (← l.token? fuel c rest)

end Lexer

/-- The tokens of a text. Every token takes a character, and reading one takes no more steps than there
are characters. -/
def tokens? (text : List Char) : Option (List Token) :=
  (Lexer.run? (2 * text.length + 8) { cursor := { rest := text } }).map (·.tokens.reverse)

end ConceptSpace.Yaml

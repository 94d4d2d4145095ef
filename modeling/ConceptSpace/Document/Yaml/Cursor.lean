import ConceptSpace.Document.Yaml.Character

/-! Places in a YAML text, and the white space between the words of a scalar. -/
namespace ConceptSpace.Yaml

structure Cursor where
  rest : List Char
  index : Nat := 0
  line : Nat := 0
  column : Nat := 0

namespace Cursor

def advance (c : Cursor) (n : Nat) : Cursor :=
  { c with rest := c.rest.drop n, index := c.index + n, column := c.column + n }

def pass (p : Char → Bool) (c : Cursor) : Cursor := c.advance (c.rest.takeWhile p).length

def lineBreak (c : Cursor) : List Char × Cursor :=
  match c.rest with
  | '\r' :: '\n' :: rest => (['\n'], ⟨rest, c.index + 2, c.line + 1, 0⟩)
  | b :: rest =>
    if isBreak b then
      ([if b == '\u2028' || b == '\u2029' then b else '\n'], ⟨rest, c.index + 1, c.line + 1, 0⟩)
    else ([], c)
  | [] => ([], c)

def comment (c : Cursor) : Cursor := if c.rest.head? == some '#' then c.pass (!isBreak ·) else c

def endOfLine? (c : Cursor) : Option Cursor :=
  let c := (c.pass isBlank).comment
  if c.rest.isEmpty || c.rest.head?.any isBreak then some c.lineBreak.2 else none

def hasMarker (mark : Char) (c : Cursor) : Bool :=
  c.column == 0 && [mark, mark, mark].isPrefixOf c.rest && endsWord (c.rest.drop 3)

def atMarker (c : Cursor) : Bool := c.hasMarker '-' || c.hasMarker '.'

end Cursor

structure Gap where
  blanks : List Char := []
  broken : Bool := false
  first : List Char := []
  others : List Char := []

namespace Gap

def text (g : Gap) : List Char :=
  if g.broken then
    if g.first == ['\n'] then if g.others.isEmpty then [' '] else g.others.reverse
    else g.first ++ g.others.reverse
  else g.blanks.reverse

def read? (margin : Nat) (g : Gap) : (fuel : Nat) → Cursor → Option (Gap × Cursor)
  | 0, _ => none
  | fuel + 1, c =>
    match c.rest with
    | [] => some (g, c)
    | b :: _ =>
      if isBlank b then
        if g.broken && c.column < margin && b == '\t' then none
        else if g.broken then read? margin g fuel (c.advance 1)
        else read? margin { g with blanks := b :: g.blanks } fuel (c.advance 1)
      else if isBreak b then
        let (text, c) := c.lineBreak
        if g.broken then read? margin { g with others := text ++ g.others } fuel c
        else read? margin { g with broken := true, first := text } fuel c
      else some (g, c)

end Gap

end ConceptSpace.Yaml

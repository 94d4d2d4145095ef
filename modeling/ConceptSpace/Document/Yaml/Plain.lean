import ConceptSpace.Document.Yaml.Cursor

/-! Plain YAML scalars, which stand without quotes and may take several lines.
What is read so far is held last character first. -/
namespace ConceptSpace.Yaml

def plainWord? (inFlow : Bool) (done : List Char) (n : Nat) : List Char → Option (List Char × Nat)
  | [] => some (done, n)
  | c :: rest =>
    if isBlank c || isBreak c then some (done, n)
    else if c == ':' && inFlow && rest.head?.any (fun d => isFlowMark d || d == '?') then none
    else if c == ':' && endsWord rest then some (done, n)
    else if inFlow && isFlowMark c then some (done, n)
    else plainWord? inFlow (c :: done) (n + 1) rest

def plain? (inFlow : Bool) (margin : Nat) (done : List Char) (gap : Gap) :
    (fuel : Nat) → Cursor → Option (List Char × Bool × Cursor)
  | 0, _ => none
  | fuel + 1, c =>
    if c.atMarker || c.rest.head? == some '#' then some (done, gap.broken, c)
    else do
      let (text, n) ← plainWord? inFlow (gap.text.reverse ++ done) 0 c.rest
      if n == 0 then return (done, gap.broken, c)
      let c := c.advance n
      if c.rest.isEmpty || !endsWord c.rest then return (text, false, c)
      let (gap, c) ← Gap.read? margin {} fuel c
      if !inFlow && c.column < margin then return (text, gap.broken, c)
      plain? inFlow margin text gap fuel c

end ConceptSpace.Yaml

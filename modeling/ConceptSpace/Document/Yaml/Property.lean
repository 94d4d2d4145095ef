import ConceptSpace.Decimal.Reading
import ConceptSpace.Document.Yaml.Cursor
import ConceptSpace.Document.Yaml.Token
import ConceptSpace.Text.Hex
import ConceptSpace.Text.Utf8

/-! What YAML texts say about a node before the node itself: its name and its tag; and the directives
that precede a document. -/
namespace ConceptSpace.Yaml

def endsName (c : Char) : Bool :=
  c == '?' || c == ':' || c == ',' || c == ']' || c == '\x7d' || c == '%' || c == '@' || c.toNat == 96

def anchorName? (c : Cursor) : Option (String × Cursor) :=
  let name := c.rest.takeWhile isNameChar
  let next := c.advance name.length
  if !name.isEmpty && (endsWord next.rest || next.rest.head?.any endsName) then
    some (String.ofList name, next)
  else none

def isTagChar (withMarks : Bool) (c : Char) : Bool :=
  isNameChar c || c == ';' || c == '/' || c == '?' || c == ':' || c == '@' || c == '&' || c == '='
    || c == '+' || c == '$' || c == '.' || c == '!' || c == '~' || c == '*' || c == '\'' || c == '('
    || c == ')' || withMarks && (c == ',' || c == '[' || c == ']')

def escapedOctets? : (count : Nat) → List Char → Option (List UInt8 × List Char)
  | 0, rest => some ([], rest)
  | count + 1, '%' :: rest => do
    let (octet, rest) ← Text.hexNumber? 2 rest
    let (octets, rest) ← escapedOctets? count rest
    some (octet.toUInt8 :: octets, rest)
  | _ + 1, _ => none

def tagRun? (withMarks : Bool) (done : List Char) (n : Nat) :
    (fuel : Nat) → List Char → Option (List Char × Nat)
  | 0, _ => none
  | _ + 1, [] => some (done, n)
  | fuel + 1, c :: rest =>
    if c == '%' then do
      let (first, _) ← Text.hexNumber? 2 rest
      let count := (← Text.continuation? first).length + 1
      let (octets, rest) ← escapedOctets? count (c :: rest)
      let text ← String.fromUTF8? ⟨octets.toArray⟩
      tagRun? withMarks (text.toList ++ done) (n + 3 * count) fuel rest
    else if isTagChar withMarks c then tagRun? withMarks (c :: done) (n + 1) fuel rest
    else some (done, n)

def tagText? (withMarks : Bool) (fuel : Nat) (c : Cursor) : Option (String × Cursor) := do
  let (text, n) ← tagRun? withMarks [] 0 fuel c.rest
  some (String.ofList text.reverse, c.advance n)

def handleChars (c : Cursor) : List Char :=
  let name := (c.rest.drop 1).takeWhile isNameChar
  '!' :: name ++ if (c.rest.drop (1 + name.length)).head? == some '!' then ['!'] else []

def isHandle (text : List Char) : Bool := 1 < text.length && text.getLast? == some '!'

def tagParts? (fuel : Nat) (c : Cursor) : Option (String × String × Cursor) := do
  if (c.rest.drop 1).head? == some '<' then
    let (suffix, c) ← tagText? true fuel (c.advance 2)
    if suffix.isEmpty || c.rest.head? != some '>' then none else some ("", suffix, c.advance 1)
  else
    let handle := handleChars c
    let (suffix, c) ← tagText? false fuel (c.advance handle.length)
    if isHandle handle then
      if suffix.isEmpty then none else some (String.ofList handle, suffix, c)
    else
      let suffix := String.ofList (handle.drop 1) ++ suffix
      some (if suffix.isEmpty then ("", "!", c) else ("!", suffix, c))

def tag? (inFlow : Bool) (fuel : Nat) (c : Cursor) : Option (Token × Cursor) := do
  let (handle, suffix, c) ← tagParts? fuel c
  if endsWord c.rest || inFlow && c.rest.head? == some ',' then some (.tag handle suffix, c) else none

def versionNumber? (c : Cursor) : Option (Nat × Cursor) :=
  let digits := c.rest.takeWhile Decimal.isDigit
  if digits.isEmpty || 9 < digits.length then none
  else some (Decimal.valueOf digits, c.advance digits.length)

def versionDirective? (c : Cursor) : Option (Token × Cursor) := do
  let (major, c) ← versionNumber? c
  if c.rest.head? != some '.' then none
  else
    let (minor, c) ← versionNumber? (c.advance 1)
    some (.version major minor, c)

def handleDirective? (fuel : Nat) (c : Cursor) : Option (Token × Cursor) := do
  let handle := handleChars c
  let next := c.advance handle.length
  if c.rest.head? != some '!' || handle.getLast? != some '!' || !next.rest.head?.any isBlank then none
  else
    let (meaning, c) ← tagText? true fuel (next.pass isBlank)
    if meaning.isEmpty || !endsWord c.rest then none
    else some (.handle (String.ofList handle) meaning, c)

def directive? (fuel : Nat) (c : Cursor) : Option (Token × Cursor) := do
  let name := (c.rest.drop 1).takeWhile isNameChar
  let c := c.advance (1 + name.length)
  if !endsWord c.rest then none
  else
    let c := c.pass isBlank
    let (token, c) ← match String.ofList name with
      | "YAML" => versionDirective? c
      | "TAG" => handleDirective? fuel c
      | _ => none
    some (token, ← c.endOfLine?)

end ConceptSpace.Yaml

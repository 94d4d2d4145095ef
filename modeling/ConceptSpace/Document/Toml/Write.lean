import ConceptSpace.Decimal.Reading
import ConceptSpace.Decimal.Shortest
import ConceptSpace.Document.Basic

/-! Writing records of scalars, texts and lists as TOML.
A text is literal if it holds a quote or a backslash and nothing that needs an escape; one with a line
break takes several lines. A list of two or more items has one item a line. Null fields are left out. -/
namespace ConceptSpace.Toml

def hasThreeQuotes : List Char → Bool
  | '\'' :: '\'' :: '\'' :: _ => true
  | _ :: rest => hasThreeQuotes rest
  | [] => false

def isLiteral (text : List Char) : Bool :=
  (text.all fun c => c == '\t' || c == '\n' || (32 ≤ c.toNat && c.toNat != 127))
    && !hasThreeQuotes text && text.getLast? != some '\''

def hexPair (n : Nat) : List Char := [Nat.digitChar (n / 16), Nat.digitChar (n % 16)].map Char.toUpper

def escapedChar (keepsBreaks : Bool) (c : Char) : List Char :=
  if c == '"' then ['\\', '"']
  else if c == '\\' then ['\\', '\\']
  else if c == '\n' then if keepsBreaks then ['\n'] else ['\\', 'n']
  else if c == '\t' then ['\\', 't']
  else if c == '\r' then ['\\', 'r']
  else if c.toNat == 8 then ['\\', 'b']
  else if c.toNat == 12 then ['\\', 'f']
  else if c.toNat < 32 || c.toNat == 127 then ['\\', 'u', '0', '0'] ++ hexPair c.toNat
  else [c]

def writtenText (text : String) : String :=
  let chars := text.toList
  let breaks := chars.contains '\n'
  let inside := String.ofList (chars.flatMap (escapedChar breaks))
  if isLiteral chars && (chars.contains '"' || chars.contains '\\') then
    if breaks then "'''\n" ++ text ++ "'''"
    else if chars.contains '\'' then "'''" ++ text ++ "'''"
    else "'" ++ text ++ "'"
  else if breaks then "\"\"\"\n" ++ inside ++ "\"\"\""
  else "\"" ++ inside ++ "\""

def writtenFloat (x : Float) : String :=
  if x.isNaN then "nan" else Decimal.shortest .always x

def writtenScalar? : Scalar → Option String
  | .null => none
  | .bool b => some (if b then "true" else "false")
  | .int n => if Decimal.fits64 n then some (toString n) else none
  | .real x => some (writtenFloat x)

def writtenItem? : Document → Option String
  | .scalar value => writtenScalar? value
  | .text value => some (writtenText value)
  | _ => none

def written? : Document → Option String
  | .list items => do
    match ← items.mapM writtenItem? with
    | [] => some "[]"
    | [item] => some ("[" ++ item ++ "]")
    | items => some ("[\n" ++ String.join (items.map fun item => "    " ++ item ++ ",\n") ++ "]")
  | d => writtenItem? d

def writtenLine? (field : String × Document) : Option String :=
  match field.2 with
  | .scalar .null => some ""
  | d => (written? d).map fun value => field.1 ++ " = " ++ value ++ "\n"

def write? (fields : List (String × Document)) : Option String := (fields.mapM writtenLine?).map String.join

end ConceptSpace.Toml

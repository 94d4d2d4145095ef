import ConceptSpace.Document.Basic
import ConceptSpace.Decimal.Shortest

/-! Writing documents as JSON, compact or indented. A number that is not finite is written as null. -/
namespace ConceptSpace.Json

def numberLayout : Decimal.Layout := ⟨-5, 15, true⟩

def escapedChar (c : Char) : List Char :=
  if c == '"' then ['\\', '"']
  else if c == '\\' then ['\\', '\\']
  else if c == '\n' then ['\\', 'n']
  else if c == '\r' then ['\\', 'r']
  else if c == '\t' then ['\\', 't']
  else if c.toNat == 8 then ['\\', 'b']
  else if c.toNat == 12 then ['\\', 'f']
  else if c.toNat < 32 then ['\\', 'u'] ++ (Decimal.padded 2 0).toList ++
    [Nat.digitChar (c.toNat / 16), Nat.digitChar (c.toNat % 16)]
  else [c]

def string (text : String) : String :=
  String.ofList ('"' :: text.toList.flatMap escapedChar ++ ['"'])

def scalar : Scalar → String
  | .null => "null"
  | .bool value => if value then "true" else "false"
  | .int value => toString value
  | .real value => if value.isFinite then Decimal.shortest numberLayout value else "null"

mutual

def compact : Document → String
  | .scalar value => scalar value
  | .text value => string value
  | .list items => "[" ++ compactItems items ++ "]"
  | .record fields => "\x7b" ++ compactFields fields ++ "\x7d"

def compactItems : List Document → String
  | [] => ""
  | [item] => compact item
  | item :: rest => compact item ++ "," ++ compactItems rest

def compactFields : List (String × Document) → String
  | [] => ""
  | [(key, value)] => string key ++ ":" ++ compact value
  | (key, value) :: rest => string key ++ ":" ++ compact value ++ "," ++ compactFields rest

end

def indent (level : Nat) : String := "\n" ++ String.ofList (List.replicate (2 * level) ' ')

mutual

def indented (level : Nat) : Document → String
  | .scalar value => scalar value
  | .text value => string value
  | .list [] => "[]"
  | .list items => "[" ++ indentedItems (level + 1) items ++ indent level ++ "]"
  | .record [] => "\x7b\x7d"
  | .record fields => "\x7b" ++ indentedFields (level + 1) fields ++ indent level ++ "\x7d"

def indentedItems (level : Nat) : List Document → String
  | [] => ""
  | [item] => indent level ++ indented level item
  | item :: rest => indent level ++ indented level item ++ "," ++ indentedItems level rest

def indentedFields (level : Nat) : List (String × Document) → String
  | [] => ""
  | [(key, value)] => indent level ++ string key ++ ": " ++ indented level value
  | (key, value) :: rest =>
    indent level ++ string key ++ ": " ++ indented level value ++ "," ++ indentedFields level rest

end

end ConceptSpace.Json

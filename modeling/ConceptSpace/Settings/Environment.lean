import ConceptSpace.Document.Toml.Read
import ConceptSpace.Settings.Decode

/-! Settings from a TOML file and from the environment, whose variables override the file.
The variable of a setting has its name in any case behind `MEANING__`; two more underscores lead into
a table. -/
namespace ConceptSpace

abbrev Environment := List (String × String)

def Environment.get? (e : Environment) (name : String) : Option String :=
  (e.find? (·.1 == name)).map (·.2)

namespace Settings

def pathVariable : String := "MEANING_CONFIG"

def usualPath : String := "config/meaning.toml"

def variableStart : List Char := ['m', 'e', 'a', 'n', 'i', 'n', 'g', '_', '_']

inductive Step where
  | field (name : String)
  | item (index : Int)
  deriving DecidableEq, Repr

def isPathChar (c : Char) : Bool :=
  Decimal.isDigit c || ('a' ≤ c && c ≤ 'z') || ('A' ≤ c && c ≤ 'Z') || c == '_' || c == '-' || c == ' '

def index? (text : List Char) : Option Int := do
  let digits := Text.trim (String.ofList text)
  let n ← if digits.toList.head? == some '+' then none else Decimal.integer? digits
  if Decimal.fits64 n then some n else none

def keySteps? : (fuel : Nat) → List Char → Option (List Step)
  | 0, _ => none
  | _ + 1, [] => some []
  | fuel + 1, '.' :: rest =>
    let name := rest.takeWhile isPathChar
    if name.isEmpty then none
    else (keySteps? fuel (rest.dropWhile isPathChar)).map (.field (String.ofList name) :: ·)
  | fuel + 1, '[' :: rest => do
    let index ← index? (rest.takeWhile (· != ']'))
    match rest.dropWhile (· != ']') with
    | _ :: rest => (keySteps? fuel rest).map (.item index :: ·)
    | [] => none
  | _ + 1, _ => none

def keyPath (key : List Char) : List Step :=
  (keySteps? (key.length + 2) ('.' :: key)).getD [.field (String.ofList key)]

def withPoints : List Char → List Char
  | '_' :: '_' :: rest => '.' :: withPoints rest
  | c :: rest => c :: withPoints rest
  | [] => []

def variableKey? (name : String) : Option (List Char) :=
  let lower := Text.lowerChars name.toList
  if variableStart.isPrefixOf lower then some (withPoints (lower.drop variableStart.length)) else none

def isListKey (key : List Char) : Bool := ["dimension_paths", "ethics_terms"].contains (String.ofList key)

def variableValue (key : List Char) (value : String) : Document :=
  let word := Text.lowerCase value
  if word == "true" then .bool true
  else if word == "false" then .bool false
  else
    match (Decimal.integer? value).filter Decimal.fits64 with
    | some n => .int n
    | none =>
      match Decimal.float? value with
      | some x => .real x
      | none =>
        if isListKey key then .list ((Text.splitAt ',' value).map .text) else .text value

def putItem (index : Int) (change : Document → Document) (items : List Document) : List Document :=
  let place := if index < 0 then index + items.length else index
  if place < 0 then items
  else
    let n := place.toNat
    let padded := items ++ List.replicate (n + 1 - items.length) .null
    padded.modify n change

def put (value : Document) : List Step → Document → Document
  | [], _ => value
  | .field name :: rest, d =>
    let fields := match d with
      | .record fields => fields
      | _ => []
    let inner := put value rest ((Document.lookup? name fields).getD .null)
    .record (fields.filter (·.1 != name) ++ [(name, inner)])
  | .item index :: rest, d =>
    .list (putItem index (put value rest) (match d with
      | .list items => items
      | _ => []))

def fileDocument (d : Document) : Document :=
  match d with
  | .record fields =>
    fields.foldl (fun settings f => put f.2 (keyPath (Text.lowerChars f.1.toList)) settings) (.record [])
  | _ => .record []

def override (environment : Environment) (d : Document) : Document :=
  environment.foldl (fun d (name, value) =>
    match variableKey? name with
    | some key => put (variableValue key value) (keyPath key) d
    | none => d) d

def fileText (files : FileTree) (path : String) : Except Fault (Option String) :=
  match files.lookup path with
  | .error _ => .ok none
  | .ok entry =>
    let place := match entry with
      | .directory => path ++ ".toml"
      | .file _ => path
    match files.readText place with
    | .ok text => .ok (some text)
    | .error _ => .error .settings

def load (files : FileTree) (environment : Environment) (path : String) : Except Fault Settings := do
  let document ← match ← fileText files path with
    | none => pure (.record [])
    | some text =>
      match Toml.read? text with
      | some d => pure (fileDocument d)
      | none => throw .settings
  match decode? .lenient (override environment document) with
  | some settings => return settings
  | none => throw .settings

def configuredPath (environment : Environment) : String :=
  (environment.get? pathVariable).getD usualPath

end Settings

end ConceptSpace

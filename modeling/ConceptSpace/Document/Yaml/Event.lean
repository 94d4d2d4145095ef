import ConceptSpace.Document.Yaml.Token

/-! Events: the nodes of a YAML document in the order in which they start and end.
The tokens of a document are read with a stack of what is expected next. A node that is left out is an
empty scalar. -/
namespace ConceptSpace.Yaml

structure Properties where
  anchor : Option String := none
  tag : Option String := none
  deriving DecidableEq, Repr

inductive Event where
  | reference (name : String)
  | scalar (properties : Properties) (style : Style) (text : String)
  | listStart (properties : Properties)
  | recordStart (properties : Properties)
  | close
  deriving DecidableEq, Repr

def Event.empty : Event := .scalar {} .plain ""

inductive Surroundings where
  | list
  | field
  | flow
  deriving DecidableEq, Repr

inductive Expected where
  | node (place : Surroundings)
  | item
  | looseItem
  | key
  | value
  | flowItem (first : Bool)
  | pairKey
  | pairValue
  | pairEnd
  | flowKey (first : Bool)
  | flowValue
  | noValue
  deriving DecidableEq, Repr

abbrev Handles := List (String × String)

def standardHandles : Handles := [("!", "!"), ("!!", coreTag "")]

def Handles.resolve? (handles : Handles) (handle suffix : String) : Option String :=
  if handle.isEmpty then some suffix
  else (handles.find? (·.1 == handle)).map fun entry => entry.2 ++ suffix

def properties? (handles : Handles) : List Token → Option (Properties × List Token)
  | .anchor name :: .tag handle suffix :: rest => do
    some (⟨some name, some (← handles.resolve? handle suffix)⟩, rest)
  | .tag handle suffix :: .anchor name :: rest => do
    some (⟨some name, some (← handles.resolve? handle suffix)⟩, rest)
  | .anchor name :: rest => some ({ anchor := some name }, rest)
  | .tag handle suffix :: rest => do some ({ tag := some (← handles.resolve? handle suffix) }, rest)
  | rest => some ({}, rest)

structure Reader where
  expected : List Expected
  tokens : List Token
  events : List Event := []

namespace Reader

def node? (handles : Handles) (place : Surroundings) (r : Reader) : Option Reader := do
  match r.tokens with
  | .reference name :: rest => some { r with tokens := rest, events := .reference name :: r.events }
  | tokens =>
    let (p, left) ← properties? handles tokens
    let start (event : Event) (next : Expected) (tokens : List Token) : Reader :=
      ⟨next :: r.expected, tokens, event :: r.events⟩
    match left with
    | .scalar style text :: rest =>
      some { r with tokens := rest, events := .scalar p style text :: r.events }
    | .flowListStart :: rest => some (start (.listStart p) (.flowItem true) rest)
    | .flowRecordStart :: rest => some (start (.recordStart p) (.flowKey true) rest)
    | token :: rest =>
      if token == .item && place == .field then some (start (.listStart p) .looseItem left)
      else if token == .listStart && place != .flow then some (start (.listStart p) .item rest)
      else if token == .recordStart && place != .flow then some (start (.recordStart p) .key rest)
      else if p == {} then none
      else some { r with tokens := left, events := .scalar p .plain "" :: r.events }
    | [] => if p == {} then none else some ⟨r.expected, [], .scalar p .plain "" :: r.events⟩

def nodeBefore (stops : List Token) (place : Surroundings) (next : Expected) (r : Reader) : Reader :=
  if r.tokens.head?.any stops.contains then
    { r with expected := next :: r.expected, events := .empty :: r.events }
  else { r with expected := .node place :: next :: r.expected }

def close (r : Reader) (rest : List Token) : Reader :=
  { r with tokens := rest, events := .close :: r.events }

def comma? (first : Bool) (stop : Token) (r : Reader) : Option Reader :=
  if first || r.tokens.head? == some stop then some r
  else
    match r.tokens with
    | .comma :: rest => some { r with tokens := rest }
    | _ => none

def step? (handles : Handles) (expected : Expected) (r : Reader) : Option Reader :=
  match expected with
  | .node place => r.node? handles place
  | .item =>
    match r.tokens with
    | .item :: rest => some ({ r with tokens := rest }.nodeBefore [.item, .blockEnd] .list .item)
    | .blockEnd :: rest => some (r.close rest)
    | _ => none
  | .looseItem =>
    match r.tokens with
    | .item :: rest =>
      some ({ r with tokens := rest }.nodeBefore [.item, .key, .value, .blockEnd] .list .looseItem)
    | tokens => some (r.close tokens)
  | .key =>
    match r.tokens with
    | .key :: rest =>
      some ({ r with tokens := rest }.nodeBefore [.key, .value, .blockEnd] .field .value)
    | .blockEnd :: rest => some (r.close rest)
    | _ => none
  | .value =>
    match r.tokens with
    | .value :: rest =>
      some ({ r with tokens := rest }.nodeBefore [.key, .value, .blockEnd] .field .key)
    | _ => some { r with expected := .key :: r.expected, events := .empty :: r.events }
  | .flowItem first => do
    let r ← r.comma? first .flowListEnd
    match r.tokens with
    | .flowListEnd :: rest => some (r.close rest)
    | .key :: rest => some ⟨.pairKey :: .flowItem false :: r.expected, rest, .recordStart {} :: r.events⟩
    | _ => some { r with expected := .node .flow :: .flowItem false :: r.expected }
  | .pairKey =>
    let stops := [.value, .comma, .flowListEnd]
    if r.tokens.head?.any stops.contains then
      some ⟨.pairValue :: r.expected, r.tokens.tail, .empty :: r.events⟩
    else some { r with expected := .node .flow :: .pairValue :: r.expected }
  | .pairValue =>
    match r.tokens with
    | .value :: rest =>
      some ({ r with tokens := rest }.nodeBefore [.comma, .flowListEnd] .flow .pairEnd)
    | _ => some { r with expected := .pairEnd :: r.expected, events := .empty :: r.events }
  | .pairEnd => some (r.close r.tokens)
  | .flowKey first => do
    let r ← r.comma? first .flowRecordEnd
    match r.tokens with
    | .flowRecordEnd :: rest => some (r.close rest)
    | .key :: rest =>
      some ({ r with tokens := rest }.nodeBefore [.value, .comma, .flowRecordEnd] .flow .flowValue)
    | _ => some { r with expected := .node .flow :: .noValue :: r.expected }
  | .flowValue =>
    match r.tokens with
    | .value :: rest =>
      some ({ r with tokens := rest }.nodeBefore [.comma, .flowRecordEnd] .flow (.flowKey false))
    | _ => some { r with expected := .flowKey false :: r.expected, events := .empty :: r.events }
  | .noValue => some { r with expected := .flowKey false :: r.expected, events := .empty :: r.events }

def run? (handles : Handles) : (fuel : Nat) → Reader → Option Reader
  | 0, _ => none
  | fuel + 1, r =>
    match r.expected with
    | [] => some r
    | expected :: outer => do run? handles fuel (← { r with expected := outer }.step? handles expected)

end Reader

structure Directives where
  hasVersion : Bool := false
  handles : Handles := []

def Directives.read? (d : Directives) : List Token → Option (Directives × List Token)
  | .version major minor :: rest =>
    if d.hasVersion || major != 1 || minor != 1 && minor != 2 then none
    else Directives.read? { d with hasVersion := true } rest
  | .handle name meaning :: rest =>
    if d.handles.any (·.1 == name) then none
    else Directives.read? { d with handles := d.handles ++ [(name, meaning)] } rest
  | .documentStart :: rest => some (d, rest)
  | _ => none

def Token.isOutside : Token → Bool
  | .version _ _ | .handle _ _ | .documentStart | .documentEnd => true
  | _ => false

/-- The events of the only document. What has no tokens is one empty scalar. Every token is passed over
once at most, and at most three steps come between two tokens. -/
def events? (tokens : List Token) : Option (List Event) := do
  let explicit := tokens.head?.any fun t => t.isOutside && t != .documentEnd
  let (directives, content) ← if explicit then Directives.read? {} tokens else some ({}, tokens)
  let isEmpty := content.isEmpty || explicit && content.head?.any Token.isOutside
  let expected : List Expected := if isEmpty then [] else [.node .list]
  let events := if isEmpty then [Event.empty] else []
  let r ← Reader.run? (directives.handles ++ standardHandles) (4 * content.length + 8)
    ⟨expected, content, events⟩
  if r.tokens.all (· == .documentEnd) then some r.events.reverse else none

end ConceptSpace.Yaml

import ConceptSpace.Chat.Exchange
import ConceptSpace.Document.Decode
import ConceptSpace.Document.Json
import ConceptSpace.Document.JsonText
import ConceptSpace.Narrator

/-! The narrator that asks a chat service to put a match into words. -/
namespace ConceptSpace

structure ChatNarrator where
  apiKey : String
  model : String
  base : String
  deriving DecidableEq, Repr

namespace ChatNarrator

def defaultModel : String := "meta-llama/llama-3.3-70b-instruct"

def title : String := "meaning-engine"

def instructions : String :=
  "You explain why two image meaning vectors match. Use only the facts in the hint; do not invent "
    ++ "features. Answer in two or three plain sentences."

def ofKey (key : String) (base : String) (model : String := defaultModel) : ChatNarrator :=
  ⟨Text.trim key, model, String.ofList (base.toList.reverse.dropWhile (· == '/')).reverse⟩

def ofKey? (key : Option String) (base : String) (model : String := defaultModel) :
    Option ChatNarrator :=
  (nonblank key).map fun key => ofKey key base model

def promptLayout : Decimal.Layout := ⟨-4, 15, false⟩

def vectorText (vector : List Float) : String :=
  "[" ++ commaList (vector.map (Decimal.shortest promptLayout)) ++ "]"

def prompt (r : NarrationRequest) : String :=
  "Query vector: " ++ vectorText r.query ++ "\nMatched vector: " ++ vectorText r.matched
    ++ "\nSimilarity score: " ++ Decimal.fixed 3 r.score ++ "\nHint: " ++ r.hint

def message (role content : String) : Document :=
  .record [("role", .text role), ("content", .text content)]

def body (n : ChatNarrator) (r : NarrationRequest) : Document :=
  .record [
    ("model", .text n.model),
    ("messages", .list [message "system" instructions, message "user" (prompt r)]),
    ("temperature", .real 0.2),
    ("max_tokens", .int 400)]

def isHeaderChar (c : Char) : Bool := c == '\t' || (32 ≤ c.toNat && c.toNat != 127)

def request? (n : ChatNarrator) (r : NarrationRequest) : Option ChatRequest := do
  let target ← Address.target? (n.base ++ "/chat/completions")
  if n.apiKey.toList.all isHeaderChar then
    some ⟨target, Text.trimEnd ("Bearer " ++ n.apiKey), title, Json.compact (n.body r)⟩
  else none

open Document in
def choice? (d : Document) : Option String := do
  let message (d : Document) : Option String := do
    match ← d.fieldsOf? [["content"]] with
    | [content] => required asText? content
    | _ => none
  match ← d.fieldsOf? [["message"]] with
  | [found] => required message found
  | _ => none

open Document in
def choices? (d : Document) : Option (List String) := do
  match ← d.fieldsOf? [["choices"]] with
  | [choices] => required (asList? choice?) choices
  | _ => none

def reply (r : ChatResponse) : Except Fault String :=
  if !r.isSuccess then
    .error (.narrator ("API error " ++ r.statusText ++ ": " ++ r.content))
  else
    match (Json.read? r.content).bind choices? with
    | none => .error (.narrator "response parse failed: error decoding response body")
    | some choices =>
      match nonblank choices.head? with
      | some text => .ok (Text.trim text)
      | none => .error (.narrator "empty completion")

def narrate (n : ChatNarrator) (service : ChatService) (r : NarrationRequest) : Except Fault String :=
  match n.request? r with
  | none => .error (.narrator "request failed: builder error")
  | some request =>
    match service request with
    | .ok response => reply response
    | .error cause => .error (.narrator ("request failed: " ++ cause))

def narrator (n : ChatNarrator) (service : ChatService) : Narrator := ⟨"openrouter", n.narrate service⟩

end ChatNarrator

end ConceptSpace

import ConceptSpace.ConceptGraph
import ConceptSpace.Definition.Source
import ConceptSpace.FeatureVector
import ConceptSpace.Library
import ConceptSpace.Rulebase
import ConceptSpace.Decimal.Shortest
import ConceptSpace.Document.JsonText
import ConceptSpace.Text.Quoted

/-! What the definition files hold: dimensions, rules, the concept graph, the library, the mission
profile and extractor outputs. -/
namespace ConceptSpace.Definition

open Document

variable {ν : Type} (r : Reading ν)

def dimension? (node : ν) : Option DimensionDef := do
  match ← r.fields? [["id"], ["name"], ["layer"], ["logical_rule"], ["weight"]] node with
  | [id, name, layer, rule, weight] =>
    some {
      id := ← required r.text? id
      name := ← withDefault none (r.optional r.text?) name
      layer := ← withDefault none (r.optional r.text?) layer
      rule := ← withDefault none (r.optional r.text?) rule
      weight := ← withDefault 1 r.float? weight }
  | _ => none

def dimensionsIn? (node : ν) : Option (List DimensionDef) := do
  match r.items? node with
  | some items => items.mapM (dimension? r)
  | none =>
    match ← r.fields? [["dimensions"]] node with
    | [dimensions] => required (r.list? (dimension? r)) dimensions
    | _ => none

def dimensions? : Source → Option (List DimensionDef) := Source.strictly? dimensionsIn?

inductive Trigger where
  | one (concept : String)
  | all (concepts : List String)
  deriving DecidableEq, Repr

def Trigger.concepts : Trigger → List String
  | .one concept => [concept]
  | .all concepts => concepts

def trigger? : Document → Option Trigger
  | .text concept => some (.one concept)
  | .list items => (items.mapM asText?).map .all
  | _ => none

def describe : Document → String
  | .scalar .null => "null"
  | .scalar (.bool b) => "boolean `" ++ (if b then "true" else "false") ++ "`"
  | .scalar (.int n) => "integer `" ++ toString n ++ "`"
  | .scalar (.real x) => "floating point `" ++ Decimal.shortest Json.numberLayout x ++ "`"
  | .text s => "string " ++ Text.quoted s
  | .list _ => "sequence"
  | .record _ => "map"

def ruleTrigger (d : Document) : Except RecordFault Trigger :=
  match trigger? d with
  | some trigger => .ok trigger
  | none => .error .triggerShape

def ruleConclusion (d : Document) : Except RecordFault String :=
  match d.asText? with
  | some conclusion => .ok conclusion
  | none => .error (.notAText (describe d))

def ruleConfidence : Document → Except RecordFault (Option Float)
  | .scalar .null => .ok none
  | d =>
    match d.asFloat? with
    | some x => .ok (some x)
    | none => .error (.notANumber (describe d))

/-- One record of a rule file. In a record the fields are checked in the order of their names, and
what is missing is named last; in a list they are checked from the front. -/
def rule (d : Document) : Except RecordFault Rule :=
  match d with
  | .record fields => do
    let conclusion ← (lookup? "conclusion" fields).mapM ruleConclusion
    let confidence ← (lookup? "confidence" fields).mapM ruleConfidence
    let trigger ← (lookup? "trigger" fields).mapM ruleTrigger
    match trigger, conclusion with
    | none, _ => .error .missingTrigger
    | _, none => .error .missingConclusion
    | some trigger, some conclusion => .ok ⟨trigger.concepts, conclusion, confidence.getD none⟩
  | .list [] => .error (.tooFewFields 0)
  | .list [trigger] => do
    let _ ← ruleTrigger trigger
    .error (.tooFewFields 1)
  | .list (trigger :: conclusion :: rest) => do
    let trigger ← ruleTrigger trigger
    let conclusion ← ruleConclusion conclusion
    let confidence ← rest.head?.mapM ruleConfidence
    if 1 < rest.length then .error (.tooManyFields (rest.length + 2))
    else .ok ⟨trigger.concepts, conclusion, confidence.getD none⟩
  | other => .error (.notARule (describe other))

def rulebaseIn? (node : ν) : Option Rulebase := do
  some (.ofEntries ((← r.list? (r.document? 1) node).map rule))

def rulebase? : Source → Option Rulebase := Source.decode? rulebaseIn?

def concept? (node : ν) : Option Concept := do
  match ← r.fields? [["id"], ["attributes"]] node with
  | [id, attributes] =>
    some ⟨← required r.text? id, ← withDefault ∅ (r.map? (r.document? 4)) attributes⟩
  | _ => none

def edge? (node : ν) : Option ConceptEdge := do
  match ← r.fields? [["source"], ["target"], ["relationship", "label"]] node with
  | [source, target, relationship] =>
    some ⟨← required r.text? source, ← required r.text? target,
      ← withDefault isA r.text? relationship⟩
  | _ => none

def graphIn? (node : ν) : Option ConceptGraph := do
  match ← r.fields? [["nodes"], ["edges"]] node with
  | [nodes, edges] =>
    let nodes ← withDefault [] (r.list? (concept? r)) nodes
    let edges ← withDefault [] (r.list? (edge? r)) edges
    let graph := nodes.foldl (fun (g : ConceptGraph) n => g.addNode n.id n.attributes) .empty
    some (edges.foldl (fun g e => g.addEdge e.source e.target e.relationship) graph)
  | _ => none

def graph? : Source → Option ConceptGraph := Source.decode? graphIn?

def libraryItem? (node : ν) : Option LibraryEntry := do
  match ← r.fields? [["id"], ["meaning_vector"], ["layer"]] node with
  | [id, vector, layer] =>
    some ⟨← required r.text? id, ← required (r.list? r.float?) vector,
      ← withDefault none (r.optional r.text?) layer⟩
  | _ => none

def libraryIn? (node : ν) : Option Library := r.list? (libraryItem? r) node

def library? : Source → Option Library := Source.decode? libraryIn?

def missionIn? (node : ν) : Option MissionProfile := do
  match ← r.fields? [["confidential_keywords"]] node with
  | [keywords] => some ⟨← withDefault [] (r.list? r.text?) keywords⟩
  | _ => none

def mission? : Source → Option MissionProfile := Source.decode? missionIn?

def output? (node : ν) : Option ExtractorOutput := do
  match ← r.fields? [["engine"], ["features"]] node with
  | [engine, features] =>
    some ⟨← required r.text? engine, ← required (r.map? r.float?) features⟩
  | _ => none

def outputsIn? (node : ν) : Option (List ExtractorOutput) := r.list? (output? r) node

def outputs? : Source → Option (List ExtractorOutput) := Source.decode? outputsIn?

end ConceptSpace.Definition

import ConceptSpace.Decimal.Reading
import ConceptSpace.Decimal.Shortest
import ConceptSpace.Document.Decode
import ConceptSpace.Settings.Basic
import ConceptSpace.Text.LowerCase

/-! Settings as documents.
Every setting has a default. Scalars are decoded exactly, or converted: from a text that looks like
the value, between numbers and truth values, and without regard to the case of a name. -/
namespace ConceptSpace

structure Conversions where
  text : Document → Option String
  float : Document → Option Float
  nat : Document → Option Nat
  bool : Document → Option Bool
  word : Document → Option String

namespace Conversions

def exact : Conversions :=
  ⟨Document.asText?, Document.asFloat?, Document.asNat?, Document.asBool?, Document.asWord? some⟩

def truth? (word : String) : Option Bool :=
  if ["true", "on", "yes"].contains word then some true
  else if ["false", "off", "no"].contains word then some false
  else none

def text? : Document → Option String
  | .text s => some s
  | .scalar (.bool b) => some (if b then "true" else "false")
  | .scalar (.int n) => some (toString n)
  | .scalar (.real x) => some (Decimal.plain x)
  | _ => none

def float? : Document → Option Float
  | .text s =>
    match truth? (Text.lowerCase s) with
    | some b => some (if b then 1 else 0)
    | none => Decimal.float? s
  | .scalar (.bool b) => some (if b then 1 else 0)
  | d => d.asFloat?

def nat? : Document → Option Nat
  | .text s =>
    match truth? (Text.lowerCase s) with
    | some b => some (if b then 1 else 0)
    | none => (Decimal.integer? s).bind fun n =>
      if s.toList.head? != some '-' && n < Nat.pow 2 64 then some n.toNat else none
  | .scalar (.bool b) => some (if b then 1 else 0)
  | .scalar (.real x) => some x.round.toUInt64.toNat
  | d => d.asNat?

def bool? : Document → Option Bool
  | .text s =>
    let word := Text.lowerCase s
    if word == "1" then some true else if word == "0" then some false else truth? word
  | .scalar (.int n) => some (n != 0)
  | .scalar (.real x) => some (x != 0)
  | d => d.asBool?

def word? : Document → Option String
  | .text s => some (Text.lowerCase s)
  | .record [(key, _)] => some (Text.lowerCase key)
  | _ => none

def lenient : Conversions := ⟨text?, float?, nat?, bool?, word?⟩

end Conversions

namespace Settings

def names : List String :=
  ["dimension_paths", "rulebase_path", "world_model_path", "library_path", "mission_profile_path",
    "activation_threshold", "max_reasoning_passes", "min_rule_confidence", "metric", "apply_weights",
    "parallel_threshold", "redaction_marker", "ethics_terms", "ethics_terms_path",
    "anomaly_z_threshold", "anomaly_min_samples", "novelty_threshold", "balance_dominance",
    "history_path", "history_window", "history_capacity", "narrator", "narrator_model"]

open Document in
def decode? (c : Conversions) (d : Document) : Option Settings := do
  let fields ← d.fieldsOf? (names.map ([·]))
  let field (name : String) : Option Document := (fields[names.idxOf name]?).join
  let path (name : String) := withDefault none (optional c.text) (field name)
  let standard : Settings := {}
  let texts (name : String) (default : List String) :=
    withDefault default (asList? c.text) (field name)
  let float (name : String) (default : Float) := withDefault default c.float (field name)
  let nat (name : String) (default : Nat) := withDefault default c.nat (field name)
  let word {α : Type} (name : String) (default : α) (named? : String → Option α) :=
    withDefault default (fun d => (c.word d).bind named?) (field name)
  some {
    paths := {
      dimensions := ← texts "dimension_paths" standard.paths.dimensions
      rulebase := ← path "rulebase_path"
      graph := ← path "world_model_path"
      library := ← path "library_path"
      mission := ← path "mission_profile_path" }
    reasoner := {
      threshold := ← float "activation_threshold" standard.reasoner.threshold
      maxPasses := ← nat "max_reasoning_passes" standard.reasoner.maxPasses
      minConfidence := ← float "min_rule_confidence" standard.reasoner.minConfidence }
    metric := ← word "metric" standard.metric Metric.named?
    appliesWeights := ← withDefault standard.appliesWeights c.bool (field "apply_weights")
    parallelThreshold := ← nat "parallel_threshold" standard.parallelThreshold
    pipeline := {
      marker := ← withDefault standard.pipeline.marker c.text (field "redaction_marker")
      ethicsTerms := ← texts "ethics_terms" standard.pipeline.ethicsTerms
      novelty := ← float "novelty_threshold" standard.pipeline.novelty
      dominance := ← float "balance_dominance" standard.pipeline.dominance
      anomalyThreshold := ← float "anomaly_z_threshold" standard.pipeline.anomalyThreshold
      anomalySamples := ← nat "anomaly_min_samples" standard.pipeline.anomalySamples }
    ethicsTermsPath := ← path "ethics_terms_path"
    historyPath := ← path "history_path"
    historyWindow := ← nat "history_window" standard.historyWindow
    historyCapacity := ← nat "history_capacity" standard.historyCapacity
    narrator := ← word "narrator" standard.narrator NarratorKind.named?
    narratorModel := ← path "narrator_model" }

def document (s : Settings) : Document :=
  let path (p : Option String) : Document := (p.map Document.text).getD .null
  let texts (ts : List String) : Document := .list (ts.map .text)
  let nat (n : Nat) : Document := .int n
  .record (names.zip [
    texts s.paths.dimensions, path s.paths.rulebase, path s.paths.graph, path s.paths.library,
    path s.paths.mission, .real s.reasoner.threshold, nat s.reasoner.maxPasses,
    .real s.reasoner.minConfidence, .text s.metric.name, .bool s.appliesWeights,
    nat s.parallelThreshold, .text s.pipeline.marker, texts s.pipeline.ethicsTerms,
    path s.ethicsTermsPath, .real s.pipeline.anomalyThreshold, nat s.pipeline.anomalySamples,
    .real s.pipeline.novelty, .real s.pipeline.dominance, path s.historyPath, nat s.historyWindow,
    nat s.historyCapacity, .text s.narrator.name, path s.narratorModel])

end Settings

end ConceptSpace

import ConceptSpace.Chat.Narrator
import ConceptSpace.Document.Toml.Write
import ConceptSpace.Engine
import ConceptSpace.Settings.DotEnv

/-! The command line: one analysis, or a look at the settings and the knowledge. -/
namespace ConceptSpace.CommandLine

structure Answer where
  exit : Nat := 0
  output : String := ""
  errors : String := ""
  deriving DecidableEq, Repr

def usage : String :=
  "meaning: semantic matching and symbolic reasoning\n"
    ++ "  analyze <features.json> [--metric m]   Analyze extractor outputs and print the report as JSON\n"
    ++ "  check                                  Load configuration and print registry/library statistics\n"
    ++ "\n"
    ++ "Config: $MEANING_CONFIG (default config/meaning.toml), overrides via MEANING__<KEY>.\n"

structure Arguments where
  command : Option String
  features : Option String := none
  metric : Option Metric := none
  deriving DecidableEq, Repr

def Arguments.add (a : Arguments) : List String → Except Fault Arguments
  | [] => .ok a
  | "--metric" :: name :: rest =>
    match Metric.ofName name with
    | .ok metric => Arguments.add { a with metric := some metric } rest
    | .error fault => .error fault
  | word :: rest =>
    if a.features.isNone && !Text.startsWith "--" word then
      Arguments.add { a with features := some word } rest
    else Arguments.add a rest

def Arguments.read (args : List String) : Except Fault Arguments :=
  Arguments.add { command := args.head? } args.tail

def kindName : FaultKind → String
  | .config => "Config"
  | .parse => "Parse"
  | .reasoningLimitExceeded => "ReasoningLimitExceeded"
  | .vectorShapeMismatch => "VectorShapeMismatch"
  | .emptyLibrary => "EmptyLibrary"
  | .narrator => "Narrator"
  | .handler => "Handler"
  | .history => "History"

def Answer.failed (a : Answer) (cause : String) : Answer :=
  { a with exit := 1, errors := a.errors ++ "Error: " ++ cause ++ "\n" }

def Answer.stopped (a : Answer) (fault : Fault) : Answer :=
  a.failed (kindName fault.kind ++ "(" ++ Text.quoted fault.detail ++ ")")

def keyVariable : String := "OPENROUTER_API_KEY"

def servicePath : String := "/api/v1"

def narratorFor (service : ChatService) (environment : Environment) (s : Settings) : Narrator :=
  match s.narrator with
  | .mechanical => .mechanical
  | .openrouter =>
    let model := s.narratorModel.getD ChatNarrator.defaultModel
    match ChatNarrator.ofKey? (environment.get? keyVariable) servicePath model with
    | some narrator => narrator.narrator service
    | none => .mechanical

def engine (service : ChatService) (files : FileTree) (environment : Environment) :
    Except Fault Engine := do
  let settings ← Settings.load files environment (Settings.configuredPath environment)
  Engine.ofSettings files (narratorFor service environment settings) settings

def analyze (e : Engine) (files : FileTree) (moment : Moment) (features : String)
    (metric : Option Metric) : Answer :=
  match Definition.contents Definition.outputs? files features with
  | .error fault => Answer.stopped {} fault
  | .ok outputs =>
    let report := (e.analyze moment ⟨outputs, metric⟩).2
    { output := Json.indented 0 report.document ++ "\n" }

def check (e : Engine) : Answer :=
  let fields := match e.settings.document with
    | .record fields => fields
    | _ => []
  let title := "# effective configuration\n"
  let k := e.knowledge
  match Toml.write? fields with
  | none => Answer.failed { output := title } "Error \x7b inner: OutOfRange(Some(\"u64\")) \x7d"
  | some settings =>
    { output := title ++ settings ++ "\n# knowledge\n"
        ++ "dimensions = " ++ toString k.registry.size ++ "\n"
        ++ "layers = " ++ Text.quotedList k.registry.layers ++ "\n"
        ++ "rules = " ++ toString k.rulebase.size ++ "\n"
        ++ "library_entries = " ++ toString k.library.length ++ "\n"
        ++ "mission_profile = " ++ (if k.mission.isSome then "true" else "false") ++ "\n"
        ++ "load_warnings = " ++ toString e.warnings.length ++ "\n"
        ++ String.join (e.warnings.map fun w => "  - " ++ w.message ++ "\n") }

def run (service : ChatService) (files : FileTree) (environment : Environment) (moment : Moment)
    (args : List String) : Answer :=
  let environment := DotEnv.load files environment
  match Arguments.read args with
  | .error fault => Answer.stopped {} fault
  | .ok a =>
    let withEngine (f : Engine → Answer) : Answer :=
      match engine service files environment with
      | .ok e => f e
      | .error fault => Answer.stopped {} fault
    match a.command, a.features with
    | some "analyze", some features => withEngine fun e => analyze e files moment features a.metric
    | some "analyze", none =>
      Answer.failed { errors := usage } (Text.quoted "analyze needs a features file")
    | some "check", _ => withEngine check
    | _, _ => { errors := usage }

def consulted (files : FileTree) (environment : Environment) (args : List String) : List String :=
  let environment := DotEnv.load files environment
  let path := Settings.configuredPath environment
  let chosen := match Settings.load files environment path with
    | .ok s =>
      s.paths.dimensions ++ [s.paths.rulebase, s.paths.graph, s.paths.library, s.paths.mission,
        s.ethicsTermsPath, s.historyPath].filterMap id
    | .error _ => []
  [DotEnv.path, path, path ++ ".toml"] ++ chosen ++ args.tail

end ConceptSpace.CommandLine

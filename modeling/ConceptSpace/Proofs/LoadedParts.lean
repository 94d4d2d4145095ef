import Mathlib.Data.List.Forall2
import ConceptSpace.Proofs.Session

/-! What loading makes of each definition file.
A file that cannot be used leaves its own part of the knowledge empty and is told of in the warnings; what
the other files hold does not depend on it. Only the registry can make loading fail. -/
namespace ConceptSpace

namespace Definition

variable {α : Type} (decode : Source → Option α) (files : FileTree) (path : String)

inductive Fails : FileFault → Prop
  | unread {cause : FileFault} : files.readText path = .error cause → Fails cause
  | malformed {text : String} : files.readText path = .ok text → Source.read? path text = none →
    Fails .undecodable
  | unfit {text : String} {source : Source} : files.readText path = .ok text →
    Source.read? path text = some source → decode source = none → Fails .undecodable

inductive Gives : Except Fault α → Prop
  | content {text : String} {source : Source} {content : α} : files.readText path = .ok text →
    Source.read? path text = some source → decode source = some content → Gives (.ok content)
  | fault {cause : FileFault} : Fails decode files path cause → Gives (.error (.file path cause))

variable {decode files path}

theorem Gives.contents {outcome : Except Fault α} (gives : Gives decode files path outcome) :
    contents decode files path = outcome := by
  cases gives with
  | content read source fits => simp only [Definition.contents, read, source, Option.bind_some, fits]
  | fault fails =>
    cases fails with
    | unread read => simp only [Definition.contents, read]
    | malformed read source => simp only [Definition.contents, read, source, Option.bind_none]
    | unfit read source fits => simp only [Definition.contents, read, source, Option.bind_some, fits]

theorem contentsGive (decode : Source → Option α) (files : FileTree) (path : String) :
    Gives decode files path (contents decode files path) := by
  obtain ⟨outcome, gives⟩ : ∃ outcome, Gives decode files path outcome := by
    cases read : files.readText path with
    | error cause => exact ⟨_, .fault (.unread read)⟩
    | ok text =>
      cases source : Source.read? path text with
      | none => exact ⟨_, .fault (.malformed read source)⟩
      | some document =>
        cases fits : decode document with
        | none => exact ⟨_, .fault (.unfit read source fits)⟩
        | some content => exact ⟨_, .content read source fits⟩
  exact gives.contents.symm ▸ gives

theorem contentsFail {fault : Fault} : contents decode files path = .error fault ↔
    ∃ cause, Fails decode files path cause ∧ fault = .file path cause := by
  constructor
  · intro failed
    have gives := contentsGive decode files path
    rw [failed] at gives
    cases gives with
    | fault fails => exact ⟨_, fails, rfl⟩
  · rintro ⟨cause, fails, rfl⟩
    exact (Gives.fault fails).contents

theorem givenOf (decode : Source → Option α) (files : FileTree) (path : Option String) :
    Option.Rel (Gives decode files) path (path.map (contents decode files)) := by
  cases path with
  | none => exact .none
  | some path => exact .some (contentsGive decode files path)

end Definition

structure KnowledgeFiles.ReadFrom (files : FileTree) (paths : KnowledgePaths) (outcomes : KnowledgeFiles) :
    Prop where
  dimensions : List.Forall₂ (Definition.Gives Definition.dimensions? files) paths.dimensions
    outcomes.dimensions
  rulebase : Option.Rel (Definition.Gives Definition.rulebase? files) paths.rulebase outcomes.rulebase
  graph : Option.Rel (Definition.Gives Definition.graph? files) paths.graph outcomes.graph
  library : Option.Rel (Definition.Gives Definition.library? files) paths.library outcomes.library
  mission : Option.Rel (Definition.Gives Definition.mission? files) (paths.mission.filter files.exists?)
    outcomes.mission

theorem KnowledgeFiles.readsFrom (files : FileTree) (paths : KnowledgePaths) :
    (KnowledgeFiles.read files paths).ReadFrom files paths where
  dimensions := by
    rw [KnowledgeFiles.read, List.forall₂_map_right_iff]
    exact List.forall₂_same.mpr fun path _ => Definition.contentsGive _ _ path
  rulebase := Definition.givenOf _ _ _
  graph := Definition.givenOf _ _ _
  library := Definition.givenOf _ _ _
  mission := Definition.givenOf _ _ _

namespace Knowledge

variable {α β : Type}

inductive Supplied (empty : β) (whole : α → β) (own : α → List Fault) :
    Option (Except Fault α) → β → List Fault → Prop
  | unset : Supplied empty whole own none empty []
  | failed (fault : Fault) : Supplied empty whole own (some (.error fault)) empty [fault]
  | read (content : α) : Supplied empty whole own (some (.ok content)) (whole content) (own content)

theorem Supplied.alike {empty : β} {whole : α → β} {own : α → List Fault}
    {outcome : Option (Except Fault α)} {part other : β} {warned also : List Fault}
    (supplied : Supplied empty whole own outcome part warned)
    (again : Supplied empty whole own outcome other also) : other = part := by
  cases supplied with
  | unset => cases again; rfl
  | failed fault => cases again; rfl
  | read content => cases again; rfl

structure Assembled (outcomes : KnowledgeFiles) (registry : Registry) (knowledge : Knowledge)
    (warnings : List Fault) : Prop where
  registry : knowledge.registry = registry
  parts : ∃ ofRulebase ofGraph ofLibrary ofMission,
    Supplied .empty id Rulebase.warnings outcomes.rulebase knowledge.rulebase ofRulebase ∧
    Supplied .empty id (fun _ => []) outcomes.graph knowledge.graph ofGraph ∧
    Supplied [] id (fun _ => []) outcomes.library knowledge.library ofLibrary ∧
    Supplied none some (fun _ => []) outcomes.mission knowledge.mission ofMission ∧
    warnings = knowledge.registry.warnings ++ ofRulebase ++ ofGraph ++ ofLibrary ++ ofMission

theorem contentSupplied (empty : α) (outcome : Option (Except Fault α)) :
    Supplied empty id (fun _ => []) outcome ((content? outcome).getD empty) (fault? outcome).toList := by
  rcases outcome with _ | fault | content
  · exact .unset
  · exact .failed fault
  · exact .read content

theorem rulebaseSupplied (outcome : Option (Except Fault Rulebase)) :
    Supplied .empty id Rulebase.warnings outcome ((content? outcome).getD .empty)
      ((fault? outcome).toList ++ ((content? outcome).getD .empty).warnings) := by
  rcases outcome with _ | fault | content
  · exact .unset
  · exact .failed fault
  · exact .read content

theorem missionSupplied (outcome : Option (Except Fault MissionProfile)) :
    Supplied none some (fun _ => []) outcome (content? outcome) (fault? outcome).toList := by
  rcases outcome with _ | fault | mission
  · exact .unset
  · exact .failed fault
  · exact .read mission

variable {outcomes others : KnowledgeFiles} {registry : Registry} {knowledge other : Knowledge}
  {warnings also : List Fault}

theorem ofFilesFails {fault : Fault} :
    ofFiles outcomes = .error fault ↔ Registry.ofFiles outcomes.dimensions = .error fault := by
  refine ⟨fun failed => ?_, fun failed => by rw [ofFiles, failed]; rfl⟩
  obtain unusable | ⟨registry, _, returned⟩ := bindFailed failed
  · exact unusable
  · cases returned

theorem ofFilesAssembles (ok : Registry.ofFiles outcomes.dimensions = .ok registry) :
    ∃ knowledge warnings, ofFiles outcomes = .ok (knowledge, warnings) ∧
      Assembled outcomes registry knowledge warnings := by
  refine ⟨_, _, by rw [ofFiles, ok]; rfl, rfl, ?_⟩
  refine ⟨_, _, _, _, rulebaseSupplied _, contentSupplied _ _, contentSupplied _ _, missionSupplied _, ?_⟩
  simp only [List.append_assoc]

structure Apart (outcomes others : KnowledgeFiles) (knowledge other : Knowledge) : Prop where
  registry : others.dimensions = outcomes.dimensions → other.registry = knowledge.registry
  rulebase : others.rulebase = outcomes.rulebase → other.rulebase = knowledge.rulebase
  graph : others.graph = outcomes.graph → other.graph = knowledge.graph
  library : others.library = outcomes.library → other.library = knowledge.library
  mission : others.mission = outcomes.mission → other.mission = knowledge.mission

theorem registryLoaded (ok : ofFiles outcomes = .ok (knowledge, warnings)) :
    Registry.ofFiles outcomes.dimensions = .ok knowledge.registry := by
  obtain ⟨registry, loaded, returned⟩ := bindOk ok
  cases returned
  exact loaded

theorem assembled (ok : ofFiles outcomes = .ok (knowledge, warnings)) :
    Assembled outcomes knowledge.registry knowledge warnings := by
  obtain ⟨whole, warned, made, assembled⟩ := ofFilesAssembles (registryLoaded ok)
  cases ok.symm.trans made
  exact assembled

theorem apart (ok : ofFiles outcomes = .ok (knowledge, warnings))
    (again : ofFiles others = .ok (other, also)) : Apart outcomes others knowledge other := by
  obtain ⟨-, _, _, _, _, rulebase, graph, library, mission, -⟩ := assembled ok
  obtain ⟨-, _, _, _, _, ofRulebase, ofGraph, ofLibrary, ofMission, -⟩ := assembled again
  refine ⟨fun same => ?_, fun same => ?_, fun same => ?_, fun same => ?_, fun same => ?_⟩
  · exact Except.ok.inj ((registryLoaded again).symm.trans (same ▸ registryLoaded ok))
  · exact rulebase.alike (same ▸ ofRulebase)
  · exact graph.alike (same ▸ ofGraph)
  · exact library.alike (same ▸ ofLibrary)
  · exact mission.alike (same ▸ ofMission)

/-- Loading takes the outcome of each file, and fails just when the registry does. Otherwise every part is
told by its own file alone, and the warnings are those of the parts, one part after another. -/
theorem partsIsolated :
    (∀ files paths, ∃ outcomes : KnowledgeFiles, outcomes.ReadFrom files paths ∧
      load files paths = ofFiles outcomes) ∧
    (∀ outcomes fault, ofFiles outcomes = .error fault ↔
      Registry.ofFiles outcomes.dimensions = .error fault) ∧
    (∀ outcomes registry, Registry.ofFiles outcomes.dimensions = .ok registry →
      ∃ knowledge warnings, ofFiles outcomes = .ok (knowledge, warnings) ∧
        Assembled outcomes registry knowledge warnings) ∧
    ∀ outcomes others knowledge other warnings also, ofFiles outcomes = .ok (knowledge, warnings) →
      ofFiles others = .ok (other, also) → Apart outcomes others knowledge other :=
  ⟨fun files paths => ⟨.read files paths, KnowledgeFiles.readsFrom files paths, rfl⟩,
    fun _ _ => ofFilesFails, fun _ _ => ofFilesAssembles, fun _ _ _ _ _ _ => apart⟩

end Knowledge

end ConceptSpace

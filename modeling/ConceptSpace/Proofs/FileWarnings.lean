import ConceptSpace.Proofs.GatheredSlots
import ConceptSpace.Proofs.KeptRules
import ConceptSpace.Proofs.LoadedParts
import ConceptSpace.Proofs.Renewal

/-! Which of the files that an engine is made from its warnings tell of.
Of the definition files, each that cannot be used is told of once. A file of ethics terms that cannot be
read is told of nowhere, and the engine does without its terms. -/
namespace ConceptSpace

inductive ConfiguredFile where
  | dimensions (place : Nat)
  | rulebase
  | graph
  | library
  | mission
  | ethicsTerms
  deriving DecidableEq

namespace ConfiguredFile

def path? (settings : Settings) : ConfiguredFile → Option String
  | .dimensions place => settings.paths.dimensions[place]?
  | .rulebase => settings.paths.rulebase
  | .graph => settings.paths.graph
  | .library => settings.paths.library
  | .mission => settings.paths.mission
  | .ethicsTerms => settings.ethicsTermsPath

def Fails (files : FileTree) (path : String) (cause : FileFault) : ConfiguredFile → Prop
  | .dimensions _ => Definition.Fails Definition.dimensions? files path cause
  | .rulebase => Definition.Fails Definition.rulebase? files path cause
  | .graph => Definition.Fails Definition.graph? files path cause
  | .library => Definition.Fails Definition.library? files path cause
  | .mission => Definition.Fails Definition.mission? files path cause
  | .ethicsTerms => files.readText path = .error cause

def isOptional : ConfiguredFile → Bool
  | .mission | .ethicsTerms => true
  | _ => false

variable (files : FileTree) (settings : Settings)

def FailsWith (f : ConfiguredFile) (fault : Fault) : Prop :=
  ∃ path cause, f.path? settings = some path ∧ (f.isOptional = true → files.exists? path = true) ∧
    f.Fails files path cause ∧ fault = .file path cause

def Faulty (f : ConfiguredFile) : Prop := ∃ fault, f.FailsWith files settings fault

def rank : ConfiguredFile → Nat × Nat
  | .dimensions place => (0, place)
  | .rulebase => (1, 0)
  | .graph => (2, 0)
  | .library => (3, 0)
  | .mission => (4, 0)
  | .ethicsTerms => (5, 0)

def Before (f g : ConfiguredFile) : Prop := Prod.Lex (· < ·) (· < ·) f.rank g.rank

end ConfiguredFile

def Fault.isFile : Fault → Bool
  | .file _ _ => true
  | _ => false

namespace KnowledgeFiles
open ConfiguredFile Knowledge

def faultOf (outcomes : KnowledgeFiles) : ConfiguredFile → Option Fault
  | .dimensions place => outcomes.dimensions[place]?.bind Fault.of?
  | .rulebase => fault? outcomes.rulebase
  | .graph => fault? outcomes.graph
  | .library => fault? outcomes.library
  | .mission => fault? outcomes.mission
  | .ethicsTerms => none

def faults (outcomes : KnowledgeFiles) : List (ConfiguredFile × Option Fault) :=
  (outcomes.dimensions.zipIdx.map fun content => (.dimensions content.2, Fault.of? content.1)) ++
    [(.rulebase, fault? outcomes.rulebase), (.graph, fault? outcomes.graph),
      (.library, fault? outcomes.library), (.mission, fault? outcomes.mission)]

theorem faultsOrdered (outcomes : KnowledgeFiles) :
    outcomes.faults.Pairwise fun a b => Before a.1 b.1 := by
  refine List.pairwise_append.mpr ⟨?_, ?_, ?_⟩
  · refine List.pairwise_map.mpr ((zipIdxOrdered outcomes.dimensions).imp fun less => ?_)
    exact .right _ less
  · simp [Before, rank, Prod.lex_def]
  · intro a dimensions b other
    obtain ⟨content, _, rfl⟩ := List.mem_map.mp dimensions
    simp only [List.mem_cons, List.not_mem_nil, or_false] at other
    rcases other with rfl | rfl | rfl | rfl
    all_goals exact .left _ _ (by decide)

theorem ofIff {α : Type} {outcome : Except Fault α} {fault : Fault} :
    Fault.of? outcome = some fault ↔ outcome = .error fault := by
  cases outcome with
  | error other => simp [Fault.of?]
  | ok content => simp [Fault.of?]

theorem faultRead {α : Type} {decode : Definition.Source → Option α} {files : FileTree}
    {path : Option String} {fault : Fault} :
    fault? (path.map (Definition.contents decode files)) = some fault ↔
      ∃ p cause, path = some p ∧ Definition.Fails decode files p cause ∧ fault = .file p cause := by
  cases path with
  | none => simp [fault?]
  | some p => simp [fault?, ofIff, Definition.contentsFail]

variable {files : FileTree} {settings : Settings} {f : ConfiguredFile} {fault : Fault}

theorem memFaults (outcomes : KnowledgeFiles) :
    (f, some fault) ∈ outcomes.faults ↔ outcomes.faultOf f = some fault := by
  rw [faults, List.mem_append]
  cases f with
  | dimensions place => simp [faultOf, List.mem_zipIdx_iff_getElem?, Option.bind_eq_some_iff]
  | rulebase => simp [faultOf, eq_comm]
  | graph => simp [faultOf, eq_comm]
  | library => simp [faultOf, eq_comm]
  | mission => simp [faultOf, eq_comm]
  | ethicsTerms => simp [faultOf]

theorem faultOfRead : (KnowledgeFiles.read files settings.paths).faultOf f = some fault ↔
    f ≠ .ethicsTerms ∧ f.FailsWith files settings fault := by
  cases f with
  | dimensions place =>
    rw [KnowledgeFiles.read, faultOf, List.getElem?_map]
    refine faultRead.trans ?_
    simp [FailsWith, path?, ConfiguredFile.Fails, isOptional]
  | rulebase => exact faultRead.trans (by simp [FailsWith, path?, ConfiguredFile.Fails, isOptional])
  | graph => exact faultRead.trans (by simp [FailsWith, path?, ConfiguredFile.Fails, isOptional])
  | library => exact faultRead.trans (by simp [FailsWith, path?, ConfiguredFile.Fails, isOptional])
  | mission =>
    refine faultRead.trans ?_
    simp [FailsWith, path?, ConfiguredFile.Fails, isOptional, Option.filter_eq_some_iff, and_assoc]
  | ethicsTerms =>
    constructor
    · intro found
      cases found
    · intro found
      exact absurd rfl found.1

theorem faultsReported : Reports Before (fun f => f ≠ .ethicsTerms ∧ f.Faulty files settings)
    (fun f => f.FailsWith files settings)
    ((KnowledgeFiles.read files settings.paths).faults.filterMap fun a => a.2) := by
  refine (filterMapReports (faultsOrdered _) id).congr (fun f => ?_) fun f fault told => ?_
  · simp only [Option.ne_none_iff_exists', id, Faulty]
    constructor
    · intro told
      obtain ⟨_, listed, fault, rfl⟩ := told
      obtain ⟨definition, fails⟩ := faultOfRead.mp ((memFaults _).mp listed)
      exact ⟨definition, fault, fails⟩
    · intro faulty
      obtain ⟨definition, fault, fails⟩ := faulty
      exact ⟨_, (memFaults _).mpr (faultOfRead.mpr ⟨definition, fails⟩), fault, rfl⟩
  · obtain ⟨_, listed, rfl⟩ := told
    exact (faultOfRead.mp ((memFaults _).mp listed)).2

theorem faultsFiled : ((KnowledgeFiles.read files settings.paths).faults.filterMap fun a => a.2).filter
    Fault.isFile = (KnowledgeFiles.read files settings.paths).faults.filterMap fun a => a.2 := by
  refine List.filter_eq_self.mpr fun fault listed => ?_
  obtain ⟨⟨f, _⟩, among, rfl⟩ := List.mem_filterMap.mp listed
  obtain ⟨_, path, cause, _, _, _, rfl⟩ := faultOfRead.mp ((memFaults _).mp among)
  rfl

theorem nextFault (f : ConfiguredFile) (outcome : Option Fault)
    (rest : List (ConfiguredFile × Option Fault)) : ((f, outcome) :: rest).filterMap (fun a => a.2) =
      outcome.toList ++ rest.filterMap fun a => a.2 := by
  cases outcome with
  | none => rfl
  | some fault => rfl

theorem faultsListed (outcomes : KnowledgeFiles) : (outcomes.faults.filterMap fun a => a.2) =
    outcomes.dimensions.filterMap Fault.of? ++ (fault? outcomes.rulebase).toList ++
      (fault? outcomes.graph).toList ++ (fault? outcomes.library).toList ++
      (fault? outcomes.mission).toList := by
  have dimensions : (outcomes.dimensions.zipIdx.map fun content =>
      (ConfiguredFile.dimensions content.2, Fault.of? content.1)).filterMap (fun a => a.2) =
        outcomes.dimensions.filterMap Fault.of? := by
    rw [List.filterMap_map]
    exact zipIdxFilterMap outcomes.dimensions Fault.of?
  rw [faults, List.filterMap_append, dimensions]
  simp only [nextFault, List.filterMap_nil, List.append_nil, List.append_assoc]

end KnowledgeFiles

theorem Registry.rejectsUnfiled (contents : List (Except Fault (List DimensionDef))) :
    ((definitions contents).filterMap DimensionDef.fault?).filter Fault.isFile = [] := by
  refine List.filter_eq_nil_iff.mpr fun fault listed => ?_
  obtain ⟨d, _, reported⟩ := List.mem_filterMap.mp listed
  cases DimensionDef.faultIff.mp reported with
  | blank _ => exact Bool.false_ne_true
  | rule _ _ _ _ => exact Bool.false_ne_true

theorem Rulebase.warningsUnfiled (records : List (Except RecordFault Rule)) :
    (ofEntries records).warnings.filter Fault.isFile = [] := by
  refine List.filter_eq_nil_iff.mpr fun fault listed => ?_
  rw [warningsOf] at listed
  obtain ⟨entry, _, reported⟩ := List.mem_filterMap.mp listed
  obtain ⟨cause, _, rfl⟩ := warningIff.mp reported
  exact Bool.false_ne_true

theorem KnowledgeFiles.rulebaseUnfiled {files : FileTree} {path : Option String} :
    ((Knowledge.content? (path.map (Definition.contents Definition.rulebase? files))).getD
      .empty).warnings.filter Fault.isFile = [] := by
  cases path with
  | none => rfl
  | some path =>
    have gives := Definition.contentsGive Definition.rulebase? files path
    rw [Option.map_some]
    cases content : Definition.contents Definition.rulebase? files path with
    | error fault => rfl
    | ok rulebase =>
      rw [content] at gives
      cases gives with
      | content _ _ fits =>
        rw [Definition.rulebaseRecords] at fits
        obtain ⟨documents, _, rfl⟩ := Option.map_eq_some_iff.mp fits
        exact Rulebase.warningsUnfiled _

theorem Knowledge.warningsFiled {files : FileTree} {settings : Settings} {knowledge : Knowledge}
    {warnings : List Fault} (loaded : load files settings.paths = .ok (knowledge, warnings)) :
    warnings.filter Fault.isFile =
      (KnowledgeFiles.read files settings.paths).faults.filterMap fun a => a.2 := by
  obtain ⟨registry, gathered, returned⟩ := bindOk loaded
  cases returned
  have unread := ((Registry.ofFilesSucceeds _).mp gathered).2.2
  have filed := @KnowledgeFiles.faultsFiled files settings
  rw [KnowledgeFiles.faultsListed] at filed ⊢
  rw [← filed, unread]
  have rulebase := @KnowledgeFiles.rulebaseUnfiled files settings.paths.rulebase
  simp only [List.filter_append, Registry.rejectsUnfiled, KnowledgeFiles.read, rulebase,
    List.append_nil]

namespace Engine
open ConfiguredFile

variable {files : FileTree} {narrator : Narrator} {settings : Settings} {engine : Engine}

theorem warningsReport (made : ofSettings files narrator settings = .ok engine) :
    Reports Before (fun f => f ≠ .ethicsTerms ∧ f.Faulty files settings)
      (fun f => f.FailsWith files settings) (engine.warnings.filter Fault.isFile) := by
  obtain ⟨knowledge, warnings, history, loaded, _, rfl⟩ := madeOnly made
  rw [Knowledge.warningsFiled loaded]
  exact KnowledgeFiles.faultsReported

theorem termsUnread (made : ofSettings files narrator settings = .ok engine)
    (faulty : ConfiguredFile.ethicsTerms.Faulty files settings) :
    engine.pipeline.ethicsTerms = settings.pipeline.ethicsTerms := by
  obtain ⟨knowledge, warnings, history, _, _, rfl⟩ := madeOnly made
  obtain ⟨_, path, cause, asked, _, fails, rfl⟩ := faulty
  have asked : settings.ethicsTermsPath = some path := asked
  have unread : files.readText path = .error cause := fails
  have without : settings.fileTerms files = [] := by
    rw [Settings.fileTerms, asked, Option.map_some, unread]
  change settings.pipeline.ethicsTerms ++ settings.fileTerms files = settings.pipeline.ethicsTerms
  rw [without, List.append_nil]

theorem failsFiled {f : ConfiguredFile} {fault : Fault} (fails : f.FailsWith files settings fault) :
    fault.isFile = true := by
  obtain ⟨path, cause, _, _, _, rfl⟩ := fails
  rfl

theorem notBefore (f : ConfiguredFile) : ¬ f.Before f := by
  simp [Before, Prod.lex_def]

/-- Every definition file that cannot be used is told of in the warnings, once. So all files are told of
unless the ethics terms are in a file that cannot be read; then the engine does without the terms there. -/
theorem faultyFilesReported (made : ofSettings files narrator settings = .ok engine) :
    Reports Before (fun f => f ≠ .ethicsTerms ∧ f.Faulty files settings)
      (fun f => f.FailsWith files settings) (engine.warnings.filter Fault.isFile) ∧
    (ConfiguredFile.ethicsTerms.Faulty files settings →
      engine.pipeline.ethicsTerms = settings.pipeline.ethicsTerms) ∧
    ((∃ reports, reports.Subperm engine.warnings ∧
        Reports Before (fun f => f.Faulty files settings) (fun f => f.FailsWith files settings) reports) ↔
      ¬ ConfiguredFile.ethicsTerms.Faulty files settings) := by
  refine ⟨warningsReport made, termsUnread made, ?_, ?_⟩
  · intro everything faulty
    obtain ⟨reports, among, told⟩ := everything
    have filed : reports.filter Fault.isFile = reports := by
      refine List.filter_eq_self.mpr fun fault listed => ?_
      obtain ⟨f, fails⟩ := told.told listed
      exact failsFiled fails
    have fewer := (among.filter Fault.isFile).length_le
    rw [filed] at fewer
    have more := (warningsReport made).longer told notBefore (fun f found => found.2) faulty
      fun found => found.1 rfl
    exact absurd more fewer.not_gt
  · intro readable
    refine ⟨_, List.filter_sublist.subperm, (warningsReport made).congr (fun f => ?_) fun _ _ fails => fails⟩
    exact ⟨And.right, fun faulty => ⟨fun terms => readable (terms ▸ faulty), faulty⟩⟩

def garbled : FileTree := early.write "ethics.txt" (.file ("library\n".toUTF8.push 0xff))

def ruled : Settings :=
  { watchful with
    paths := { dimensions := ["dims.json"], rulebase := some "ethics.txt" }
    ethicsTermsPath := none }

theorem garbledRulesTold : ∃ built, ofSettings garbled .mechanical ruled = .ok built ∧
    ConfiguredFile.rulebase.Faulty garbled ruled ∧
    ∃ reports, reports.Subperm built.warnings ∧
      Reports Before (fun f => f.Faulty garbled ruled) (fun f => f.FailsWith garbled ruled) reports := by
  obtain ⟨built, made⟩ := @loadedMade garbled ruled rfl (by decide +kernel)
  refine ⟨built, made, ?_, (faultyFilesReported made).2.2.mpr ?_⟩
  · exact ⟨_, "ethics.txt", .notUtf8, rfl, nofun, .unread (by decide +kernel), rfl⟩
  · intro faulty
    obtain ⟨_, path, _, asked, _⟩ := faulty
    cases asked

theorem garbledTermsUntold : ∃ built, ofSettings garbled .mechanical watchful = .ok built ∧
    ConfiguredFile.ethicsTerms.Faulty garbled watchful ∧
    built.warnings = [] ∧ built.pipeline.ethicsTerms = [] := by
  obtain ⟨built, made⟩ := watchfulMade garbled (by decide +kernel)
  have unread : garbled.readText "ethics.txt" = .error .notUtf8 := by decide +kernel
  have terms : watchful.allEthicsTerms garbled = [] := by decide +kernel
  have silent : (Knowledge.load garbled watchful.paths).toOption.map Prod.snd = some [] := by
    decide +kernel
  obtain ⟨knowledge, warnings, history, loaded, _, rfl⟩ := madeOnly made
  rw [loaded] at silent
  refine ⟨_, made, ⟨_, "ethics.txt", .notUtf8, rfl, fun _ => by decide +kernel, unread, rfl⟩, ?_, terms⟩
  exact Option.some.inj silent

end Engine

end ConceptSpace

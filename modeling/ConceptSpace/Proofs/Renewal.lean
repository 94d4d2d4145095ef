import ConceptSpace.Proofs.Fallback
import ConceptSpace.Proofs.UnblockedPast

/-! What a reload renews: all knowledge, or nothing.
The ethics terms stay those that were read when the engine was made. Against an engine made anew this
shows in exactly the requests whose narrative the filter judges otherwise under the terms of now. -/
namespace ConceptSpace

namespace Pipeline
variable {marker : String} {c : Circumstances} {n : Narrative} {stage : Stage} {rest : List Stage}

def JudgedAlike (terms others : List String) (n : Narrative) : Prop :=
  ∀ c, ((ethicsFilter terms).apply c n).2 = ((ethicsFilter others).apply c n).2

def guardEntry (stage : Stage) : Verdict → String
  | .block reason => "[" ++ stage.name ++ "] " ++ "BLOCKED: " ++ reason
  | verdict => entry stage verdict

theorem guardLogged (guards : stage.isBlocking = true) (deaf : ∀ s ∈ stage :: rest, Deaf c s)
    (n : Narrative) : ∃ lines, (runStages marker c (stage :: rest) n).narrative.auditLog =
      n.auditLog ++ guardEntry stage (stage.apply c n).2 :: lines := by
  have silent := deafSilent (deaf stage List.mem_cons_self) n
  by_cases stops : Stops c stage n
  · obtain ⟨reason, blocks, ends⟩ := @endsHere marker c stage n stops
    refine ⟨[], ?_⟩
    rw [ends, blocks, ← silent]
    rfl
  · have heard : entry stage (stage.apply c n).2 = guardEntry stage (stage.apply c n).2 := by
      cases judged : (stage.apply c n).2 with
      | block reason => exact absurd ⟨guards, reason, judged⟩ stops
      | pass note => rfl
      | warn note => rfl
    have one : (after c n stage).auditLog = n.auditLog ++ [guardEntry stage (stage.apply c n).2] := by
      rw [after, Narrative.log, silent, heard]
    obtain ⟨lines, grown⟩ := @runRelogged marker c rest
      (fun s mem => deaf s (List.mem_cons_of_mem _ mem)) (after c n stage)
    have whole := congrArg (fun r => r.narrative.auditLog) (grown (after c n stage).auditLog)
    refine ⟨lines, ?_⟩
    rw [(runGoes stops).2, List.append_cons, ← one]
    exact whole

theorem filterVerdicts (terms : List String) : ((ethicsFilter terms).apply c n).2 = .pass "clear" ∨
    ∃ hits, ((ethicsFilter terms).apply c n).2 = .block ("forbidden term(s): " ++ hits) := by
  simp only [ethicsFilter]
  split
  · exact .inl rfl
  · exact .inr ⟨_, rfl⟩

theorem entryTells {terms others : List String}
    (same : guardEntry (ethicsFilter terms) ((ethicsFilter terms).apply c n).2 =
      guardEntry (ethicsFilter others) ((ethicsFilter others).apply c n).2) :
    JudgedAlike terms others n := by
  intro c'
  change ((ethicsFilter terms).apply c n).2 = ((ethicsFilter others).apply c n).2
  obtain clear | ⟨hits, found⟩ := @filterVerdicts c n terms
  · obtain clear' | ⟨hits', found'⟩ := @filterVerdicts c n others
    · rw [clear, clear']
    · rw [clear, found'] at same
      have letters := congrArg String.toList same
      simp [guardEntry, entry, ethicsFilter] at letters
  · obtain clear' | ⟨hits', found'⟩ := @filterVerdicts c n others
    · rw [found, clear'] at same
      have letters := congrArg String.toList same
      simp [guardEntry, entry, ethicsFilter] at letters
    · rw [found, found'] at same
      rw [found, found']
      simpa [guardEntry, ethicsFilter] using same

variable {s : PipelineSettings} {mission : Option MissionProfile} {terms : List String}

theorem filterLogged (s : PipelineSettings) (mission : Option MissionProfile) : ∃ lines,
    ((standard s mission).run c n).narrative.auditLog = n.auditLog ++
      guardEntry (ethicsFilter s.ethicsTerms) ((ethicsFilter s.ethicsTerms).apply c n).2 :: lines :=
  guardLogged rfl (standardDeaf s mission) n

theorem logTells (same : ((standard { s with ethicsTerms := terms } mission).run c n).narrative.auditLog =
    ((standard s mission).run c n).narrative.auditLog) : JudgedAlike s.ethicsTerms terms n := by
  obtain ⟨lines, logged⟩ := @filterLogged c n s mission
  obtain ⟨lines', logged'⟩ := @filterLogged c n { s with ethicsTerms := terms } mission
  rw [logged, logged'] at same
  exact entryTells (List.cons.inj (List.append_cancel_left same)).1.symm

theorem runAlike (alike : JudgedAlike s.ethicsTerms terms n) :
    (standard { s with ethicsTerms := terms } mission).run c n = (standard s mission).run c n := by
  have applied : (ethicsFilter terms).apply c n = (ethicsFilter s.ethicsTerms).apply c n :=
    Prod.ext ((ethicsKeeps terms).trans (ethicsKeeps s.ethicsTerms).symm) (alike c).symm
  rw [run, run, standard, standard, runStages, runStages, applied]
  rfl

end Pipeline

namespace Draft

theorem finishRun {d : Draft} {p : Pipeline} {history : Except Fault (List NarrativeRecord)}
    (same : p.run (d.circumstances (history.toOption.getD [])) d.narrative =
      d.pipeline.run (d.circumstances (history.toOption.getD [])) d.narrative) :
    { d with pipeline := p }.finish history = d.finish history := by
  rw [finish, finish, ← same]
  rfl

end Draft

namespace Engine

def withTerms (e : Engine) (terms : List String) : Engine :=
  { e with pipeline := { e.pipeline with ethicsTerms := terms } }

variable {e : Engine} {terms : List String}

theorem startTerms (request : AnalysisRequest) : (e.withTerms terms).start request =
    { e.start request with
      pipeline := .standard { e.pipeline with ethicsTerms := terms } e.knowledge.mission } := by
  unfold start Draft.start withTerms
  dsimp only
  split
  · rfl
  · rfl

theorem keepTerms (moment : Moment) (report : Report) : (e.withTerms terms).keep moment report =
    ((e.keep moment report).1.withTerms terms, (e.keep moment report).2) := by
  unfold keep withTerms
  cases report.record? moment.time with
  | none => rfl
  | some record =>
    dsimp only
    cases e.history.record moment.mark record with
    | ok history => rfl
    | error fault => rfl

theorem finishAlike {request : AnalysisRequest}
    (alike : Pipeline.JudgedAlike e.pipeline.ethicsTerms terms (e.start request).narrative)
    (history : Except Fault (List NarrativeRecord)) :
    ((e.withTerms terms).start request).finish history = (e.start request).finish history := by
  rw [startTerms]
  apply Draft.finishRun
  rw [startPipeline]
  exact Pipeline.runAlike alike

theorem analyzeAlike {request : AnalysisRequest}
    (alike : Pipeline.JudgedAlike e.pipeline.ethicsTerms terms (e.start request).narrative)
    (moment : Moment) : (e.withTerms terms).analyze moment request =
      ((e.analyze moment request).1.withTerms terms, (e.analyze moment request).2) := by
  rw [analyze, analyze, keepTerms, finishAlike alike]
  rfl

theorem analyzedLog (e : Engine) (moment : Moment) (request : AnalysisRequest) :
    (e.analyze moment request).2.auditLog =
      ((e.start request).pipeline.run ((e.start request).circumstances (e.recent.toOption.getD []))
        (e.start request).narrative).narrative.auditLog := by
  rw [analyze, keepReport, Draft.finish]

theorem recentTerms : (e.withTerms terms).recent = e.recent := rfl

theorem reportTells {moment : Moment} {request : AnalysisRequest}
    (same : ((e.withTerms terms).analyze moment request).2 = (e.analyze moment request).2) :
    Pipeline.JudgedAlike e.pipeline.ethicsTerms terms (e.start request).narrative := by
  have logs := congrArg Report.auditLog same
  rw [analyzedLog, analyzedLog, startTerms, startPipeline, recentTerms] at logs
  dsimp only [Draft.circumstances] at logs
  exact Pipeline.logTells logs

end Engine

def Action.request? : Action → Option AnalysisRequest
  | .analyze request => some request
  | _ => none

namespace Engine

def drafted (e : Engine) : List (Moment × Action) → List Narrative
  | [] => []
  | (moment, action) :: rest =>
    (action.request?.map fun request => (e.start request).narrative).toList ++
      (e.act moment action).1.drafted rest

variable {e : Engine} {terms : List String}

theorem actAlike {moment : Moment} {action : Action}
    (alike : ∀ request ∈ action.request?,
      Pipeline.JudgedAlike e.pipeline.ethicsTerms terms (e.start request).narrative) :
    (e.withTerms terms).act moment action =
      ((e.act moment action).1.withTerms terms, (e.act moment action).2) := by
  cases action with
  | analyze request =>
    simp only [act, analyzeAlike (alike request rfl)]
  | reload files =>
    unfold act reload withTerms
    dsimp only
    cases Knowledge.load files e.settings.paths with
    | error fault => rfl
    | ok content => rfl
  | publish knowledge => rfl
  | employ narrator => rfl

theorem headTells {moment : Moment} {action : Action} {rest : List (Moment × Action)}
    (same : (e.session ((moment, action) :: rest)).2 =
      ((e.withTerms terms).session ((moment, action) :: rest)).2) :
    ∀ request ∈ action.request?,
      Pipeline.JudgedAlike e.pipeline.ethicsTerms terms (e.start request).narrative := by
  intro request asked
  cases action with
  | analyze other =>
    cases Option.some.inj asked
    exact reportTells (Answer.mk.inj (List.cons.inj same).1).2.symm
  | reload files => cases asked
  | publish knowledge => cases asked
  | employ narrator => cases asked

theorem sessionTerms (later : List (Moment × Action)) :
    (e.session later).2 = ((e.withTerms terms).session later).2 ↔
      ∀ n ∈ e.drafted later, Pipeline.JudgedAlike e.pipeline.ethicsTerms terms n := by
  induction later generalizing e with
  | nil => simp [session, drafted]
  | cons first rest ih =>
    obtain ⟨moment, action⟩ := first
    have next := @ih (e.act moment action).1
    rw [(e.actMade moment action).pipeline] at next
    have here : (∀ n ∈ (action.request?.map fun request => (e.start request).narrative).toList,
        Pipeline.JudgedAlike e.pipeline.ethicsTerms terms n) ↔ ∀ request ∈ action.request?,
          Pipeline.JudgedAlike e.pipeline.ethicsTerms terms (e.start request).narrative := by
      simp
    rw [drafted, List.forall_mem_append, here, ← next]
    -- Engines that answer the first action alike go on alike, so what is left is the same question of the rest.
    constructor
    · intro same
      have alike := headTells same
      refine ⟨alike, ?_⟩
      simpa only [session, actAlike alike, List.append_cancel_left_eq] using same
    · rintro ⟨alike, rest⟩
      simp only [session, actAlike alike, rest]

theorem madeOnly {files : FileTree} {narrator : Narrator} {settings : Settings} {built : Engine}
    (made : ofSettings files narrator settings = .ok built) :
    ∃ knowledge warnings history, Knowledge.load files settings.paths = .ok (knowledge, warnings) ∧
      openHistory files settings = .ok history ∧
      built = { ofKnowledge files settings knowledge with narrator, history, warnings } := by
  obtain ⟨content, loaded, rest⟩ := bindOk made
  obtain ⟨history, opened, last⟩ := bindOk rest
  cases last
  exact ⟨_, _, _, loaded, opened, rfl⟩

theorem failedOnly {now : FileTree} {fault : Fault} (failed : e.reload now = .error fault) :
    Knowledge.load now e.settings.paths = .error fault := by
  obtain unloaded | ⟨content, _, returned⟩ := bindFailed failed
  · exact unloaded
  · cases returned

theorem failedAnew {now : FileTree} {fault : Fault} (failed : e.reload now = .error fault)
    (narrator : Narrator) : ofSettings now narrator e.settings = .error fault := by
  rw [ofSettings, failedOnly failed]
  rfl

theorem unopenedAnew {now : FileTree} {reloaded : Engine} {narrator : Narrator} {fault : Fault}
    (ok : e.reload now = .ok reloaded) (failed : ofSettings now narrator e.settings = .error fault) :
    openHistory now e.settings = .error fault := by
  obtain ⟨knowledge, warnings, loaded, _⟩ := reloadedOnly ok
  obtain unloaded | ⟨content, _, rest⟩ := bindFailed failed
  · rw [loaded] at unloaded
    cases unloaded
  · obtain unopened | ⟨history, _, returned⟩ := bindFailed rest
    · exact unopened
    · cases returned

theorem failedKeeps {now : FileTree} {fault : Fault} (failed : e.reload now = .error fault)
    (moment : Moment) (later : List (Moment × Action)) :
    e.session ((moment, .reload now) :: later) = e.session later := by
  have kept : e.act moment (.reload now) = (e, none) := by
    rw [act, failed]
    rfl
  rw [session, kept]
  rfl

theorem loadedUnasked {files : FileTree} {paths : KnowledgePaths} {knowledge : Knowledge}
    {warnings : List Fault} (loaded : Knowledge.load files paths = .ok (knowledge, warnings)) :
    (paths.library = none → knowledge.library = []) ∧ (paths.mission = none → knowledge.mission = none) := by
  obtain ⟨registry, _, gathered⟩ := bindOk loaded
  cases gathered
  constructor
  · intro unasked
    simp [KnowledgeFiles.read, unasked, Knowledge.content?]
  · intro unasked
    simp [KnowledgeFiles.read, unasked, Knowledge.content?]

theorem renewedTerms {now : FileTree} {narrator : Narrator} {fresh : Engine}
    (renewed : ofSettings now narrator e.settings = .ok fresh)
    (own : e.pipeline = { e.settings.pipeline with ethicsTerms := e.pipeline.ethicsTerms }) :
    ∃ reloaded, e.reload now = .ok reloaded ∧
      reloaded.knowledge = fresh.knowledge ∧ reloaded.warnings = fresh.warnings ∧
      reloaded.pipeline = e.pipeline ∧
      { fresh with narrator := reloaded.narrator, history := reloaded.history } =
        reloaded.withTerms (e.settings.allEthicsTerms now) := by
  obtain ⟨knowledge, warnings, history, loaded, _, rfl⟩ := madeOnly renewed
  refine ⟨{ e with knowledge, warnings }, ?_, rfl, rfl, rfl, ?_⟩
  · rw [reload, loaded]
    rfl
  · rw [withTerms, own]
    rfl

/-- A reload that fails changes nothing, and one that succeeds renews all knowledge. From then on the
engine answers as one made anew would, unless a request comes whose narrative the filter judges otherwise
under the terms of now than under those of the time when the engine was made. -/
theorem reloadRenews {files : FileTree} {narrator : Narrator} {settings : Settings} {built : Engine}
    (made : ofSettings files narrator settings = .ok built) (past : List (Moment × Action))
    (now : FileTree) :
    (∀ fault, (built.session past).1.reload now = .error fault →
      ofSettings now narrator settings = .error fault ∧
      ∀ moment later, (built.session past).1.session ((moment, .reload now) :: later) =
        (built.session past).1.session later) ∧
    (∀ reloaded fault, (built.session past).1.reload now = .ok reloaded →
      ofSettings now narrator settings = .error fault → openHistory now settings = .error fault) ∧
    ∀ fresh, ofSettings now narrator settings = .ok fresh →
      ∃ reloaded, (built.session past).1.reload now = .ok reloaded ∧
        reloaded.knowledge = fresh.knowledge ∧ reloaded.warnings = fresh.warnings ∧
        ∀ later, (reloaded.session later).2 = (({ fresh with
            narrator := reloaded.narrator, history := reloaded.history } : Engine).session later).2 ↔
          ∀ n ∈ reloaded.drafted later,
            Pipeline.JudgedAlike (settings.allEthicsTerms files) (settings.allEthicsTerms now) n := by
  have sustained := built.sessionMade past
  obtain ⟨_, _, _, _, _, rfl⟩ := madeOnly made
  generalize (Engine.session _ past).1 = e at *
  obtain rfl : e.settings = settings := sustained.settings
  have gathered : e.pipeline = e.settings.pipelineSettings files := sustained.pipeline
  refine ⟨?_, ?_, ?_⟩
  · intro fault failed
    exact ⟨failedAnew failed narrator, failedKeeps failed⟩
  · intro reloaded fault ok failed
    exact unopenedAnew ok failed
  · intro fresh renewed
    have own : e.pipeline = { e.settings.pipeline with ethicsTerms := e.pipeline.ethicsTerms } := by
      rw [gathered]
      rfl
    obtain ⟨reloaded, ok, knowledge, warnings, pipeline, terms⟩ := renewedTerms renewed own
    refine ⟨reloaded, ok, knowledge, warnings, fun later => ?_⟩
    have gatheredTerms : reloaded.pipeline.ethicsTerms = e.settings.allEthicsTerms files := by
      rw [pipeline, gathered]
      rfl
    rw [terms, sessionTerms, gatheredTerms]

def early : FileTree := FileTree.empty.write "dims.json" (.file "[\x7b\"id\":\"hue\"\x7d]".toUTF8)

def stricter : FileTree := early.write "ethics.txt" (.file "library\n".toUTF8)

def wider : FileTree :=
  early.write "dims.json" (.file "[\x7b\"id\":\"hue\"\x7d, \x7b\"id\":\"tone\"\x7d]".toUTF8)

def watchful : Settings where
  paths := { dimensions := ["dims.json"] }
  pipeline := { ethicsTerms := [] }
  ethicsTermsPath := some "ethics.txt"

theorem loadedMade {files : FileTree} {settings : Settings} (unkept : settings.historyPath = none)
    (loads : (Knowledge.load files settings.paths).isOk = true) :
    ∃ built, ofSettings files .mechanical settings = .ok built := by
  cases loaded : Knowledge.load files settings.paths with
  | error fault =>
    rw [loaded] at loads
    cases loads
  | ok content =>
    rw [ofSettings, loaded, openHistory, unkept]
    exact ⟨_, rfl⟩

theorem watchfulMade (files : FileTree) (loads : (Knowledge.load files watchful.paths).isOk = true) :
    ∃ built, ofSettings files .mechanical watchful = .ok built :=
  loadedMade rfl loads

theorem earlyMade : ∃ built, ofSettings early .mechanical watchful = .ok built :=
  watchfulMade early (by decide +kernel)

theorem widerRenews : ∃ built reloaded fresh, ofSettings early .mechanical watchful = .ok built ∧
    (built.session [(⟨1, "a"⟩, .analyze Service.hueRequest)]).1.reload wider = .ok reloaded ∧
    ofSettings wider .mechanical watchful = .ok fresh ∧
    (reloaded.session [(⟨2, "b"⟩, .analyze Service.hueRequest)]).2 = (({ fresh with
      narrator := reloaded.narrator, history := reloaded.history } : Engine).session
        [(⟨2, "b"⟩, .analyze Service.hueRequest)]).2 := by
  obtain ⟨built, made⟩ := earlyMade
  obtain ⟨fresh, renewed⟩ := watchfulMade wider (by decide +kernel)
  obtain ⟨reloaded, ok, _, _, answers⟩ :=
    (reloadRenews made [(⟨1, "a"⟩, .analyze Service.hueRequest)] wider).2.2 fresh renewed
  have unchanged : watchful.allEthicsTerms early = watchful.allEthicsTerms wider := by decide +kernel
  refine ⟨built, reloaded, fresh, made, ok, renewed, (answers _).mpr ?_⟩
  intro n _ c
  rw [unchanged]

theorem stricterMissed : ∃ built reloaded fresh, ofSettings early .mechanical watchful = .ok built ∧
    built.reload stricter = .ok reloaded ∧ ofSettings stricter .mechanical watchful = .ok fresh ∧
    (reloaded.analyze ⟨1, "a"⟩ { outputs := [] }).2.status = .noMatch ∧
    (({ fresh with narrator := reloaded.narrator, history := reloaded.history } : Engine).analyze
      ⟨1, "a"⟩ { outputs := [] }).2.status = .blocked := by
  obtain ⟨built, made⟩ := earlyMade
  obtain ⟨fresh, renewed⟩ := watchfulMade stricter (by decide +kernel)
  obtain ⟨_, _, _, _, opened, rfl⟩ := madeOnly made
  cases opened
  obtain ⟨knowledge, warnings, _, loaded, _, rfl⟩ := madeOnly renewed
  obtain ⟨unstocked, unguarded⟩ := loadedUnasked loaded
  have lenient : watchful.allEthicsTerms early = [] := by decide +kernel
  have strict : watchful.allEthicsTerms stricter = ["library"] := by decide +kernel
  refine ⟨_, { ofKnowledge early watchful knowledge with warnings }, _, made, ?_, renewed, ?_, ?_⟩
  · simp only [reload, ofKnowledge, loaded]
    rfl
  · exact unstockedUnmatched rfl (unstocked rfl) (unguarded rfl) lenient _ _
  · exact unstockedBlocked rfl (unstocked rfl) strict _ _

end Engine

end ConceptSpace

import ConceptSpace.Proofs.BestMatch
import ConceptSpace.Proofs.Interleaving
import ConceptSpace.Proofs.UnreadLog

/-! What a narrator that fails costs: the first line of the log, and one warning more.
The texts, the verdicts on them and what goes to the history are those of the mechanical narrator. -/
namespace ConceptSpace

def failureLine (narrator : Narrator) (fault : Fault) : String :=
  "[narrator] " ++ narrator.name ++ " failed, mechanical fallback: " ++ fault.message

namespace Draft

def asked? (settings : Settings) (knowledge : Knowledge) (request : AnalysisRequest) :
    Option NarrationRequest :=
  let reasoned := ReasonedVector.ofOutputs settings.reasoner knowledge request.outputs
  let metric := request.metric.getD settings.metric
  let ranking := (matcher settings knowledge.registry metric).rank reasoned.vector knowledge.library 1
  ranking.best.toOption.map fun best =>
    ⟨reasoned.vector, ((knowledge.library[best.index]?).map (·.vector)).getD [], best.score,
      justification best.id best.score metric.name reasoned.trace reasoned.provenance⟩

variable {settings : Settings} {pipeline : PipelineSettings} {knowledge : Knowledge}
  {request : AnalysisRequest} {narrator : Narrator}

theorem askedNone : asked? settings knowledge request = none ↔ ∀ entry ∈ knowledge.library,
    Matcher.usable (ReasonedVector.ofOutputs settings.reasoner knowledge request.outputs).vector entry =
      false := by
  rw [← Matcher.comparableNone]
  unfold asked?
  dsimp only
  constructor
  · intro unasked
    by_contra some
    obtain ⟨best, found⟩ := Matcher.bestSome
      (matcher settings knowledge.registry (request.metric.getD settings.metric)) some
    rw [found] at unasked
    cases unasked
  · intro none
    rw [Matcher.bestNone _ none]
    rfl

theorem startUnasked (unasked : asked? settings knowledge request = none) (other : Narrator) :
    start settings pipeline narrator knowledge request = start settings pipeline other knowledge request := by
  unfold asked? at unasked
  dsimp only at unasked
  rw [Option.map_eq_none_iff] at unasked
  unfold start
  dsimp only
  split
  · rename_i best found
    rw [found] at unasked
    cases unasked
  · rfl

theorem startFailed {question : NarrationRequest} {fault : Fault}
    (asked : asked? settings knowledge request = some question)
    (fails : narrator.narrate question = .error fault) :
    (start settings pipeline .mechanical knowledge request).narrative.auditLog =
        ["[narrator] " ++ Narrator.mechanical.name] ∧
      start settings pipeline narrator knowledge request =
        { start settings pipeline .mechanical knowledge request with
          narrative := (start settings pipeline .mechanical knowledge request).narrative.relog
            [failureLine narrator fault]
          warnings := (start settings pipeline .mechanical knowledge request).warnings ++ [fault.message] } := by
  unfold asked? at asked
  dsimp only at asked
  obtain ⟨best, found, rfl⟩ := Option.map_eq_some_iff.mp asked
  unfold start
  dsimp only
  split
  · rename_i other ranked
    rw [ranked] at found
    cases found
    simp only [told, fails, Narrator.mechanical, List.append_nil]
    exact ⟨trivial, rfl⟩
  · rename_i other ranked
    rw [ranked] at found
    cases found

theorem circumstancesRestated (d : Draft) (log warnings : List String) (h : List NarrativeRecord) :
    { d with narrative := d.narrative.relog log, warnings }.circumstances h = d.circumstances h := rfl

theorem finishRestated {d : Draft} {s : PipelineSettings} {mission : Option MissionProfile}
    (standard : d.pipeline = .standard s mission) (history : Except Fault (List NarrativeRecord)) :
    ∃ (base : Report) (lines later : List String), ∀ log warnings,
      { d with narrative := d.narrative.relog log, warnings }.finish history =
        { base with auditLog := log ++ lines, warnings := warnings ++ later } := by
  have deaf : ∀ stage ∈ d.pipeline.stages,
      Pipeline.Deaf (d.circumstances (history.toOption.getD [])) stage := by
    rw [standard]
    exact Pipeline.standardDeaf s mission
  obtain ⟨lines, grown⟩ := @Pipeline.runRelogged d.pipeline.marker _ _ deaf d.narrative
  refine ⟨d.finish history, lines, ((Fault.of? history).map Fault.message).toList ++
    (d.pipeline.run (d.circumstances (history.toOption.getD [])) d.narrative).warnings, ?_⟩
  intro log warnings
  unfold finish
  dsimp only [circumstancesRestated]
  rw [Pipeline.run, grown, List.append_assoc]
  rfl

end Draft

def History.refusals : History → List String
  | .refusing _ true => [(Fault.history "write refused").message]
  | _ => []

structure Report.Restated (line message : String) (failed plain : Report) : Prop where
  status : failed.status = plain.status
  bestId : failed.bestId = plain.bestId
  score : failed.score = plain.score
  metric : failed.metric = plain.metric
  vector : failed.vector = plain.vector
  trace : failed.trace = plain.trace
  intent : failed.intent = plain.intent
  growth : failed.growth = plain.growth
  auditLog : ∃ first rest, failed.auditLog = line :: rest ∧ plain.auditLog = first :: rest
  warnings : ∃ before after, failed.warnings = before ++ message :: after ∧ plain.warnings = before ++ after

theorem Report.Restated.record {line message : String} {failed plain : Report}
    (restated : failed.Restated line message plain) (time : Int) :
    failed.record? time = plain.record? time := by
  unfold Report.record?
  rw [restated.status, restated.bestId, restated.score, restated.intent, restated.growth]

namespace Engine

theorem keepReport (e : Engine) (moment : Moment) (report : Report) :
    (e.keep moment report).2 =
      { report with
        warnings := report.warnings ++ if report.status = .blocked then [] else e.history.refusals } := by
  unfold keep Report.record?
  by_cases blocked : report.status = .blocked
  · have left : (report.status == AnalysisStatus.blocked) = true := by rw [blocked]; rfl
    rw [if_pos left, if_pos blocked, List.append_nil]
  · cases e.history with
    | window w => simp [blocked, History.record, History.refusals]
    | archive a => simp [blocked, History.record, History.refusals]
    | refusing onRead onWrite =>
      cases onWrite <;> simp [blocked, History.record, History.refusals]

theorem keepHistory (e : Engine) (moment : Moment) (report : Report) :
    (e.keep moment report).1.history =
      ((report.record? moment.time).bind fun record =>
        (e.history.record moment.mark record).toOption).getD e.history := by
  unfold keep
  cases report.record? moment.time with
  | none => rfl
  | some record =>
    dsimp only [Option.bind_some]
    cases e.history.record moment.mark record <;> rfl

def asked? (e : Engine) (request : AnalysisRequest) : Option NarrationRequest :=
  Draft.asked? e.settings e.knowledge request

def plain (e : Engine) : Engine := { e with narrator := .mechanical }

theorem finishedRestated {e : Engine} {request : AnalysisRequest} {question : NarrationRequest}
    {fault : Fault} (asked : e.asked? request = some question)
    (fails : e.narrator.narrate question = .error fault) :
    ((e.start request).finish e.recent).Restated (failureLine e.narrator fault) fault.message
      ((e.plain.start request).finish e.plain.recent) := by
  obtain ⟨mechanical, failed⟩ := @Draft.startFailed _ e.pipeline _ _ _ _ _ asked fails
  obtain ⟨base, lines, later, told⟩ := Draft.finishRestated
    (Draft.startPipeline e.settings e.pipeline .mechanical e.knowledge request) e.recent
  have plainReport : (e.plain.start request).finish e.plain.recent =
      { base with
        auditLog := ("[narrator] " ++ Narrator.mechanical.name) :: lines
        warnings := (e.plain.start request).warnings ++ later } := by
    have here := told (e.plain.start request).narrative.auditLog (e.plain.start request).warnings
    change (e.plain.start request).finish e.plain.recent = _ at here
    rwa [show (e.plain.start request).narrative.auditLog = _ from mechanical] at here
  have failedReport : (e.start request).finish e.recent =
      { base with
        auditLog := failureLine e.narrator fault :: lines
        warnings := (e.plain.start request).warnings ++ fault.message :: later } := by
    have here := told [failureLine e.narrator fault] ((e.plain.start request).warnings ++ [fault.message])
    rw [List.append_assoc] at here
    rw [show e.start request = _ from failed]
    exact here
  rw [plainReport, failedReport]
  exact ⟨rfl, rfl, rfl, rfl, rfl, rfl, rfl, rfl, ⟨_, lines, rfl, rfl⟩, ⟨_, later, rfl, rfl⟩⟩

theorem keptRestated {e f : Engine} (history : e.history = f.history) {line message : String}
    {r q : Report} (restated : r.Restated line message q) (moment moment' : Moment) :
    (e.keep moment r).2.Restated line message (f.keep moment' q).2 := by
  obtain ⟨status, bestId, score, metric, vector, trace, intent, growth, auditLog, before, after, ours,
    theirs⟩ := restated
  have refused : (if r.status = .blocked then [] else e.history.refusals) =
      if q.status = .blocked then [] else f.history.refusals := by rw [status, history]
  rw [keepReport, keepReport, refused]
  refine ⟨status, bestId, score, metric, vector, trace, intent, growth, auditLog, before,
    after ++ if q.status = .blocked then [] else f.history.refusals, ?_, ?_⟩
  · simp only [ours, List.append_assoc, List.cons_append]
  · simp only [theirs, List.append_assoc]

theorem analyzeUnasked {e : Engine} {request : AnalysisRequest} (unasked : e.asked? request = none)
    (moment moment' : Moment) : (e.analyze moment request).2 = (e.plain.analyze moment' request).2 := by
  have same : e.start request = e.plain.start request := Draft.startUnasked unasked .mechanical
  have drafted : (e.start request).finish e.recent = (e.plain.start request).finish e.plain.recent := by
    rw [same]
    rfl
  unfold analyze
  rw [keepReport, keepReport, drafted]
  rfl

theorem sameKept {e f : Engine} (history : e.history = f.history) {moment : Moment} {r q : Report}
    (same : ∀ time, r.record? time = q.record? time) :
    (e.keep moment r).1.history = (f.keep moment q).1.history := by
  rw [keepHistory, keepHistory, same, history]

/-- A narrator that fails is stood in for by the mechanical one; without a match neither is asked. -/
theorem failureRestated (e : Engine) (request : AnalysisRequest) (moment moment' : Moment) :
    (∀ question fault, e.asked? request = some question → e.narrator.narrate question = .error fault →
      (e.analyze moment request).2.Restated (failureLine e.narrator fault) fault.message
        (e.plain.analyze moment' request).2 ∧
      (∀ time, (e.analyze moment request).2.record? time =
        (e.plain.analyze moment' request).2.record? time) ∧
      (e.analyze moment request).1.history = (e.plain.analyze moment request).1.history) ∧
    (e.asked? request = none ↔ ∀ entry ∈ e.knowledge.library,
      Matcher.usable (e.reason request.outputs).vector entry = false) ∧
    (e.asked? request = none →
      (e.analyze moment request).2 = (e.plain.analyze moment' request).2) := by
  refine ⟨?_, Draft.askedNone, fun unasked => analyzeUnasked unasked moment moment'⟩
  intro question fault asked fails
  have finished := finishedRestated asked fails
  have restated := keptRestated (e := e) (f := e.plain) rfl finished moment moment'
  exact ⟨restated, restated.record, sameKept (e := e) (f := e.plain) rfl finished.record⟩

def mute : Engine :=
  { Service.hueEngine with narrator := ⟨"mute", fun _ => .error (.narrator "no voice")⟩ }

theorem muteRestated : ∃ question, mute.asked? Service.hueRequest = some question ∧
    mute.narrator.narrate question = .error (.narrator "no voice") ∧
    (mute.analyze ⟨1, "a"⟩ Service.hueRequest).2.Restated (failureLine mute.narrator (.narrator "no voice"))
      (Fault.narrator "no voice").message (mute.plain.analyze ⟨2, "b"⟩ Service.hueRequest).2 := by
  have restated := (failureRestated mute Service.hueRequest ⟨1, "a"⟩ ⟨2, "b"⟩).1 _ _ rfl rfl
  exact ⟨_, rfl, rfl, restated.1⟩

end Engine

end ConceptSpace

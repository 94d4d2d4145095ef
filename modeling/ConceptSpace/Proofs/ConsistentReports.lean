import ConceptSpace.Proofs.Fallback
import ConceptSpace.Proofs.RaisedSlots
import ConceptSpace.Proofs.Session

/-! What the parts of a report say about each other.
Whether there is a best match is settled by the library, and whether the texts are published by the
pipeline. The status tells both at once, but the match of a report looks at the best match alone: a report
that is blocked over its match still gives it away. -/
namespace ConceptSpace

-- What is reasoned has the length of the registry.
def Knowledge.Comparable (k : Knowledge) : Prop :=
  ∃ entry ∈ k.library, entry.vector.length = k.registry.size ∧ ∀ x ∈ entry.vector, x.isFinite = true

-- A report beside what it comes from: whether anything can be compared, and what the pipeline left.
structure Report.Consistent (r : Report) (comparable : Prop) (piped : PipelineResult) : Prop where
  best : r.bestId.isSome = true ↔ comparable
  unscored : r.bestId = none → r.score = 0
  blocked : r.status = .blocked ↔ piped.isBlocked = true
  matched : r.status = .matched ↔ piped.isBlocked = false ∧ r.bestId.isSome = true
  noMatch : r.status = .noMatch ↔ piped.isBlocked = false ∧ r.bestId = none
  carried : ∀ m, r.match? = some m → r.bestId = some m.bestId ∧ r.score = m.score ∧
    r.metric = m.metric ∧ r.vector = m.vector ∧ r.trace = m.trace

theorem Knowledge.comparableIff (reasoner : Reasoner) (k : Knowledge) (outputs : List ExtractorOutput) :
    Matcher.comparable (ReasonedVector.ofOutputs reasoner k outputs).vector k.library ≠ [] ↔
      k.Comparable := by
  rw [Matcher.comparableSome]
  unfold Matcher.Fits Comparable
  rw [ReasonedVector.reasonedLength]

namespace Draft

variable (settings : Settings) (pipeline : PipelineSettings) (narrator : Narrator) (knowledge : Knowledge)
  (request : AnalysisRequest)

theorem startBest :
    (start settings pipeline narrator knowledge request).bestId.isSome = true ↔ knowledge.Comparable := by
  rw [← Knowledge.comparableIff settings.reasoner knowledge request.outputs]
  unfold start
  dsimp only
  split
  · rename_i best found
    refine iff_of_true rfl fun none => ?_
    rw [Matcher.bestNone _ none] at found
    cases found
  · rename_i fault found
    refine iff_of_false Bool.false_ne_true fun some => ?_
    obtain ⟨best, ranked⟩ := Matcher.bestSome
      (matcher settings knowledge.registry (request.metric.getD settings.metric)) some
    rw [ranked] at found
    cases found

theorem startUnscored (none : (start settings pipeline narrator knowledge request).bestId = none) :
    (start settings pipeline narrator knowledge request).score = 0 := by
  revert none
  unfold start
  dsimp only
  split
  · intro none
    cases none
  · intro _
    rfl

theorem statusIff {d : Draft} {piped : PipelineResult} :
    (d.status piped = .blocked ↔ piped.isBlocked = true) ∧
    (d.status piped = .matched ↔ piped.isBlocked = false ∧ d.bestId.isSome = true) ∧
    (d.status piped = .noMatch ↔ piped.isBlocked = false ∧ d.bestId = none) := by
  unfold status
  cases piped.isBlocked with
  | true => simp
  | false => cases d.bestId <;> simp

end Draft

theorem Report.matchIff (r : Report) : r.match?.isSome = true ↔ r.bestId.isSome = true := by
  rw [match?, Option.isSome_map]

theorem Report.matchCarried {r : Report} {m : MatchResult} (told : r.match? = some m) :
    r.bestId = some m.bestId ∧ r.score = m.score ∧ r.metric = m.metric ∧ r.vector = m.vector ∧
      r.trace = m.trace := by
  obtain ⟨id, best, rfl⟩ := Option.map_eq_some_iff.mp told
  exact ⟨best, rfl, rfl, rfl, rfl⟩

namespace Engine

def piped (e : Engine) (request : AnalysisRequest) : PipelineResult :=
  (Pipeline.standard e.pipeline e.knowledge.mission).run
    ((e.start request).circumstances (e.recent.toOption.getD [])) (e.start request).narrative

theorem forbiddenBlocked (e : Engine) (request : AnalysisRequest)
    (found : (Redactor.ofTerms e.pipeline.ethicsTerms).findMatches (e.start request).narrative.intent ≠ []) :
    (e.piped request).isBlocked = true := by
  rw [PipelineResult.isBlocked, bne_iff_ne]
  intro passed
  exact (Pipeline.standardPasses.mp passed).1 (Pipeline.ethicsStops.mpr (.inl found))

theorem analyzeConsistent (e : Engine) (moment : Moment) (request : AnalysisRequest) :
    (e.analyze moment request).2.Consistent e.knowledge.Comparable (e.piped request) := by
  obtain ⟨blocked, matched, noMatch⟩ := @Draft.statusIff (e.start request) (e.piped request)
  rw [piped, ← startPipeline] at *
  rw [analyze, keepReport]
  refine ⟨?_, ?_, blocked, matched, noMatch, fun _ => Report.matchCarried⟩
  · exact Draft.startBest e.settings e.pipeline e.narrator e.knowledge request
  · exact Draft.startUnscored e.settings e.pipeline e.narrator e.knowledge request

/-- The best match, its score and the status fit the library and the pipeline. A report has a match to tell
exactly when it counts as matched, unless the pipeline blocks it although something can be compared. -/
theorem reportConsistent (e : Engine) (moment : Moment) (request : AnalysisRequest) :
    (e.analyze moment request).2.Consistent e.knowledge.Comparable (e.piped request) ∧
    (((e.analyze moment request).2.match?.isSome = true ↔ (e.analyze moment request).2.status = .matched) ↔
      ¬ ((e.piped request).isBlocked = true ∧ e.knowledge.Comparable)) := by
  have consistent := e.analyzeConsistent moment request
  refine ⟨consistent, ?_⟩
  rw [Report.matchIff, consistent.matched, consistent.best]
  cases (e.piped request).isBlocked with
  | true => simp
  | false => simp

open Service in
-- Its one concept has a forbidden name.
def armed : Engine :=
  { hueEngine with knowledge := { hueEngine.knowledge with library := [⟨"weapon", [1], none⟩] } }

open Service in
theorem armedTold : (armed.analyze ⟨1, "a"⟩ hueRequest).2.status = .blocked ∧
    (armed.analyze ⟨1, "a"⟩ hueRequest).2.bestId = some "weapon" ∧
    ¬ ((armed.analyze ⟨1, "a"⟩ hueRequest).2.match?.isSome = true ↔
      (armed.analyze ⟨1, "a"⟩ hueRequest).2.status = .matched) := by
  have intent : (armed.start hueRequest).narrative.intent = "Match score 1.000. Best match " ++
      "'weapon' under cosine similarity (score 1.000). Observed: hue (eye)." := by decide +kernel
  have hits : (Redactor.ofTerms defaultEthicsTerms).findMatches ("Match score 1.000. Best match " ++
      "'weapon' under cosine similarity (score 1.000). Observed: hue (eye).") ≠ [] := by
    cbv
    exact List.cons_ne_nil _ _
  have barred := armed.forbiddenBlocked hueRequest (by rw [intent]; exact hits)
  have blocked := (armed.analyzeConsistent ⟨1, "a"⟩ hueRequest).blocked.mpr barred
  have found : (armed.start hueRequest).bestId = some "weapon" := by decide +kernel
  have best : (armed.analyze ⟨1, "a"⟩ hueRequest).2.bestId = some "weapon" := by
    rw [analyze, keepReport]
    exact found
  refine ⟨blocked, best, ?_⟩
  rw [Report.match?, best, blocked]
  decide

end Engine

end ConceptSpace

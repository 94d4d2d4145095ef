import ConceptSpace.Proofs.BestMatch
import ConceptSpace.Proofs.Session

/-! What a history in memory holds after a session: the unblocked past, as far as the window reaches.
A blocked request leaves no trace, and no report looks at the time of a record. -/
namespace ConceptSpace

def Answer.unblocked (a : Answer) : Bool := a.report.status != .blocked

def Answer.record (a : Answer) : NarrativeRecord :=
  ⟨a.moment.time, a.report.bestId, a.report.score, a.report.intent, a.report.growth⟩

def remembered (width : Nat) (answers : List Answer) : List NarrativeRecord :=
  ((answers.filter Answer.unblocked).reverse.take width).map Answer.record

theorem recordOnly (a : Answer) :
    a.report.record? a.moment.time = if a.unblocked then some a.record else none := by
  unfold Report.record? Answer.unblocked
  cases a.report.status <;> rfl

theorem takeNewest {α : Type} (x : α) (xs : List α) (n : Nat) :
    (x :: xs.take n).take n = (x :: xs).take n := by
  cases n with
  | zero => rfl
  | succ n => rw [List.take_succ_cons, List.take_succ_cons, List.take_take, Nat.min_eq_left n.le_succ]

theorem Window.recordNewest (w : Window) (r : NarrativeRecord) :
    (w.record r).entries.reverse = (r :: w.entries.reverse).take w.capacity := by
  have all : (w.entries ++ [r]).reverse = r :: w.entries.reverse := by simp
  have kept : (w.entries ++ [r]).length - ((w.entries ++ [r]).length - w.capacity) =
      min w.capacity (r :: w.entries.reverse).length := by
    simp only [List.length_append, List.length_cons, List.length_nil, List.length_reverse]
    omega
  rw [Window.record, List.reverse_drop, all, kept, ← List.take_eq_take_min]

def Window.after (w : Window) (a : Answer) : Window := if a.unblocked then w.record a.record else w

namespace Engine

theorem windowKeep {e : Engine} {w : Window} (kept : e.history = .window w) (a : Answer) :
    e.keep a.moment a.report =
      ({ e with history := .window (w.after a) }, a.report) := by
  unfold keep Window.after
  rw [recordOnly]
  cases a.unblocked with
  | false => simp [← kept]
  | true => simp [kept, History.record]

theorem windowAnalyze {e : Engine} {w : Window} (kept : e.history = .window w) (moment : Moment)
    (request : AnalysisRequest) :
    (e.analyze moment request).2 =
        (e.start request).finish (.ok (w.recent e.settings.historyWindow)) ∧
      (e.analyze moment request).1 =
        { e with history := .window (w.after ⟨moment, (e.analyze moment request).2⟩) } := by
  have kept' := windowKeep kept ⟨moment, (e.start request).finish e.recent⟩
  have answered : (e.analyze moment request).2 = (e.start request).finish e.recent :=
    congrArg Prod.snd kept'
  have read : e.recent = .ok (w.recent e.settings.historyWindow) := by
    rw [recent, kept, History.recent]
  constructor
  · rw [answered, read]
  · rw [answered]
    exact congrArg Prod.fst kept'

structure Remembers (e : Engine) (answers : List Answer) (s : Engine) : Prop where
  settings : s.settings = e.settings
  window : ∃ w, s.history = .window w ∧ w.capacity = e.settings.effectiveCapacity ∧
    w.entries.reverse =
      (((answers.filter Answer.unblocked).map Answer.record).reverse).take e.settings.effectiveCapacity

theorem actRemembers {e s : Engine} {answers : List Answer} (kept : e.Remembers answers s)
    (moment : Moment) (action : Action) :
    e.Remembers (answers ++ ((s.act moment action).2.map (Answer.mk moment)).toList)
      (s.act moment action).1 := by
  obtain ⟨settings, w, window, capacity, newest⟩ := kept
  refine ⟨(s.actMade moment action).settings.trans settings, ?_⟩
  cases action with
  | analyze request =>
    have next := (windowAnalyze window moment request).2
    simp only [act, Option.map_some, Option.toList_some, List.filter_append, List.filter_singleton]
    rw [next]
    refine ⟨_, rfl, ?_⟩
    unfold Window.after
    cases (Answer.mk moment (s.analyze moment request).2).unblocked with
    | false =>
      refine ⟨capacity, ?_⟩
      simpa using newest
    | true =>
      refine ⟨capacity, ?_⟩
      rw [if_pos rfl, Window.recordNewest, newest, capacity, takeNewest]
      simp
  | reload files =>
    refine ⟨w, ?_, capacity, by simpa [act] using newest⟩
    rw [act]
    cases ok : s.reload files with
    | error fault => exact window
    | ok reloaded =>
      obtain ⟨_, _, _, rfl⟩ := reloadedOnly ok
      exact window
  | publish knowledge => exact ⟨w, window, capacity, by simpa [act] using newest⟩
  | employ narrator => exact ⟨w, window, capacity, by simpa [act] using newest⟩

theorem sessionRemembers {e s : Engine} {answers : List Answer} (kept : e.Remembers answers s)
    (actions : List (Moment × Action)) :
    e.Remembers (answers ++ (s.session actions).2) (s.session actions).1 := by
  induction actions generalizing s answers with
  | nil => simpa [session] using kept
  | cons first rest ih =>
    have later := ih (actRemembers kept first.1 first.2)
    rwa [List.append_assoc] at later

theorem remembersRecent {e s : Engine} {answers : List Answer} (kept : e.Remembers answers s) :
    s.recent = .ok (remembered e.settings.historyWindow answers) := by
  obtain ⟨settings, w, window, _, newest⟩ := kept
  have reach : e.settings.historyWindow ≤ e.settings.effectiveCapacity := by
    unfold Settings.effectiveCapacity
    omega
  rw [recent, window, History.recent, settings, Window.recent, newest, List.take_take,
    Nat.min_eq_left reach, ← List.map_reverse, ← List.map_take, remembered]

theorem blockedKeeps {e : Engine} {w : Window} (kept : e.history = .window w) {moment : Moment}
    {request : AnalysisRequest} (blocked : (e.analyze moment request).2.status = .blocked) :
    (e.analyze moment request).1 = e := by
  have next := (windowAnalyze kept moment request).2
  rw [Window.after, Answer.unblocked, blocked] at next
  simpa [← kept] using next

end Engine

/-! Records that differ in their times alone. -/

def NarrativeRecord.undated (r : NarrativeRecord) : NarrativeRecord := { r with recordedAt := 0 }

def SameUndated (h h' : List NarrativeRecord) : Prop :=
  h.map NarrativeRecord.undated = h'.map NarrativeRecord.undated

theorem SameUndated.map {h h' : List NarrativeRecord} (same : SameUndated h h') {β : Type}
    {f : NarrativeRecord → β} (blind : ∀ r, f r.undated = f r) : h.map f = h'.map f := by
  have through (l : List NarrativeRecord) : l.map f = (l.map NarrativeRecord.undated).map f := by
    simp [blind]
  rw [through h, same, ← through h']

theorem SameUndated.take {h h' : List NarrativeRecord} (same : SameUndated h h') (n : Nat) :
    SameUndated (h.reverse.take n) (h'.reverse.take n) := by
  unfold SameUndated at *
  rw [List.map_take, List.map_take, List.map_reverse, List.map_reverse, same]

namespace Pipeline
variable {c : Circumstances} {h h' : List NarrativeRecord}

theorem growthUndated (same : SameUndated h h') (novelty : Float) (n : Narrative) :
    (growthTracker novelty).apply { c with history := h } n =
      (growthTracker novelty).apply { c with history := h' } n := by
  have empty : h.isEmpty = h'.isEmpty := by simpa using congrArg List.isEmpty same
  have likeness := same.map (f := fun r => Text.similarity n.growth r.growth) fun _ => rfl
  simp only [growthTracker, empty, likeness]

theorem anomalyUndated (same : SameUndated h h') (threshold : Float) (samples : Nat) (n : Narrative) :
    (anomalyMonitor threshold samples).apply { c with history := h } n =
      (anomalyMonitor threshold samples).apply { c with history := h' } n := by
  have count : h.length = h'.length := by simpa using congrArg List.length same
  have lengths :=
    same.map (f := fun r => Float.ofNat (r.intent.length + r.growth.length)) fun _ => rfl
  have likeness := same.map (f := fun r => Text.similarity r.intent r.growth) fun _ => rfl
  simp only [anomalyMonitor, count, lengths, likeness]

theorem standardUndated (same : SameUndated h h') (s : PipelineSettings)
    (mission : Option MissionProfile) (n : Narrative) :
    (standard s mission).run { c with history := h } n =
      (standard s mission).run { c with history := h' } n := by
  apply blindRun
  intro stage listed m
  rw [standardSplit, List.mem_append] at listed
  rcases listed with text | memory
  · exact textStagesBlind s mission h h' stage text m
  · simp only [memoryStages, List.mem_cons, List.not_mem_nil, or_false] at memory
    rcases memory with rfl | rfl
    · exact growthUndated same _ m
    · exact anomalyUndated same _ _ m

end Pipeline

theorem Draft.finishUndated {d : Draft} {s : PipelineSettings} {mission : Option MissionProfile}
    (standard : d.pipeline = .standard s mission) {h h' : List NarrativeRecord} (same : SameUndated h h') :
    d.finish (.ok h) = d.finish (.ok h') := by
  have result : d.pipeline.run (d.circumstances h) d.narrative =
      d.pipeline.run (d.circumstances h') d.narrative := by
    rw [standard]
    exact Pipeline.standardUndated (c := d.circumstances []) same s mission d.narrative
  simp only [finish, Except.toOption, Option.getD_some, result, Fault.of?]

theorem Draft.finishBlocked {d : Draft} {h : List NarrativeRecord} {name : String}
    (ended : (d.pipeline.run (d.circumstances h) d.narrative).status = .blocked name) :
    (d.finish (.ok h)).status = .blocked := by
  have blocked : (d.pipeline.run (d.circumstances h) d.narrative).isBlocked = true := by
    rw [PipelineResult.isBlocked, ended]
    rfl
  simp only [finish, Except.toOption, Option.getD_some, status, blocked, if_true]

theorem Draft.finishUnmatched {d : Draft} {h : List NarrativeRecord}
    (passed : (d.pipeline.run (d.circumstances h) d.narrative).status = .passed) (none : d.bestId = none) :
    (d.finish (.ok h)).status = .noMatch := by
  have unblocked : (d.pipeline.run (d.circumstances h) d.narrative).isBlocked = false := by
    rw [PipelineResult.isBlocked, passed]
    rfl
  simp only [finish, Except.toOption, Option.getD_some, status, unblocked, none]
  rfl

namespace Engine

structure Twins (e f : Engine) : Prop where
  made : e.Configured f
  knowledge : e.knowledge = f.knowledge
  windows : ∃ w v, e.history = .window w ∧ f.history = .window v ∧ w.capacity = v.capacity ∧
    SameUndated w.entries v.entries

theorem Twins.start {e f : Engine} (twins : e.Twins f) (request : AnalysisRequest) :
    e.start request = f.start request := by
  rw [twins.made.start, twins.knowledge]
  rfl

theorem afterUndated {w v : Window} (capacity : w.capacity = v.capacity)
    (same : SameUndated w.entries v.entries) {a b : Answer} (alike : a.report = b.report) :
    (w.after a).capacity = (v.after b).capacity ∧
      SameUndated (w.after a).entries (v.after b).entries := by
  have judged : a.unblocked = b.unblocked := by rw [Answer.unblocked, alike, Answer.unblocked]
  unfold Window.after
  rw [judged]
  cases b.unblocked with
  | false => exact ⟨capacity, same⟩
  | true =>
    have record : a.record.undated = b.record.undated := by
      simp only [Answer.record, NarrativeRecord.undated, alike]
    have length : w.entries.length = v.entries.length := by simpa using congrArg List.length same
    refine ⟨capacity, ?_⟩
    unfold SameUndated at *
    simp [Window.record, List.map_drop, same, record, length, capacity]

theorem actTwins {e f : Engine} (twins : e.Twins f) (moment moment' : Moment) (action : Action) :
    (e.act moment action).1.Twins (f.act moment' action).1 ∧
      (e.act moment action).2 = (f.act moment' action).2 := by
  obtain ⟨made, knowledge, w, v, windowE, windowF, capacity, same⟩ := id twins
  cases action with
  | analyze request =>
    obtain ⟨reportE, nextE⟩ := windowAnalyze windowE moment request
    obtain ⟨reportF, nextF⟩ := windowAnalyze windowF moment' request
    have alike : (e.analyze moment request).2 = (f.analyze moment' request).2 := by
      rw [reportE, reportF, twins.start, made.settings]
      exact Draft.finishUndated (Draft.startPipeline _ _ _ _ _) (same.take _)
    obtain ⟨capacities, entries⟩ := afterUndated capacity same
      (a := ⟨moment, (e.analyze moment request).2⟩) (b := ⟨moment', (f.analyze moment' request).2⟩) alike
    refine ⟨?_, congrArg some alike⟩
    simp only [act]
    rw [nextE, nextF]
    exact ⟨⟨made.settings, made.pipeline, made.narrator⟩, knowledge, _, _, rfl, rfl, capacities, entries⟩
  | reload files =>
    refine ⟨?_, rfl⟩
    simp only [act, reload, made.settings]
    cases Knowledge.load files f.settings.paths with
    | error fault => exact twins
    | ok content =>
      exact ⟨⟨rfl, made.pipeline, made.narrator⟩, rfl, w, v, windowE, windowF, capacity, same⟩
  | publish published =>
    exact ⟨⟨⟨made.settings, made.pipeline, made.narrator⟩, rfl, w, v, windowE, windowF, capacity, same⟩, rfl⟩
  | employ narrator =>
    exact ⟨⟨⟨made.settings, made.pipeline, rfl⟩, knowledge, w, v, windowE, windowF, capacity, same⟩, rfl⟩

theorem answerReports (moment : Moment) (report : Option Report) :
    (report.map (Answer.mk moment)).toList.map Answer.report = report.toList := by
  cases report <;> rfl

theorem sessionTwins {e f : Engine} (twins : e.Twins f) {xs ys : List (Moment × Action)}
    (same : xs.map Prod.snd = ys.map Prod.snd) :
    (e.session xs).1.Twins (f.session ys).1 ∧
      (e.session xs).2.map Answer.report = (f.session ys).2.map Answer.report := by
  induction xs generalizing e f ys with
  | nil =>
    cases ys with
    | nil => exact ⟨twins, rfl⟩
    | cons y ys => cases same
  | cons x xs ih =>
    cases ys with
    | nil => cases same
    | cons y ys =>
      obtain ⟨moment, action⟩ := x
      obtain ⟨moment', action'⟩ := y
      obtain ⟨rfl, rest⟩ := List.cons.inj same
      obtain ⟨next, answered⟩ := actTwins twins moment moment' action
      obtain ⟨last, answers⟩ := ih next rest
      refine ⟨last, ?_⟩
      simp only [session, List.map_append, answers, answerReports, answered]

theorem unstockedTold {e : Engine} (unstocked : e.knowledge.library = []) (request : AnalysisRequest) :
    (e.start request).bestId = none ∧
      (e.start request).narrative.intent = "No match: the library holds no comparable vector." := by
  unfold start Draft.start
  dsimp only
  rw [unstocked, Matcher.bestNone _ rfl]
  exact ⟨rfl, rfl⟩

theorem unstockedBlocked {e : Engine} {w : Window} (kept : e.history = .window w)
    (unstocked : e.knowledge.library = []) (hushed : e.pipeline.ethicsTerms = ["library"])
    (moment : Moment) (request : AnalysisRequest) : (e.analyze moment request).2.status = .blocked := by
  have found : (Redactor.ofTerms ["library"]).findMatches
      "No match: the library holds no comparable vector." ≠ [] := by
    cbv
    exact List.cons_ne_nil _ _
  have stops (c : Circumstances) :
      Pipeline.Stops c (ethicsFilter e.pipeline.ethicsTerms) (e.start request).narrative := by
    rw [Pipeline.ethicsStops, hushed, (unstockedTold unstocked request).2]
    exact .inl found
  rw [(windowAnalyze kept moment request).1]
  apply Draft.finishBlocked
  rw [startPipeline]
  exact Pipeline.runStops (stops _)

theorem unstockedUnmatched {e : Engine} {w : Window} (kept : e.history = .window w)
    (unstocked : e.knowledge.library = []) (unguarded : e.knowledge.mission = none)
    (unhushed : e.pipeline.ethicsTerms = []) (moment : Moment) (request : AnalysisRequest) :
    (e.analyze moment request).2.status = .noMatch := by
  have idle (text : String) : (Redactor.ofTerms []).findMatches text = [] :=
    Pipeline.idleFindsNothing rfl text
  rw [(windowAnalyze kept moment request).1]
  apply Draft.finishUnmatched _ (unstockedTold unstocked request).1
  rw [startPipeline, Pipeline.standardPasses, Pipeline.ethicsStops, Pipeline.gatekeeperStops, unguarded, unhushed]
  simp [idle]

/-- What an analysis is shown is the unblocked past, newest first, as far as the window reaches. A blocked
request can be left out of a session, whatever the times of the other actions then are. -/
theorem historyIsUnblockedPast {e : Engine}
    (fresh : e.history = .window (.ofCapacity e.settings.effectiveCapacity))
    (past : List (Moment × Action)) (moment : Moment) (request : AnalysisRequest) :
    (e.session past).1.recent = .ok (remembered e.settings.historyWindow (e.session past).2) ∧
    ((e.session past).1.analyze moment request).2 = ((e.session past).1.start request).finish
      (.ok (remembered e.settings.historyWindow (e.session past).2)) ∧
    (((e.session past).1.analyze moment request).2.status = .blocked →
      ∀ later past' later' : List (Moment × Action), past'.map Prod.snd = past.map Prod.snd →
        later'.map Prod.snd = later.map Prod.snd →
        (e.session (past' ++ later')).2.map Answer.report =
          ((e.session (past ++ (moment, .analyze request) :: later)).2.map Answer.report).eraseIdx
            (e.session past).2.length) := by
  have start : e.Remembers [] e := ⟨rfl, _, fresh, by simp [Window.ofCapacity, Settings.effectiveCapacity], by
    simp [Window.ofCapacity]⟩
  have kept := sessionRemembers start past
  rw [List.nil_append] at kept
  have recent := remembersRecent kept
  obtain ⟨_, w, window, _⟩ := id kept
  refine ⟨recent, ?_, ?_⟩
  · have answered := (windowAnalyze window moment request).1
    rw [Engine.recent, window, History.recent] at recent
    rw [answered, ← recent]
  · intro blocked later past' later' samePast sameLater
    have twins : e.Twins e := ⟨⟨rfl, rfl, rfl⟩, rfl, _, _, fresh, fresh, rfl, rfl⟩
    obtain ⟨reached, before⟩ := sessionTwins twins samePast
    obtain ⟨_, after⟩ := sessionTwins reached sameLater
    have stays := blockedKeeps window blocked
    simp only [sessionAppend, session, act, stays, List.map_append, before, after]
    rw [List.eraseIdx_append_of_length_le (by simp)]
    simp

open Service in
def hushed : Engine :=
  .ofKnowledge .empty { pipeline := { ethicsTerms := ["library"] } } { hueEngine.knowledge with library := [] }

def stuck (time : Int) : List (Moment × Action) := [(⟨time, "a"⟩, .reload .empty)]

open Service in
def mended (time : Int) : List (Moment × Action) :=
  [(⟨time, "b"⟩, .publish hueEngine.knowledge), (⟨time, "c"⟩, .analyze hueRequest)]

open Service in
theorem hushedForgets :
    hushed.history = .window (.ofCapacity hushed.settings.effectiveCapacity) ∧
    ((hushed.session (stuck 1)).1.analyze ⟨2, "d"⟩ hueRequest).2.status = .blocked ∧
    (hushed.session (stuck 5 ++ mended 6)).2.map Answer.report =
      ((hushed.session (stuck 1 ++ (⟨2, "d"⟩, .analyze hueRequest) :: mended 3)).2.map
        Answer.report).eraseIdx 0 := by
  have blocked : ((hushed.session (stuck 1)).1.analyze ⟨2, "d"⟩ hueRequest).2.status = .blocked :=
    unstockedBlocked rfl rfl rfl _ _
  exact ⟨rfl, blocked,
    (historyIsUnblockedPast rfl (stuck 1) ⟨2, "d"⟩ hueRequest).2.2 blocked (mended 3) (stuck 5) (mended 6) rfl rfl⟩

end Engine

end ConceptSpace

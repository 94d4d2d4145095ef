import Mathlib.Logic.Function.Basic
import ConceptSpace.Engine
import ConceptSpace.Proofs.HistoryBlind

/-! Requests that share an engine.
A request starts, reads the history and is finished, each in a step of its own. In between other
requests take their steps, knowledge is published, and the store of the history is changed by others
or fails. Narration belongs to the start: a narrator sees nothing but its request. -/
namespace ConceptSpace

inductive Progress where
  | started (draft : Draft)
  | informed (draft : Draft) (history : Except Fault (List NarrativeRecord))
  | answered (report : Report)

inductive Event where
  | start (id : Nat) (request : AnalysisRequest)
  -- A failure is one that the store itself knows nothing of, such as a task that was cut short.
  | read (id : Nat) (failure : Option Fault)
  | finish (id : Nat) (moment : Moment) (failure : Option Fault)
  | publish (knowledge : Knowledge)
  | disturb (history : History)

def Event.published (knowledge : Knowledge) : Event → Knowledge
  | .publish next => next
  | _ => knowledge

namespace Engine

def consult (e : Engine) : Option Fault → Except Fault (List NarrativeRecord)
  | none => e.recent
  | some fault => .error fault

def deliver (e : Engine) (moment : Moment) (report : Report) : Option Fault → Engine × Report
  | none => e.keep moment report
  | some fault =>
    if (report.record? moment.time).isSome then
      (e, { report with warnings := report.warnings ++ [fault.message] })
    else (e, report)

structure Configured (e f : Engine) : Prop where
  settings : e.settings = f.settings
  pipeline : e.pipeline = f.pipeline
  narrator : e.narrator = f.narrator

theorem Configured.trans {e f g : Engine} (first : e.Configured f) (second : f.Configured g) :
    e.Configured g :=
  ⟨first.settings.trans second.settings, first.pipeline.trans second.pipeline,
    first.narrator.trans second.narrator⟩

theorem Configured.start {e f : Engine} (same : e.Configured f) (request : AnalysisRequest) :
    e.start request = Draft.start f.settings f.pipeline f.narrator e.knowledge request := by
  unfold Engine.start
  rw [same.settings, same.pipeline, same.narrator]

theorem keepOnly (e : Engine) (moment : Moment) (report : Report) :
    (e.keep moment report).1.Configured e ∧ (e.keep moment report).1.knowledge = e.knowledge ∧
      ∃ warnings, (e.keep moment report).2 = { report with warnings } := by
  unfold keep
  split
  · exact ⟨⟨rfl, rfl, rfl⟩, rfl, _, rfl⟩
  · split
    · exact ⟨⟨rfl, rfl, rfl⟩, rfl, _, rfl⟩
    · exact ⟨⟨rfl, rfl, rfl⟩, rfl, _, rfl⟩

theorem deliverOnly (e : Engine) (moment : Moment) (report : Report) (failure : Option Fault) :
    (e.deliver moment report failure).1.Configured e ∧
      (e.deliver moment report failure).1.knowledge = e.knowledge ∧
      ∃ warnings, (e.deliver moment report failure).2 = { report with warnings } := by
  cases failure with
  | none => exact keepOnly e moment report
  | some fault =>
    unfold deliver
    dsimp only
    split
    · exact ⟨⟨rfl, rfl, rfl⟩, rfl, _, rfl⟩
    · exact ⟨⟨rfl, rfl, rfl⟩, rfl, _, rfl⟩

end Engine

def Progress.Of (d : Draft) : Progress → Prop
  | .started draft => draft = d
  | .informed draft _ => draft = d
  | .answered report => ∃ history warnings, report = { d.finish history with warnings }

structure Service where
  engine : Engine
  progress : Nat → Option Progress

namespace Service

def idle (engine : Engine) : Service := ⟨engine, fun _ => none⟩

def advance (s : Service) (engine : Engine) (id : Nat) (p : Progress) : Service :=
  ⟨engine, Function.update s.progress id (some p)⟩

def step (s : Service) : Event → Option Service
  | .start id request =>
    match s.progress id with
    | none => some (s.advance s.engine id (.started (s.engine.start request)))
    | some _ => none
  | .read id failure =>
    match s.progress id with
    | some (.started draft) => some (s.advance s.engine id (.informed draft (s.engine.consult failure)))
    | _ => none
  | .finish id moment failure =>
    match s.progress id with
    | some (.informed draft history) =>
      let delivered := s.engine.deliver moment (draft.finish history) failure
      some (s.advance delivered.1 id (.answered delivered.2))
    | _ => none
  | .publish knowledge => some { s with engine := s.engine.publish knowledge }
  | .disturb history => some { s with engine := { s.engine with history } }

def run (s : Service) (events : List Event) : Option Service := events.foldlM step s

theorem runCons {s t : Service} {event : Event} {rest : List Event} :
    s.run (event :: rest) = some t ↔ ∃ next, s.step event = some next ∧ next.run rest = some t := by
  unfold run
  rw [List.foldlM_cons]
  exact Option.bind_eq_some_iff

theorem runAppend {s t : Service} {before after : List Event} :
    s.run (before ++ after) = some t ↔ ∃ mid, s.run before = some mid ∧ mid.run after = some t := by
  unfold run
  rw [List.foldlM_append]
  exact Option.bind_eq_some_iff

inductive Moves (engine : Engine) (event : Event) (id : Nat) : Option Progress → Option Progress → Prop
  | rest (p : Option Progress) : Moves engine event id p p
  | start (request : AnalysisRequest) (own : event = .start id request) :
    Moves engine event id none (some (.started (engine.start request)))
  | goes {p q : Progress} (same : ∀ d, p.Of d → q.Of d) : Moves engine event id (some p) (some q)

theorem advanceMoves {s : Service} {engine : Engine} {event : Event} {id : Nat} {p : Progress}
    (own : Moves s.engine event id (s.progress id) (some p)) (other : Nat) :
    Moves s.engine event other (s.progress other) ((s.advance engine id p).progress other) := by
  unfold advance
  dsimp only
  by_cases same : other = id
  · subst same
    rw [Function.update_self]
    exact own
  · rw [Function.update_of_ne same]
    exact .rest _

theorem stepOnly {s t : Service} {event : Event} (taken : s.step event = some t) :
    t.engine.Configured s.engine ∧ t.engine.knowledge = event.published s.engine.knowledge ∧
      ∀ id, Moves s.engine event id (s.progress id) (t.progress id) := by
  cases event with
  | start id request =>
    simp only [step] at taken
    split at taken <;> try contradiction
    rename_i free
    cases Option.some.inj taken
    exact ⟨⟨rfl, rfl, rfl⟩, rfl, advanceMoves (free ▸ .start request rfl)⟩
  | read id failure =>
    simp only [step] at taken
    split at taken <;> try contradiction
    rename_i draft here
    cases Option.some.inj taken
    exact ⟨⟨rfl, rfl, rfl⟩, rfl, advanceMoves (here ▸ .goes fun _ own => own)⟩
  | finish id moment failure =>
    simp only [step] at taken
    split at taken <;> try contradiction
    rename_i draft history here
    cases Option.some.inj taken
    obtain ⟨configured, knowledge, warnings, answer⟩ :=
      s.engine.deliverOnly moment (draft.finish history) failure
    refine ⟨configured, knowledge, advanceMoves (here ▸ .goes ?_)⟩
    intro d own
    cases own
    exact ⟨history, warnings, answer⟩
  | publish knowledge =>
    cases Option.some.inj taken
    exact ⟨⟨rfl, rfl, rfl⟩, rfl, fun _ => .rest _⟩
  | disturb history =>
    cases Option.some.inj taken
    exact ⟨⟨rfl, rfl, rfl⟩, rfl, fun _ => .rest _⟩

theorem runEngine {s t : Service} {events : List Event} (ran : s.run events = some t) :
    t.engine.Configured s.engine ∧
      t.engine.knowledge = events.foldl Event.published s.engine.knowledge := by
  induction events generalizing s with
  | nil =>
    cases Option.some.inj ran
    exact ⟨⟨rfl, rfl, rfl⟩, rfl⟩
  | cons event rest ih =>
    obtain ⟨next, taken, later⟩ := runCons.mp ran
    obtain ⟨configured, knowledge, _⟩ := stepOnly taken
    obtain ⟨configuredLater, knowledgeLater⟩ := ih later
    exact ⟨configuredLater.trans configured, by rw [knowledgeLater, knowledge, List.foldl_cons]⟩

theorem runKeeps {s t : Service} {events : List Event} (ran : s.run events = some t)
    {id : Nat} {p : Progress} (here : s.progress id = some p) {d : Draft} (own : p.Of d) :
    ∃ q, t.progress id = some q ∧ q.Of d := by
  induction events generalizing s p with
  | nil =>
    cases Option.some.inj ran
    exact ⟨p, here, own⟩
  | cons event rest ih =>
    obtain ⟨next, taken, later⟩ := runCons.mp ran
    have moves := (stepOnly taken).2.2 id
    rw [here] at moves
    cases arrived : next.progress id with
    | none =>
      rw [arrived] at moves
      cases moves
    | some q =>
      rw [arrived] at moves
      cases moves with
      | rest => exact ih later arrived own
      | goes same => exact ih later arrived (same d own)

theorem runStarted {s t : Service} {events : List Event} (ran : s.run events = some t)
    {id : Nat} {q : Progress} (arrived : t.progress id = some q) (fresh : s.progress id = none) :
    ∃ before request after, events = before ++ .start id request :: after := by
  induction events generalizing s with
  | nil =>
    cases Option.some.inj ran
    rw [fresh] at arrived
    cases arrived
  | cons event rest ih =>
    obtain ⟨next, taken, later⟩ := runCons.mp ran
    have moves := (stepOnly taken).2.2 id
    rw [fresh] at moves
    cases there : next.progress id with
    | none =>
      obtain ⟨before, request, after, split⟩ := ih later there
      exact ⟨event :: before, request, after, by rw [split, List.cons_append]⟩
    | some p =>
      rw [there] at moves
      cases moves with
      | start request own => exact ⟨[], request, rest, by rw [own, List.nil_append]⟩

end Service

def Began (e : Engine) (events : List Event) (id : Nat) (request : AnalysisRequest)
    (knowledge : Knowledge) : Prop :=
  ∃ before after, events = before ++ .start id request :: after ∧
    before.foldl Event.published e.knowledge = knowledge

def Answers (e : Engine) (request : AnalysisRequest) (knowledge : Knowledge) (r : Report) : Prop :=
  ∃ history warnings, r =
    { (Draft.start e.settings e.pipeline e.narrator knowledge request).finish history with warnings }

namespace Service

theorem undisturbed (e : Engine) (moment : Moment) (request : AnalysisRequest) (id : Nat) :
    (idle e).run [.start id request, .read id none, .finish id moment none] =
      some ((idle e).advance (e.analyze moment request).1 id (.answered (e.analyze moment request).2)) := by
  simp only [run, List.foldlM_cons, List.foldlM_nil, step, idle, advance, Function.update_self,
    Function.update_idem, Option.bind_eq_bind, Option.bind_some]
  rfl

theorem beganDraft {e : Engine} {events : List Event} {id : Nat} {request : AnalysisRequest}
    {knowledge : Knowledge} {s : Service} (ran : (idle e).run events = some s)
    (began : Began e events id request knowledge) :
    ∃ p, s.progress id = some p ∧ p.Of (Draft.start e.settings e.pipeline e.narrator knowledge request) := by
  obtain ⟨before, after, split, current⟩ := began
  subst split
  obtain ⟨mid, early, rest⟩ := runAppend.mp ran
  obtain ⟨next, taken, late⟩ := runCons.mp rest
  obtain ⟨configured, knowledge⟩ := runEngine early
  have started : next.progress id = some (.started (mid.engine.start request)) := by
    simp only [step] at taken
    split at taken <;> try contradiction
    cases Option.some.inj taken
    exact Function.update_self _ _ _
  apply runKeeps late started
  change mid.engine.start request = _
  rw [configured.start, knowledge, ← current]
  rfl

theorem answeredFrom {e : Engine} {events : List Event} {id : Nat} {request : AnalysisRequest}
    {knowledge : Knowledge} {r : Report} {s : Service} (ran : (idle e).run events = some s)
    (answered : s.progress id = some (.answered r)) (began : Began e events id request knowledge) :
    Answers e request knowledge r := by
  obtain ⟨p, here, own⟩ := beganDraft ran began
  rw [answered] at here
  cases Option.some.inj here
  exact own

theorem answeredBegan {e : Engine} {events : List Event} {id : Nat} {r : Report} {s : Service}
    (ran : (idle e).run events = some s) (answered : s.progress id = some (.answered r)) :
    ∃ request knowledge, Began e events id request knowledge ∧ Answers e request knowledge r := by
  obtain ⟨before, request, after, split⟩ := runStarted ran answered rfl
  have began : Began e events id request (before.foldl Event.published e.knowledge) :=
    ⟨before, after, split, rfl⟩
  exact ⟨request, _, began, answeredFrom ran answered began⟩

/-- Answers to one request agree, whatever else went on around them: all that counts is how the engine
was made and which knowledge was in use when the request started. -/
theorem answersAgree {e f : Engine} (same : e.Configured f) {events others : List Event} {s t : Service}
    (ran : (idle e).run events = some s) (ranOther : (idle f).run others = some t)
    {id other : Nat} {r q : Report} (answered : s.progress id = some (.answered r))
    (answeredOther : t.progress other = some (.answered q)) :
    (∃ request knowledge, Began e events id request knowledge ∧ Answers e request knowledge r) ∧
    (∃ request knowledge, Began f others other request knowledge ∧ Answers f request knowledge q) ∧
    ∀ request knowledge, Began e events id request knowledge →
      Began f others other request knowledge → r.Alike q := by
  refine ⟨answeredBegan ran answered, answeredBegan ranOther answeredOther, ?_⟩
  intro request knowledge began beganOther
  obtain ⟨h, warnings, rfl⟩ := answeredFrom ran answered began
  obtain ⟨h', warnings', rfl⟩ := answeredFrom ranOther answeredOther beganOther
  -- Both were finished from one draft, under whatever history each of them was given.
  rw [same.settings, same.pipeline, same.narrator]
  obtain ⟨status, bestId, score, metric, vector, trace, intent, growth, auditLog⟩ :=
    Draft.finishAlike (Draft.startPipeline f.settings f.pipeline f.narrator knowledge request) h h'
  exact ⟨status, bestId, score, metric, vector, trace, intent, growth, auditLog⟩

def hueEngine : Engine where
  settings := {}
  pipeline := {}
  knowledge :=
    { registry := ⟨[⟨"hue", "Hue", defaultLayer, none, 1⟩], [none], [], rfl⟩
      graph := .empty
      library := [⟨"sky", [1], none⟩] }
  narrator := .mechanical
  history := .window (.ofCapacity 5)
  warnings := []

def hueRequest : AnalysisRequest where
  outputs := [⟨"eye", (∅ : Std.TreeMap String Float).insert "hue" 1⟩]

def crowded : List Event := [
  .start 0 hueRequest, .start 1 { outputs := [] }, .read 1 none, .finish 1 ⟨7, "b"⟩ none,
  .publish { hueEngine.knowledge with library := [] }, .read 0 none,
  .finish 0 ⟨8, "a"⟩ (some (.history "disk full"))]

def lone : List Event := [
  .start 5 hueRequest, .read 5 (some (.history "disk failed")), .finish 5 ⟨9, "c"⟩ none]

theorem crowdedAgrees : ∃ s t r q, (idle hueEngine).run crowded = some s ∧
    (idle hueEngine).run lone = some t ∧ s.progress 0 = some (.answered r) ∧
    t.progress 5 = some (.answered q) ∧ r.Alike q := by
  have same : hueEngine.Configured hueEngine := ⟨rfl, rfl, rfl⟩
  have began : Began hueEngine crowded 0 hueRequest hueEngine.knowledge := ⟨[], _, rfl, rfl⟩
  have beganLone : Began hueEngine lone 5 hueRequest hueEngine.knowledge := ⟨[], _, rfl, rfl⟩
  refine ⟨_, _, _, _, rfl, rfl, rfl, rfl, ?_⟩
  exact (answersAgree same rfl rfl rfl rfl).2.2 _ _ began beganLone

end Service

end ConceptSpace

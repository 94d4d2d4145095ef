import ConceptSpace.Proofs.Interleaving
import ConceptSpace.Proofs.Outcomes

/-! Sessions: one engine, and what is asked of it, one thing after another.
Settings stay as they are, and so do the terms that were gathered when the engine was made. -/
namespace ConceptSpace

inductive Action where
  | analyze (request : AnalysisRequest)
  | reload (files : FileTree)
  | publish (knowledge : Knowledge)
  -- One whose answers change is another narrator from then on.
  | employ (narrator : Narrator)

structure Answer where
  moment : Moment
  report : Report

namespace Engine

def act (e : Engine) (moment : Moment) : Action → Engine × Option Report
  | .analyze request => ((e.analyze moment request).1, some (e.analyze moment request).2)
  | .reload files => ((e.reload files).toOption.getD e, none)
  | .publish knowledge => (e.publish knowledge, none)
  | .employ narrator => ({ e with narrator }, none)

def session (e : Engine) : List (Moment × Action) → Engine × List Answer
  | [] => (e, [])
  | (moment, action) :: rest =>
    let acted := e.act moment action
    let later := acted.1.session rest
    (later.1, (acted.2.map (Answer.mk moment)).toList ++ later.2)

theorem startPipeline (e : Engine) (request : AnalysisRequest) :
    (e.start request).pipeline = .standard e.pipeline e.knowledge.mission :=
  Draft.startPipeline _ _ _ _ _

theorem sessionAppend (e : Engine) (before after : List (Moment × Action)) :
    e.session (before ++ after) = (((e.session before).1.session after).1,
      (e.session before).2 ++ ((e.session before).1.session after).2) := by
  induction before generalizing e with
  | nil => rfl
  | cons first rest ih =>
    obtain ⟨moment, action⟩ := first
    simp only [List.cons_append, session, ih, List.append_assoc]

theorem reloadedOnly {e reloaded : Engine} {files : FileTree} (ok : e.reload files = .ok reloaded) :
    ∃ knowledge warnings, Knowledge.load files e.settings.paths = .ok (knowledge, warnings) ∧
      reloaded = { e with knowledge, warnings } := by
  obtain ⟨content, loaded, made⟩ := bindOk ok
  cases made
  exact ⟨_, _, loaded, rfl⟩

structure Made (e f : Engine) : Prop where
  settings : e.settings = f.settings
  pipeline : e.pipeline = f.pipeline

theorem actMade (e : Engine) (moment : Moment) (action : Action) : (e.act moment action).1.Made e := by
  cases action with
  | analyze request =>
    have kept := (e.keepOnly moment ((e.start request).finish e.recent)).1
    exact ⟨kept.settings, kept.pipeline⟩
  | reload files =>
    rw [act]
    cases ok : e.reload files with
    | error fault => exact ⟨rfl, rfl⟩
    | ok reloaded =>
      obtain ⟨_, _, _, rfl⟩ := reloadedOnly ok
      exact ⟨rfl, rfl⟩
  | publish knowledge => exact ⟨rfl, rfl⟩
  | employ narrator => exact ⟨rfl, rfl⟩

theorem sessionMade (e : Engine) (actions : List (Moment × Action)) : (e.session actions).1.Made e := by
  induction actions generalizing e with
  | nil => exact ⟨rfl, rfl⟩
  | cons first rest ih =>
    have later := ih (e.act first.1 first.2).1
    have now := e.actMade first.1 first.2
    exact ⟨later.settings.trans now.settings, later.pipeline.trans now.pipeline⟩

end Engine

end ConceptSpace

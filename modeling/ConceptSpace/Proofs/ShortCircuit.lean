import Mathlib.Order.Nat
import Mathlib.Data.List.Forall2
import ConceptSpace.Proofs.StageRun

/-! The first block that counts ends a run.
Up to it each stage works on what the one before left and writes its line; what would come after it
has no part in the result. -/
namespace ConceptSpace.Pipeline

def arriving (c : Circumstances) (stages : List Stage) (n : Narrative) (k : Nat) : Narrative :=
  (stages.take k).foldl (after c) n

def Clear (c : Circumstances) (stages : List Stage) (n : Narrative) : Prop :=
  ∀ k stage, stages[k]? = some stage → ¬ Stops c stage (arriving c stages n k)

def warned (c : Circumstances) (stages : List Stage) (n : Narrative) : List String :=
  stages.zipIdx.filterMap fun placed =>
    warning? placed.1 (placed.1.apply c (arriving c stages n placed.2)).2

def Logged (stages : List Stage) (before log : List String) : Prop :=
  ∃ lines, log = before ++ lines ∧ List.Forall₂ (fun stage line => Tagged stage.name line) stages lines

variable {marker : String} {c : Circumstances} {n : Narrative} {stage : Stage} {rest : List Stage}

theorem clearCons :
    Clear c (stage :: rest) n ↔ ¬ Stops c stage n ∧ Clear c rest (after c n stage) := by
  constructor
  · intro clear
    exact ⟨clear 0 stage rfl, fun k => clear (k + 1)⟩
  · intro clear k
    cases k with
    | zero =>
      intro s here
      cases Option.some.inj here
      exact clear.1
    | succ k => exact clear.2 k

theorem warnedCons : warned c (stage :: rest) n =
    (warning? stage (stage.apply c n).2).toList ++ warned c rest (after c n stage) := by
  unfold warned
  rw [List.zipIdx_cons, List.zipIdx_succ, List.filterMap_cons, List.filterMap_map]
  have here : arriving c (stage :: rest) n 0 = n := rfl
  have later : ∀ k, arriving c (stage :: rest) n (k + 1) = arriving c rest (after c n stage) k :=
    fun _ => rfl
  simp only [Function.comp_def, here, later]
  cases warning? stage (stage.apply c n).2 with
  | none => rfl
  | some warning => rfl

theorem clearRun (marker : String) {first : List Stage} (clear : Clear c first n) (rest : List Stage) :
    runStages marker c (first ++ rest) n =
      { runStages marker c rest (first.foldl (after c) n) with
        warnings := warned c first n ++ (runStages marker c rest (first.foldl (after c) n)).warnings } := by
  induction first generalizing n with
  | nil => rfl
  | cons stage first ih =>
    obtain ⟨goes, later⟩ := clearCons.mp clear
    rw [List.cons_append, goesOn goes, ih later, warnedCons, List.append_assoc, List.foldl_cons]

theorem clearLogged {stages : List Stage}
    (silent : ∀ stage ∈ stages, ∀ m, (stage.apply c m).1.auditLog = m.auditLog)
    (n : Narrative) : Logged stages n.auditLog (stages.foldl (after c) n).auditLog := by
  induction stages generalizing n with
  | nil => exact ⟨[], by simp, .nil⟩
  | cons stage rest ih =>
    obtain ⟨lines, log, tagged⟩ :=
      ih (fun s mem => silent s (List.mem_cons_of_mem _ mem)) (after c n stage)
    have one : (after c n stage).auditLog =
        n.auditLog ++ [entry stage (stage.apply c n).2] := by
      rw [after, Narrative.log, silent stage List.mem_cons_self]
    refine ⟨entry stage (stage.apply c n).2 :: lines, ?_, .cons (entryTagged _ _) tagged⟩
    rw [List.foldl_cons, log, one, List.append_assoc, List.singleton_append]

structure StopsFirst (c : Circumstances) (stages : List Stage) (n : Narrative) (k : Nat) (stage : Stage) :
    Prop where
  here : stages[k]? = some stage
  stops : Stops c stage (arriving c stages n k)
  clear : Clear c (stages.take k) n

theorem arrivingTake {stages : List Stage} {j k : Nat} (early : j ≤ k) :
    arriving c (stages.take k) n j = arriving c stages n j := by
  rw [arriving, arriving, List.take_take, Nat.min_eq_left early]

theorem stopsSomewhere {stages : List Stage} (unclear : ¬ Clear c stages n) :
    ∃ k stage, StopsFirst c stages n k stage := by
  classical
  have some : ∃ k, ∃ stage, stages[k]? = some stage ∧ Stops c stage (arriving c stages n k) := by
    simpa [Clear] using unclear
  obtain ⟨stage, here, stops⟩ := Nat.find_spec some
  refine ⟨Nat.find some, stage, here, stops, ?_⟩
  intro j earlier listed stopped
  rw [List.getElem?_take] at listed
  split at listed <;> try contradiction
  rename_i early
  rw [arrivingTake early.le] at stopped
  exact Nat.find_min some early ⟨earlier, listed, stopped⟩

theorem warnedLast {first : List Stage} : warned c (first ++ [stage]) n =
    warned c first n ++ (warning? stage (stage.apply c (first.foldl (after c) n)).2).toList := by
  induction first generalizing n with
  | nil => exact warnedCons.trans (List.append_nil _)
  | cons s first ih => rw [List.cons_append, warnedCons, ih, warnedCons, List.append_assoc, List.foldl_cons]

theorem loggedLast {first : List Stage} {before log : List String} {line : String}
    (logged : Logged first before log) (tagged : Tagged stage.name line) :
    Logged (first ++ [stage]) before (log ++ [line]) := by
  obtain ⟨lines, rfl, all⟩ := logged
  exact ⟨lines ++ [line], List.append_assoc _ _ _, List.rel_append all (.cons tagged .nil)⟩

theorem upTo {stages : List Stage} {k : Nat} (here : stages[k]? = some stage) :
    stages.take (k + 1) = stages.take k ++ [stage] := by
  rw [List.take_add_one, here, Option.toList_some]

theorem stoppedRun {stages : List Stage} {k : Nat} (first : StopsFirst c stages n k stage) :
    ∃ line, Tagged stage.name line ∧ ∀ later,
      runStages marker c (stages.take (k + 1) ++ later) n =
        ⟨(redacted marker (stage.apply c (arriving c stages n k)).1).log line, .blocked stage.name,
          warned c (stages.take (k + 1)) n⟩ := by
  obtain ⟨reason, blocks, ends⟩ := @endsHere marker c stage _ first.stops
  refine ⟨_, ⟨"BLOCKED: " ++ reason, String.append_assoc⟩, fun later => ?_⟩
  have unwarned : warned c (stages.take (k + 1)) n = warned c (stages.take k) n := by
    have quiet : warning? stage (stage.apply c ((stages.take k).foldl (after c) n)).2 = none :=
      congrArg (warning? stage) blocks
    rw [upTo first.here, warnedLast, quiet, Option.toList_none, List.append_nil]
  rw [unwarned, upTo first.here, List.append_assoc, List.singleton_append, clearRun marker first.clear]
  rw [arriving] at ends
  rw [ends, List.append_nil]
  rfl

/-- A run goes on to the first stage that may block and blocks the narrative that comes to it. Without
one it is the work of all stages; with one nothing after it counts. -/
theorem runShortCircuits (p : Pipeline) (c : Circumstances) (n : Narrative)
    (silent : ∀ stage ∈ p.stages, ∀ m, (stage.apply c m).1.auditLog = m.auditLog) :
    (Clear c p.stages n →
      (p.run c n).status = .passed ∧
      (p.run c n).narrative.intent = (arriving c p.stages n p.stages.length).intent ∧
      (p.run c n).narrative.growth = (arriving c p.stages n p.stages.length).growth ∧
      Logged p.stages n.auditLog (p.run c n).narrative.auditLog ∧
      (p.run c n).warnings = warned c p.stages n) ∧
    (¬ Clear c p.stages n → ∃ k stage, StopsFirst c p.stages n k stage ∧
      (p.run c n).status = .blocked stage.name ∧
      (p.run c n).narrative.intent = p.marker ∧
      (p.run c n).narrative.growth = p.marker ∧
      Logged (p.stages.take (k + 1)) n.auditLog (p.run c n).narrative.auditLog ∧
      (p.run c n).warnings = warned c (p.stages.take (k + 1)) n ∧
      ∀ later, { p with stages := p.stages.take (k + 1) ++ later }.run c n = p.run c n) := by
  constructor
  · intro clear
    have whole : p.run c n = ⟨p.stages.foldl (after c) n, .passed, warned c p.stages n⟩ := by
      have through := clearRun p.marker clear []
      rw [List.append_nil] at through
      rw [run, through, runStages, List.append_nil]
    rw [whole, arriving, List.take_length]
    exact ⟨rfl, rfl, rfl, clearLogged silent n, rfl⟩
  · intro unclear
    obtain ⟨k, stage, first⟩ := stopsSomewhere unclear
    obtain ⟨line, tagged, ends⟩ := @stoppedRun p.marker _ _ _ _ _ first
    have here : p.run c n = ⟨(redacted p.marker (stage.apply c (arriving c p.stages n k)).1).log line,
        .blocked stage.name, warned c (p.stages.take (k + 1)) n⟩ := by
      have cut := ends (p.stages.drop (k + 1))
      rwa [List.take_append_drop] at cut
    have logged : Logged (p.stages.take k) n.auditLog (arriving c p.stages n k).auditLog :=
      clearLogged (fun s mem => silent s (List.mem_of_mem_take mem)) n
    have kept := silent stage (List.mem_of_getElem? first.here) (arriving c p.stages n k)
    refine ⟨k, stage, first, ?_⟩
    rw [here]
    refine ⟨rfl, rfl, rfl, ?_, rfl, ends⟩
    rw [upTo first.here, Narrative.log, redacted, kept]
    exact loggedLast logged tagged

def calm : Circumstances where
  bestId := none
  score := 0
  metric := .cosine
  provenance := ∅
  trace := []
  layerActivity := ∅
  history := []

def drill : Pipeline where
  marker := "[hidden]"
  stages := [
    { name := "adviser", apply := fun _ n => ({ n with intent := n.intent ++ "!" }, .block "too quiet") },
    { name := "critic", apply := fun _ n => (n, .warn "short") },
    { name := "guard", isBlocking := true, apply := fun _ n =>
        (n, if n.intent = "hush!" then .block "too loud" else .pass "calm") },
    { name := "closer", apply := fun _ n => ({ n with growth := "" }, .pass "closed") }]

theorem drillStops :
    (∀ stage ∈ drill.stages, ∀ m, (stage.apply calm m).1.auditLog = m.auditLog) ∧
    ¬ Clear calm drill.stages ⟨"hush", "", []⟩ ∧
    (drill.run calm ⟨"hush", "", []⟩).status = .blocked "guard" ∧
    (drill.run calm ⟨"hush", "", []⟩).warnings = ["critic: short"] ∧
    ∃ k stage, StopsFirst calm drill.stages ⟨"hush", "", []⟩ k stage ∧
      (drill.run calm ⟨"hush", "", []⟩).narrative.intent = "[hidden]" ∧
      Logged (drill.stages.take (k + 1)) [] (drill.run calm ⟨"hush", "", []⟩).narrative.auditLog := by
  have silent : ∀ stage ∈ drill.stages, ∀ m, (stage.apply calm m).1.auditLog = m.auditLog := by
    simp [drill]
  have unclear : ¬ Clear calm drill.stages ⟨"hush", "", []⟩ := by
    intro clear
    exact clear 2 _ rfl ⟨rfl, "too loud", rfl⟩
  obtain ⟨k, stage, first, _, intent, _, logged, _⟩ :=
    (runShortCircuits drill calm ⟨"hush", "", []⟩ silent).2 unclear
  exact ⟨silent, unclear, rfl, rfl, k, stage, first, intent, logged⟩

end ConceptSpace.Pipeline

import ConceptSpace.Proofs.Derivation
import ConceptSpace.Proofs.RaisedSlots

/-! The trace explains what reasoning makes of the observations.
A concept is true because a slot of it was observed above the threshold, or because the trace has it; a
slot was raised only where the trace has its dimension. -/
namespace ConceptSpace

namespace Context

theorem memTruthsJoin {c : Context} {id x : String} {value : Bool} :
    x ∈ (c.join id value).truths ↔ x ∈ c.truths ∨ id = x ∧ value = true := by
  rw [memTruths, memTruths, holds, join, Std.TreeMap.getD_insert]
  by_cases same : id = x
  · simp [same, holds]
  · simp [same, holds]

theorem memTruthsProject {threshold : Float} {registry : Registry} {v : FeatureVector} {id : String} :
    id ∈ (project threshold registry v).truths ↔
      ∃ slot ∈ registry.dimensions.zip v, slot.1.id = id ∧ threshold < slot.2 := by
  have joined : ∀ (slots : List (Dimension × Float)) (c : Context),
      id ∈ (slots.foldl (fun c slot => c.join slot.1.id (threshold < slot.2)) c).truths ↔
        id ∈ c.truths ∨ ∃ slot ∈ slots, slot.1.id = id ∧ threshold < slot.2 := by
    intro slots
    induction slots with
    | nil => simp
    | cons slot slots ih =>
      intro c
      rw [List.foldl_cons, ih, memTruthsJoin, or_assoc]
      simp
  have empty : id ∉ (∅ : Context).truths := by simp [memTruths, holds]
  rw [project, joined]
  exact or_iff_right empty

end Context

namespace Sweep

def logged (pass : Nat) (context : Context) (d : Dimension) (value : Option Float) : List TraceEntry :=
  if d.formula.any (·.evaluate context.holds) ∧
      (!context.holds d.id || value.any (· == 0)) = true then [entry pass d]
  else []

variable {pass : Nat} {context : Context}

theorem sweptContext (d : Dimension) (rest : List Dimension) (values : FeatureVector) :
    (run pass (d :: rest) context values).context =
      (run pass rest (seen context d) values.tail).context := by
  rw [run, seen]
  split
  · rfl
  · rfl

theorem sweptTrace (d : Dimension) (rest : List Dimension) (values : FeatureVector) :
    (run pass (d :: rest) context values).trace =
      logged pass context d values.head? ++ (run pass rest (seen context d) values.tail).trace := by
  rw [run, seen, logged]
  by_cases formula : d.formula.any (·.evaluate context.holds) = true
  · simp only [formula, if_true, true_and]
    split
    · rfl
    · rfl
  · simp [formula]

theorem seenLogged (pass : Nat) (d : Dimension) (value : Option Float) {id : String} :
    id ∈ (seen context d).truths ↔
      id ∈ context.truths ∨ ∃ e ∈ logged pass context d value, e.fact = id := by
  rw [seen, logged]
  by_cases formula : d.formula.any (·.evaluate context.holds) = true
  · rw [if_pos formula, Context.memTruthsAssert]
    by_cases log : (!context.holds d.id || value.any (· == 0)) = true
    · rw [if_pos ⟨formula, log⟩]
      simp [entry, or_comm]
    · -- What is not logged was true before.
      have old : d.id ∈ context.truths := by
        simp only [Bool.or_eq_true, Bool.not_eq_true', not_or, Bool.not_eq_false] at log
        exact log.1
      rw [if_neg fun both => log both.2]
      constructor
      · intro true
        rcases true with rfl | true
        · exact .inl old
        · exact .inl true
      · intro true
        rcases true with true | ⟨_, none, _⟩
        · exact .inr true
        · cases none
  · simp [formula]

theorem sweptTruths {dimensions : List Dimension} {values : FeatureVector} {id : String} :
    id ∈ (run pass dimensions context values).context.truths ↔
      id ∈ context.truths ∨ ∃ e ∈ (run pass dimensions context values).trace, e.fact = id := by
  induction dimensions generalizing context values with
  | nil => simp [run]
  | cons d rest ih =>
    rw [sweptContext, sweptTrace, ih, seenLogged pass d values.head?, or_assoc]
    simp [or_and_right, exists_or]

theorem sweptPass {dimensions : List Dimension} {values : FeatureVector} :
    ∀ e ∈ (run pass dimensions context values).trace, e.pass = pass := by
  induction dimensions generalizing context values with
  | nil => simp [run]
  | cons d rest ih =>
    intro e mem
    rw [sweptTrace] at mem
    rcases List.mem_append.mp mem with here | later
    · rw [logged] at here
      split at here
      · rw [List.mem_singleton.mp here]
        rfl
      · cases here
    · exact ih e later

theorem sweptLogs {dimensions : List Dimension} {values : FeatureVector} {i : Nat} {d : Dimension}
    {x : Float} (slot : dimensions[i]? = some d) (value : values[i]? = some x)
    (formula : d.formula.any (·.evaluate (turn context dimensions i).holds) = true)
    (zero : (x == 0) = true) :
    ∃ e ∈ (run pass dimensions context values).trace, e.fact = d.id := by
  induction dimensions generalizing context values i with
  | nil => cases slot
  | cons e rest ih =>
    rw [sweptTrace]
    cases i with
    | zero =>
      cases slot
      rw [← List.head?_eq_getElem?] at value
      have here : entry pass d ∈ logged pass context d values.head? := by
        rw [logged, if_pos ⟨formula, by simp [value, zero]⟩]
        exact List.mem_singleton_self _
      exact ⟨_, List.mem_append_left _ here, rfl⟩
    | succ i =>
      have later : values.tail[i]? = some x := by rw [List.getElem?_tail, value]
      obtain ⟨entry, mem, fact⟩ := ih slot later formula
      exact ⟨entry, List.mem_append_right _ mem, fact⟩

end Sweep

namespace Reasoner

theorem chainWithin {World : Type} [WorldModel World] (r : Reasoner) (theory : TheoryOver World) (n left : Nat) (c : Context) :
    n ≤ (r.chain theory (n + 1) c left).passes ∧ ∀ e ∈ (r.chain theory (n + 1) c left).trace,
      e.pass ≤ (r.chain theory (n + 1) c left).passes := by
  induction left generalizing n c with
  | zero => simp [chain]
  | succ left ih =>
    by_cases idle : r.infer theory (n + 1) c = []
    · simp [chainStops idle]
    · rw [chainGoes idle]
      obtain ⟨least, within⟩ := ih (n + 1) (c.assertAll (r.infer theory (n + 1) c))
      refine ⟨(Nat.le_succ n).trans least, fun e logged => ?_⟩
      rcases List.mem_append.mp logged with here | later
      · exact (inferGrounded here).1.trans_le least
      · exact within e later

end Reasoner

namespace ReasonedVector

variable {World : Type} [WorldModel World] (reasoner : Reasoner) (knowledge : KnowledgeOver World)
  (outputs : List ExtractorOutput)

def swept : Sweep :=
  Sweep.run ((chaining reasoner knowledge outputs).passes + 1) knowledge.registry.dimensions
    (chaining reasoner knowledge outputs).context
    ((chaining reasoner knowledge outputs).applyTo knowledge.registry
      (MergedVector.ofOutputs knowledge.registry outputs).vector)

theorem reasonedTrace : (ofOutputs reasoner knowledge outputs).trace =
    (chaining reasoner knowledge outputs).trace ++ (swept reasoner knowledge outputs).trace := rfl

theorem chainingTruths {id : String} : id ∈ (chaining reasoner knowledge outputs).context.truths ↔
    id ∈ (Context.project reasoner.threshold knowledge.registry
      (ofOutputs reasoner knowledge outputs).raw).truths ∨
    ∃ e ∈ (chaining reasoner knowledge outputs).trace, e.fact = id := by
  have asserted := Reasoner.chainAsserts reasoner knowledge.theory 1 reasoner.cap
    (Context.project reasoner.threshold knowledge.registry (ofOutputs reasoner knowledge outputs).raw)
  exact (Iff.of_eq (congrArg (id ∈ Context.truths ·) asserted)).trans Context.memTruthsAssertAll

theorem reasonedTruths {id : String} : id ∈ (ofOutputs reasoner knowledge outputs).context.truths ↔
    id ∈ (Context.project reasoner.threshold knowledge.registry
      (ofOutputs reasoner knowledge outputs).raw).truths ∨
    ∃ e ∈ (ofOutputs reasoner knowledge outputs).trace, e.fact = id := by
  have final : (ofOutputs reasoner knowledge outputs).context =
      (swept reasoner knowledge outputs).context := rfl
  rw [final, reasonedTrace, swept, Sweep.sweptTruths, chainingTruths, or_assoc]
  simp only [List.mem_append, or_and_right, exists_or]

theorem reasonedPasses :
    (ofOutputs reasoner knowledge outputs).trace.Pairwise fun e d => e.pass ≤ d.pass := by
  rw [reasonedTrace]
  have within := (Reasoner.chainWithin reasoner knowledge.theory 0 reasoner.cap
    (Context.project reasoner.threshold knowledge.registry
      (ofOutputs reasoner knowledge outputs).raw)).2
  have ordered : (chaining reasoner knowledge outputs).trace.Pairwise
      (reasoner.Precedes knowledge.theory _) := Reasoner.chainOrdered (n := 0) rfl
  refine List.pairwise_append.mpr ⟨?_, ?_, ?_⟩
  · refine ordered.imp ?_
    intro e d precedes
    rcases precedes with earlier | ⟨together, _⟩
    · exact earlier.le
    · exact together.le
  · exact List.pairwise_of_forall_mem_list fun e memE d memD =>
      ((Sweep.sweptPass e memE).trans (Sweep.sweptPass d memD).symm).le
  · intro e logged d later
    rw [Sweep.sweptPass d later]
    exact Nat.le_succ_of_le (within e logged)

theorem observedIff {id : String} : id ∈ (Context.project reasoner.threshold knowledge.registry
      (ofOutputs reasoner knowledge outputs).raw).truths ↔
    ∃ (i : Fin knowledge.registry.dimensions.length) (x : Float),
      (knowledge.registry.dimensions.get i).id = id ∧
      (ofOutputs reasoner knowledge outputs).raw[i.val]? = some x ∧ reasoner.threshold < x := by
  rw [Context.memTruthsProject]
  constructor
  · intro observed
    obtain ⟨⟨d, x⟩, mem, name, above⟩ := observed
    obtain ⟨i, here⟩ := List.mem_iff_getElem?.mp mem
    obtain ⟨slot, value⟩ := List.getElem?_zip_eq_some.mp here
    obtain ⟨inside, rfl⟩ := List.getElem?_eq_some_iff.mp slot
    exact ⟨⟨i, inside⟩, x, name, value, above⟩
  · intro observed
    obtain ⟨i, x, name, value, above⟩ := observed
    have slot : knowledge.registry.dimensions[i.val]? = some (knowledge.registry.dimensions.get i) :=
      List.getElem?_eq_getElem i.isLt
    have here : (knowledge.registry.dimensions.zip (ofOutputs reasoner knowledge outputs).raw)[i.val]? =
        some (knowledge.registry.dimensions.get i, x) := List.getElem?_zip_eq_some.mpr ⟨slot, value⟩
    exact ⟨(knowledge.registry.dimensions.get i, x), List.mem_of_getElem? here, name, above⟩

theorem slotValues (i : Fin knowledge.registry.dimensions.length) : ∃ x y,
    (ofOutputs reasoner knowledge outputs).raw[i.val]? = some x ∧
      (ofOutputs reasoner knowledge outputs).vector[i.val]? = some y := by
  have rawLength : (ofOutputs reasoner knowledge outputs).raw.length = knowledge.registry.size :=
    MergedVector.mergedLength _ _
  have length := reasonedLength reasoner knowledge outputs
  have inside := i.isLt.trans_eq knowledge.registry.dimensionsLength
  exact ⟨_, _, List.getElem?_eq_getElem (inside.trans_eq rawLength.symm),
    List.getElem?_eq_getElem (inside.trans_eq length.symm)⟩

theorem raisedLogged {i : Nat} {d : Dimension} {x y : Float}
    (slot : knowledge.registry.dimensions[i]? = some d)
    (value : (ofOutputs reasoner knowledge outputs).raw[i]? = some x)
    (final : (ofOutputs reasoner knowledge outputs).vector[i]? = some y) (raised : y ≠ x) :
    ∃ e ∈ (ofOutputs reasoner knowledge outputs).trace, e.fact = d.id := by
  rw [reasonedTrace]
  by_cases inferred : ∃ e ∈ (chaining reasoner knowledge outputs).trace, e.fact = d.id
  · obtain ⟨e, mem, fact⟩ := inferred
    exact ⟨e, List.mem_append_left _ mem, fact⟩
  · obtain ⟨z, here, concludedRaises, unconcludedKeeps⟩ := reasonedAt reasoner knowledge outputs slot value
    cases Option.some.inj (here.symm.trans final)
    by_cases concluded : Concluded (chaining reasoner knowledge outputs) knowledge.registry i d
    · have zero : (x == 0) = true := by
        by_contra observed
        exact raised ((concludedRaises concluded).trans (if_neg observed))
      have formula := (concludedIff.mp concluded).resolve_left (by simpa using inferred)
      have kept := Outcome.appliedAt (chaining reasoner knowledge outputs) slot value
      rw [if_neg (by simpa using inferred)] at kept
      obtain ⟨e, mem, fact⟩ := Sweep.sweptLogs slot kept formula zero
      exact ⟨e, List.mem_append_right _ mem, fact⟩
    · exact absurd (unconcludedKeeps concluded) raised

/-- Nothing is true without an observation or a trace entry, no slot is raised without an entry, a slot
above the threshold names a true concept, and the trace goes on from pass to pass. -/
theorem traceExplains :
    (∀ id, id ∈ (ofOutputs reasoner knowledge outputs).context.truths ↔
      (∃ (i : Fin knowledge.registry.dimensions.length) (x : Float),
        (knowledge.registry.dimensions.get i).id = id ∧
        (ofOutputs reasoner knowledge outputs).raw[i.val]? = some x ∧ reasoner.threshold < x) ∨
      ∃ e ∈ (ofOutputs reasoner knowledge outputs).trace, e.fact = id) ∧
    (∀ i : Fin knowledge.registry.dimensions.length, ∃ x y,
      (ofOutputs reasoner knowledge outputs).raw[i.val]? = some x ∧
      (ofOutputs reasoner knowledge outputs).vector[i.val]? = some y ∧
      (y ≠ x → ∃ e ∈ (ofOutputs reasoner knowledge outputs).trace,
        e.fact = (knowledge.registry.dimensions.get i).id) ∧
      (reasoner.threshold < y →
        (knowledge.registry.dimensions.get i).id ∈ (ofOutputs reasoner knowledge outputs).context.truths)) ∧
    (ofOutputs reasoner knowledge outputs).trace.Pairwise fun e d => e.pass ≤ d.pass := by
  refine ⟨fun id => ?_, fun i => ?_, reasonedPasses reasoner knowledge outputs⟩
  · rw [reasonedTruths, observedIff]
  · obtain ⟨x, y, value, final⟩ := slotValues reasoner knowledge outputs i
    have slot : knowledge.registry.dimensions[i.val]? = some (knowledge.registry.dimensions.get i) :=
      List.getElem?_eq_getElem i.isLt
    have logged := raisedLogged reasoner knowledge outputs slot value final
    refine ⟨x, y, value, final, logged, fun above => ?_⟩
    rw [reasonedTruths, observedIff]
    by_cases kept : y = x
    · rw [kept] at above
      exact .inl ⟨i, x, rfl, value, above⟩
    · exact .inr (logged kept)

end ReasonedVector

end ConceptSpace

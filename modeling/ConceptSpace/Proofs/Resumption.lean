import ConceptSpace.Proofs.LeastModel

/-! Reasoning that was cut short goes on where it stopped.
What a pass asserts follows from the context alone; the number of the pass is only written into the trace.
So a run that the cap ended and a second run from the context it left are one run under both caps, and a run
that ended by itself leaves nothing to a second one. This holds for any world model. -/
namespace ConceptSpace

def TraceEntry.later (before : Nat) (e : TraceEntry) : TraceEntry := { e with pass := before + e.pass }

theorem Context.assertAllLater (c : Context) (before : Nat) (entries : List TraceEntry) :
    c.assertAll (entries.map (.later before)) = c.assertAll entries := by
  rw [assertAll, List.foldl_map]
  rfl

def Outcome.later (before : Nat) (o : Outcome) : Outcome :=
  { o with trace := o.trace.map (.later before), passes := before + o.passes }

namespace Reasoner

def capped (r : Reasoner) (maxPasses : Nat) : Reasoner := { r with maxPasses }

variable {World : Type} [WorldModel World] {r : Reasoner} {theory : TheoryOver World} {c : Context}

theorem inferLater (before pass : Nat) :
    r.infer theory (before + pass) c = (r.infer theory pass c).map (.later before) := by
  simp only [infer, List.map_append, List.map_map]
  rfl

theorem idleAnyPass {pass : Nat} (idle : r.infer theory pass c = []) (other : Nat) :
    r.infer theory other c = [] := by
  have first : r.infer theory 0 c = [] := by
    rw [← Nat.add_zero pass, inferLater, List.map_eq_nil_iff] at idle
    exact idle
  rw [← Nat.add_zero other, inferLater, first, List.map_nil]

theorem chainLater (before : Nat) {pass : Nat} (counted : pass ≠ 0) (left : Nat) :
    r.chain theory (before + pass) c left = (r.chain theory pass c left).later before := by
  induction left generalizing pass c with
  | zero =>
    have passes : before + pass - 1 = before + (pass - 1) := by omega
    rw [chain, chain, passes]
    rfl
  | succ left ih =>
    by_cases idle : r.infer theory pass c = []
    · rw [chainStops idle, chainStops (idleAnyPass idle _)]
      rfl
    · have busy : r.infer theory (before + pass) c ≠ [] := fun none => idle (idleAnyPass none _)
      rw [chainGoes idle, chainGoes busy, inferLater, Context.assertAllLater, Nat.add_assoc,
        ih (Nat.succ_ne_zero pass), Outcome.later, Outcome.later, List.map_append]

theorem chainGoesOn {pass n : Nat} (cut : (r.chain theory pass c n).limitExceeded = true) (m : Nat) :
    r.chain theory pass c (n + m) =
      { r.chain theory (n + pass) (r.chain theory pass c n).context m with
        trace := (r.chain theory pass c n).trace ++
          (r.chain theory (n + pass) (r.chain theory pass c n).context m).trace } := by
  induction n generalizing pass c with
  | zero => rw [Nat.zero_add, Nat.zero_add, chain, List.nil_append]
  | succ n ih =>
    by_cases idle : r.infer theory pass c = []
    · simp [chainStops idle] at cut
    · rw [chainGoes idle] at cut
      have further : n + 1 + m = n + m + 1 := by omega
      have number : n + 1 + pass = n + (pass + 1) := by omega
      rw [further, number, chainGoes idle, chainGoes idle, ih cut]
      simp only [List.append_assoc]

theorem chainLeavesNothing {pass left : Nat} (ended : (r.chain theory pass c left).limitExceeded = false)
    (other : Nat) : r.infer theory other (r.chain theory pass c left).context = [] := by
  induction left generalizing pass c with
  | zero => cases ended
  | succ left ih =>
    by_cases idle : r.infer theory pass c = []
    · rw [chainStops idle]
      exact idleAnyPass idle other
    · rw [chainGoes idle] at ended ⊢
      exact ih ended

theorem cappedChain (cap pass left : Nat) :
    (r.capped cap).chain theory pass c left = r.chain theory pass c left := by
  induction left generalizing pass c with
  | zero => rfl
  | succ left ih =>
    -- The cap is not among what a pass reads.
    have same : (r.capped cap).infer theory pass c = r.infer theory pass c := rfl
    by_cases idle : r.infer theory pass c = []
    · rw [chainStops idle, chainStops (same.trans idle)]
    · rw [chainGoes idle, chainGoes (same ▸ idle), same, ih]

theorem cappedRun {n : Nat} (positive : 1 ≤ n) : (r.capped n).run theory c = r.chain theory 1 c n := by
  have cap : (r.capped n).cap = n := Nat.max_eq_left positive
  rw [run, cap, cappedChain]

/-- A run that the cap `n` ended, gone on with under the cap `m`, is a run under the cap `n + m`; and a run that
found nothing more finds nothing when it is made again. -/
theorem runResumes (r : Reasoner) (theory : TheoryOver World) (start : Context) {n m : Nat} (some : 1 ≤ n)
    (more : 1 ≤ m) :
    let first := (r.capped n).run theory start
    let second := (r.capped m).run theory first.context
    (first.limitExceeded = true → (r.capped (n + m)).run theory start =
      ⟨second.context, first.trace ++ second.trace.map (.later n), n + second.passes,
        second.limitExceeded⟩) ∧
    (first.limitExceeded = false → second = ⟨first.context, [], 1, false⟩) := by
  intro first second
  have ranFirst : first = r.chain theory 1 start n := cappedRun some
  have ranSecond : second = r.chain theory 1 first.context m := cappedRun more
  constructor
  · intro cut
    rw [ranFirst] at cut
    have whole : (r.capped (n + m)).run theory start = r.chain theory 1 start (n + m) :=
      cappedRun (Nat.le_add_right_of_le some)
    rw [whole, chainGoesOn cut, ← ranFirst, chainLater n Nat.one_ne_zero, ← ranSecond]
    rfl
  · intro ended
    obtain ⟨left, rfl⟩ := Nat.exists_eq_add_of_le' more
    rw [ranFirst] at ended
    rw [ranSecond, ranFirst, chainStops (chainLeavesNothing ended 1)]

def coast : Theory where
  rulebase := .ofRules [⟨["moon"], "tide", none⟩, ⟨["wave"], "surf", none⟩]
  graph := ConceptGraph.empty.addIsA "tide" "wave"

def moonlit : Context := Context.assert ∅ "moon"

def usual : Reasoner := {}

theorem coastResumed :
    ((usual.capped 1).run coast moonlit).limitExceeded = true ∧
    (usual.capped (1 + 5)).run coast moonlit =
      (let first := (usual.capped 1).run coast moonlit
      let second := (usual.capped 5).run coast first.context
      ⟨second.context, first.trace ++ second.trace.map (.later 1), 1 + second.passes,
        second.limitExceeded⟩) ∧
    ((usual.capped (1 + 5)).run coast moonlit).trace.map TraceEntry.fact = ["tide", "wave", "surf"] ∧
    ((usual.capped (1 + 5)).run coast moonlit).limitExceeded = false ∧
    (usual.capped 2).run coast ((usual.capped (1 + 5)).run coast moonlit).context =
      ⟨((usual.capped (1 + 5)).run coast moonlit).context, [], 1, false⟩ := by
  have cut : ((usual.capped 1).run coast moonlit).limitExceeded = true := rfl
  have ended : ((usual.capped (1 + 5)).run coast moonlit).limitExceeded = false := rfl
  refine ⟨cut, (runResumes usual coast moonlit (by decide) (by decide)).1 cut, rfl, ended, ?_⟩
  exact (runResumes usual coast moonlit (by decide) (by decide)).2 ended

end Reasoner

end ConceptSpace

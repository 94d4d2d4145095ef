import ConceptSpace.Proofs.Derivation

/-! When a run reports that the cap on passes ended it.
It does so exactly if the last pass that the cap allows asserts something. Whatever is left to assert then
is reported, but so is a run whose last pass completed all that follows. -/
namespace ConceptSpace.Reasoner

variable {World : Type} [WorldModel World]

structure CompletedAtCap (r : Reasoner) (theory : TheoryOver World) (start : Context) : Prop where
  late : r.known theory start.truths r.cap ≠ r.known theory start.truths (r.cap - 1)
  complete : r.known theory start.truths (r.cap + 1) = r.known theory start.truths r.cap

variable {r : Reasoner} {theory : TheoryOver World}

theorem idleKnownIff {given : Set String} {c : Context} {n pass : Nat}
    (now : c.truths = r.known theory given n) :
    r.infer theory pass c = [] ↔ r.known theory given (n + 1) = r.known theory given n := by
  rw [idleFixed, knownNext, now]

theorem knownStays {given : Set String} {n : Nat} (passed : n ≠ 0)
    (fixed : r.known theory given n = r.known theory given (n - 1)) :
    r.known theory given (n + 1) = r.known theory given n := by
  obtain ⟨m, rfl⟩ := Nat.exists_eq_add_one_of_ne_zero passed
  rw [Nat.add_sub_cancel] at fixed
  rw [knownNext, fixed, ← knownNext, fixed]

theorem chainLimitIff {given : Set String} {c : Context} {n left : Nat}
    (now : c.truths = r.known theory given n) :
    (r.chain theory (n + 1) c (left + 1)).limitExceeded = true ↔
      r.known theory given (n + left + 1) ≠ r.known theory given (n + left) := by
  induction left generalizing n c with
  | zero =>
    by_cases idle : r.infer theory (n + 1) c = []
    · rw [chainStops idle]
      simp [(idleKnownIff now).mp idle]
    · rw [chainGoes idle]
      exact ⟨fun _ => mt (idleKnownIff now).mpr idle, fun _ => rfl⟩
  | succ left ih =>
    by_cases idle : r.infer theory (n + 1) c = []
    · have settled := idleKnown now idle
      rw [chainStops idle, Nat.add_assoc, settled, settled]
      simp
    · rw [chainGoes idle, ← Nat.add_assoc, Nat.add_right_comm n left 1]
      exact ih (passKnown (n + 1) now)

section
variable {start : Context}

theorem capPositive : r.cap ≠ 0 := Nat.ne_of_gt (le_max_right r.maxPasses 1)

theorem runLimitIff : (r.run theory start).limitExceeded = true ↔
    r.known theory start.truths r.cap ≠ r.known theory start.truths (r.cap - 1) := by
  obtain ⟨left, cap⟩ := Nat.exists_eq_add_one_of_ne_zero (capPositive (r := r))
  have now : start.truths = r.known theory start.truths 0 := rfl
  have limit : (r.chain theory (0 + 1) start (left + 1)).limitExceeded = true ↔
      r.known theory start.truths (0 + left + 1) ≠ r.known theory start.truths (0 + left) := chainLimitIff now
  rw [Nat.zero_add, Nat.zero_add] at limit
  rw [run, cap]
  exact limit

theorem runIdleIff {pass : Nat} : r.infer theory pass (r.run theory start).context = [] ↔
    r.known theory start.truths (r.cap + 1) = r.known theory start.truths r.cap :=
  idleKnownIff runKnown

theorem lastPassIff : (∃ e ∈ (r.run theory start).trace, e.pass = r.cap) ↔
    r.known theory start.truths r.cap ≠ r.known theory start.truths (r.cap - 1) := by
  constructor
  · intro logged same
    obtain ⟨e, mem, last⟩ := logged
    obtain ⟨_, true, untrue⟩ := runLogs.mp ⟨e, mem, rfl, last⟩
    exact untrue (same ▸ true)
  · intro late
    obtain ⟨f, true, untrue⟩ := Set.exists_of_ssubset
      ((knownGrows (Nat.sub_le r.cap 1)).ssubset_of_ne late.symm)
    obtain ⟨e, mem, _, last⟩ := runLogs.mpr ⟨le_rfl, true, untrue⟩
    exact ⟨e, mem, last⟩

end

/-- A run reports the cap exactly if the last pass that it allows asserts something. It then misses no
run that stops short, and it tells these from the others unless all is completed in that very pass. -/
theorem limitReported (r : Reasoner) (theory : TheoryOver World) (start : Context) (pass : Nat) :
    ((r.run theory start).limitExceeded = true ↔ ∃ e ∈ (r.run theory start).trace, e.pass = r.cap) ∧
    (r.infer theory pass (r.run theory start).context ≠ [] →
      (r.run theory start).limitExceeded = true) ∧
    (((r.run theory start).limitExceeded = true ↔
        r.infer theory pass (r.run theory start).context ≠ []) ↔
      ¬ r.CompletedAtCap theory start) := by
  have more : r.infer theory pass (r.run theory start).context ≠ [] →
      (r.run theory start).limitExceeded = true := by
    intro unfinished
    exact runLimitIff.mpr fun same => unfinished (runIdleIff.mpr (knownStays capPositive same))
  refine ⟨runLimitIff.trans lastPassIff.symm, more, ?_⟩
  constructor
  · intro tells completed
    exact tells.mp (runLimitIff.mpr completed.late) (runIdleIff.mpr completed.complete)
  · intro early
    refine ⟨fun exceeded idle => early ⟨?_, ?_⟩, more⟩
    · exact runLimitIff.mp exceeded
    · exact runIdleIff.mp idle

def tides : Theory where
  rulebase := .ofRules [⟨["moon"], "tide", none⟩]
  graph := .empty

-- One pass is all that the cap allows, and one pass is enough.
theorem tideReported :
    (({ maxPasses := 1 } : Reasoner).run tides (Context.assert ∅ "moon")).limitExceeded = true ∧
    ({ maxPasses := 1 } : Reasoner).infer tides 2
      (({ maxPasses := 1 } : Reasoner).run tides (Context.assert ∅ "moon")).context = [] := by
  exact ⟨rfl, rfl⟩

end ConceptSpace.Reasoner

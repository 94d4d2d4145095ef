import Mathlib.Data.String.Basic
import Mathlib.Logic.Function.Iterate
import ConceptSpace.Proofs.Passes
import ConceptSpace.Proofs.Places
import ConceptSpace.Proofs.Supertypes

/-! The trace of forward chaining is its derivation, pass by pass.
What is true after some passes is an iterate of the step from true concepts to what follows from them,
and each pass logs what its step added, under the first rule that concludes it. -/
namespace ConceptSpace.Reasoner
open Std

structure Concludes (r : Reasoner) (s : Set String) (f : String) (rule : Rule) : Prop where
  strong : ¬ rule.confidence.getD 1 < r.minConfidence
  triggers : ∀ t ∈ rule.triggers, t ∈ s
  conclusion : rule.conclusion = f

variable {World : Type} {r : Reasoner} {theory : TheoryOver World} {c : Context}

def placed (r : Reasoner) (theory : TheoryOver World) (c : Context) : List (Rule × Nat) :=
  theory.rulebase.rules.zipIdx.filter fun p => r.fires c p.1

theorem placedOrdered : (r.placed theory c).Pairwise fun p q => p.2 < q.2 :=
  (zipIdxOrdered theory.rulebase.rules).sublist List.filter_sublist

theorem firingPlaced : r.firing theory c =
    ((r.placed theory c).eraseDupsBy fun p q => p.1.conclusion == q.1.conclusion).map Prod.fst := by
  have unplaced : theory.rulebase.rules.filter (r.fires c) = (r.placed theory c).map Prod.fst := by
    rw [placed, ← Function.comp_def, ← List.filter_map, List.zipIdx_map_fst]
  rw [firing, unplaced, keptMap]

variable [WorldModel World]

def consequences (r : Reasoner) (theory : TheoryOver World) (s : Set String) : Set String :=
  s ∪ {f | ∃ rule ∈ theory.rulebase.rules, r.Concludes s f rule} ∪
    {f | ∃ a ∈ s, f ∈ WorldModel.supertypes theory.graph a}

def known (r : Reasoner) (theory : TheoryOver World) (given : Set String) (n : Nat) : Set String :=
  (r.consequences theory)^[n] given

inductive Ground where
  | rule (position : Nat)
  | graph (concept : String)

inductive Grounded (r : Reasoner) (theory : TheoryOver World) (s : Set String) (e : TraceEntry) : Ground → Prop where
  | rule {k : Nat} {rule : Rule} (here : theory.rulebase.rules[k]? = some rule)
      (concludes : r.Concludes s e.fact rule)
      (first : ∀ j < k, ∀ earlier, theory.rulebase.rules[j]? = some earlier →
        ¬ r.Concludes s e.fact earlier)
      (source : e.source = rule.label) : Grounded r theory s e (.rule k)
  | graph {a : String} (noRule : ∀ rule ∈ theory.rulebase.rules, ¬ r.Concludes s e.fact rule)
      (subtype : a ∈ s) (above : e.fact ∈ WorldModel.supertypes theory.graph a)
      (least : ∀ b ∈ s, e.fact ∈ WorldModel.supertypes theory.graph b → a ≤ b)
      (source : e.source = TraceEntry.worldModelSource) : Grounded r theory s e (.graph a)

def Ground.Before : Ground → String → Ground → String → Prop
  | .rule j, _, .rule k, _ => j < k
  | .rule _, _, .graph _, _ => True
  | .graph _, _, .rule _, _ => False
  | .graph a, f, .graph b, g => a < b ∨ a = b ∧ f < g

def Precedes (r : Reasoner) (theory : TheoryOver World) (given : Set String) (e d : TraceEntry) : Prop :=
  e.pass < d.pass ∨ e.pass = d.pass ∧ ∃ g h,
    Grounded r theory (r.known theory given (e.pass - 1)) e g ∧
    Grounded r theory (r.known theory given (d.pass - 1)) d h ∧ g.Before e.fact h d.fact

variable {pass : Nat}

theorem derivedIff {s : Set String} {f : String} : r.Derived theory s f ↔
    (∃ rule ∈ theory.rulebase.rules, r.Concludes s f rule) ∨
      ∃ a ∈ s, f ∈ WorldModel.supertypes theory.graph a := by
  constructor
  · intro derived
    cases derived with
    | rule rule mem eligible triggers => exact .inl ⟨rule, mem, eligibleIff.mp eligible, triggers, rfl⟩
    | supertype source above => exact .inr ⟨_, source, above⟩
  · intro follows
    rcases follows with ⟨rule, mem, strong, triggers, rfl⟩ | ⟨a, source, above⟩
    · exact .rule rule mem (eligibleIff.mpr strong) triggers
    · exact .supertype source above

theorem memConsequences {s : Set String} {f : String} :
    f ∈ r.consequences theory s ↔ f ∈ s ∨ r.Derived theory s f := by
  rw [derivedIff]
  exact or_assoc

theorem knownNext {given : Set String} {n : Nat} :
    r.known theory given (n + 1) = r.consequences theory (r.known theory given n) :=
  Function.iterate_succ_apply' _ _ _

theorem knownGrows {given : Set String} {n m : Nat} (later : n ≤ m) :
    r.known theory given n ⊆ r.known theory given m := by
  induction later with
  | refl => exact Set.Subset.rfl
  | step _ ih =>
    intro f old
    rw [knownNext]
    exact memConsequences.mpr (.inl (ih old))

theorem idleFixed : r.infer theory pass c = [] ↔ r.consequences theory c.truths = c.truths := by
  rw [idleIff]
  constructor
  · intro closed
    ext f
    rw [memConsequences]
    exact or_iff_left_of_imp (closed f)
  · intro fixed f derived
    rw [← fixed]
    exact memConsequences.mpr (.inr derived)

theorem firesIff {rule : Rule} {f : String} : (r.fires c rule = true ∧ rule.conclusion = f) ↔
    f ∉ c.truths ∧ r.Concludes c.truths f rule := by
  constructor
  · intro fired
    obtain ⟨fired, rfl⟩ := fired
    simp only [fires, Bool.and_eq_true, Bool.not_eq_true', List.all_eq_true] at fired
    exact ⟨by simp [Context.memTruths, fired.1.2], eligibleIff.mp fired.1.1, fired.2, rfl⟩
  · intro concluded
    obtain ⟨fresh, strong, triggers, rfl⟩ := concluded
    have idle : c.holds rule.conclusion = false := by simpa [Context.memTruths] using fresh
    have all : rule.triggers.all c.holds = true := List.all_eq_true.mpr triggers
    exact ⟨by simp [fires, eligibleIff.mpr strong, idle, all], rfl⟩

theorem placedGrounded {p : Rule × Nat}
    (kept : p ∈ (r.placed theory c).eraseDupsBy fun p q => p.1.conclusion == q.1.conclusion) :
    Grounded r theory c.truths ⟨pass, p.1.label, p.1.conclusion⟩ (.rule p.2) := by
  obtain ⟨mem, first⟩ := keptFirst (fun p => p.1.conclusion) placedOrdered kept
  obtain ⟨listed, fires⟩ := List.mem_filter.mp mem
  obtain ⟨fresh, concludes⟩ := firesIff.mp ⟨fires, rfl⟩
  refine .rule (List.mem_zipIdx_iff_getElem?.mp listed) concludes ?_ rfl
  intro j early earlier here also
  have fired := firesIff.mpr ⟨fresh, also⟩
  have among : (earlier, j) ∈ r.placed theory c :=
    List.mem_filter.mpr ⟨List.mem_zipIdx_iff_getElem?.mpr here, fired.1⟩
  rcases first _ among fired.2 with same | late
  · rw [← same] at early
    exact Nat.lt_irrefl _ early
  · exact Nat.lt_asymm early late

def climbs (theory : TheoryOver World) (c : Context) (concluded : List String) : List (String × String) :=
  (c.facts.flatMap fun a => (WorldModel.supertypes theory.graph a).toList.map fun f => (a, f)).filter
    fun p => !c.holds p.2 && !concluded.contains p.2

theorem factsOrdered : c.facts.Pairwise (· < ·) := by
  have ordered : c.toList.Pairwise fun p q => p.1 < q.1 :=
    (TreeMap.ordered_keys_toList (t := c)).imp compare_lt_iff_lt.mp
  exact List.pairwise_map.mpr (ordered.sublist List.filter_sublist)

theorem climbsOrdered {concluded : List String} :
    (climbs theory c concluded).Pairwise fun p q => p.1 < q.1 ∨ p.1 = q.1 ∧ p.2 < q.2 := by
  have all : (c.facts.flatMap fun a => (WorldModel.supertypes theory.graph a).toList.map fun f => (a, f)).Pairwise
      fun p q => p.1 < q.1 ∨ p.1 = q.1 ∧ p.2 < q.2 := by
    rw [List.pairwise_flatMap]
    constructor
    · intro a _
      exact List.pairwise_map.mpr ((TreeSet.ordered_toList (t := WorldModel.supertypes theory.graph a)).imp
        fun less => .inr ⟨rfl, compare_lt_iff_lt.mp less⟩)
    · refine factsOrdered.imp fun less p fromA q fromB => ?_
      obtain ⟨_, _, rfl⟩ := List.mem_map.mp fromA
      obtain ⟨_, _, rfl⟩ := List.mem_map.mp fromB
      exact .inl less
  exact all.sublist List.filter_sublist

theorem generalisedClimbs {concluded : List String} : generalised theory c concluded =
    ((climbs theory c concluded).eraseDupsBy fun p q => p.2 == q.2).map Prod.snd := by
  have tops : (c.facts.flatMap fun a => (WorldModel.supertypes theory.graph a).toList) =
      (c.facts.flatMap fun a => (WorldModel.supertypes theory.graph a).toList.map fun f => (a, f)).map Prod.snd := by
    simp [List.map_flatMap, Function.comp_def]
  rw [generalised, tops, List.filter_map]
  exact keptMap _ _ _

theorem memClimbs {concluded : List String} {p : String × String} : p ∈ climbs theory c concluded ↔
    p.1 ∈ c.truths ∧ p.2 ∈ WorldModel.supertypes theory.graph p.1 ∧ p.2 ∉ c.truths ∧ p.2 ∉ concluded := by
  obtain ⟨a, f⟩ := p
  simp [climbs, Context.memFacts, Context.memTruths, and_assoc]

theorem climbGrounded {p : String × String}
    (kept : p ∈ (climbs theory c ((r.firing theory c).map Rule.conclusion)).eraseDupsBy
      fun p q => p.2 == q.2) :
    Grounded r theory c.truths ⟨pass, TraceEntry.worldModelSource, p.2⟩ (.graph p.1) := by
  obtain ⟨mem, first⟩ := keptFirst Prod.snd climbsOrdered kept
  obtain ⟨source, above, fresh, unconcluded⟩ := memClimbs.mp mem
  refine .graph ?_ source above ?_ rfl
  · intro rule listed concludes
    obtain ⟨strong, triggers, same⟩ := concludes
    exact unconcluded (firingConcludes.mpr
      ⟨fresh, rule, listed, eligibleIff.mpr strong, triggers, same⟩)
  · intro b other aboveB
    have among : (b, p.2) ∈ climbs theory c ((r.firing theory c).map Rule.conclusion) :=
      memClimbs.mpr ⟨other, aboveB, fresh, unconcluded⟩
    rcases first _ among rfl with same | less | ⟨same, _⟩
    · exact (congrArg Prod.fst same).ge
    · exact less.le
    · exact same.le

theorem inferKept : r.infer theory pass c =
    ((r.placed theory c).eraseDupsBy fun p q => p.1.conclusion == q.1.conclusion).map
        (fun p => ⟨pass, p.1.label, p.1.conclusion⟩) ++
      ((climbs theory c ((r.firing theory c).map Rule.conclusion)).eraseDupsBy
        fun p q => p.2 == q.2).map (fun p => ⟨pass, TraceEntry.worldModelSource, p.2⟩) := by
  rw [infer, generalisedClimbs, List.map_map]
  congr 1
  rw [firingPlaced, List.map_map]
  rfl

theorem inferGrounded {e : TraceEntry} (logged : e ∈ r.infer theory pass c) :
    e.pass = pass ∧ ∃ g, Grounded r theory c.truths e g := by
  rw [inferKept] at logged
  rcases List.mem_append.mp logged with byRule | byGraph
  · obtain ⟨p, kept, rfl⟩ := List.mem_map.mp byRule
    exact ⟨rfl, _, placedGrounded kept⟩
  · obtain ⟨p, kept, rfl⟩ := List.mem_map.mp byGraph
    exact ⟨rfl, _, climbGrounded kept⟩

theorem inferOrdered : (r.infer theory pass c).Pairwise fun e d => ∃ g h,
    Grounded r theory c.truths e g ∧ Grounded r theory c.truths d h ∧ g.Before e.fact h d.fact := by
  rw [inferKept, List.pairwise_append, List.pairwise_map, List.pairwise_map]
  refine ⟨?_, ?_, ?_⟩
  · refine (placedOrdered.sublist (keptSublist _ _)).imp_of_mem fun keptP keptQ before => ?_
    exact ⟨_, _, placedGrounded keptP, placedGrounded keptQ, before⟩
  · refine (climbsOrdered.sublist (keptSublist _ _)).imp_of_mem fun keptP keptQ before => ?_
    exact ⟨_, _, climbGrounded keptP, climbGrounded keptQ, before⟩
  · intro e byRule d byGraph
    obtain ⟨p, keptP, rfl⟩ := List.mem_map.mp byRule
    obtain ⟨q, keptQ, rfl⟩ := List.mem_map.mp byGraph
    exact ⟨_, _, placedGrounded keptP, climbGrounded keptQ, trivial⟩

section
variable {given : Set String} {n left : Nat}

theorem passKnown (pass : Nat) (now : c.truths = r.known theory given n) :
    (c.assertAll (r.infer theory pass c)).truths = r.known theory given (n + 1) := by
  ext f
  rw [memTruthsAfterPass, knownNext, memConsequences, now]

theorem idleKnown (now : c.truths = r.known theory given n) (idle : r.infer theory pass c = [])
    (m : Nat) : r.known theory given (n + m) = r.known theory given n := by
  have fixed := idleFixed.mp idle
  rw [now] at fixed
  rw [known, Nat.add_comm, Function.iterate_add_apply]
  exact Function.iterate_fixed fixed m

theorem chainKnown (now : c.truths = r.known theory given n) :
    (r.chain theory (n + 1) c left).context.truths =
        r.known theory given (r.chain theory (n + 1) c left).passes ∧
      (r.chain theory (n + 1) c left).context.truths = r.known theory given (n + left) := by
  induction left generalizing n c with
  | zero => exact ⟨now, now⟩
  | succ left ih =>
    by_cases idle : r.infer theory (n + 1) c = []
    · rw [chainStops idle]
      exact ⟨now.trans (idleKnown now idle 1).symm, now.trans (idleKnown now idle _).symm⟩
    · rw [chainGoes idle]
      obtain ⟨ended, capped⟩ := ih (passKnown (n + 1) now)
      exact ⟨ended, capped.trans (congrArg _ (Nat.add_right_comm n 1 left))⟩

theorem passLogs (now : c.truths = r.known theory given n) (f : String) (p : Nat) :
    (∃ e ∈ r.infer theory (n + 1) c, e.fact = f ∧ e.pass = p) ↔
      p = n + 1 ∧ f ∈ r.known theory given p ∧ f ∉ r.known theory given (p - 1) := by
  constructor
  · intro logged
    obtain ⟨e, mem, same, rfl⟩ := logged
    obtain ⟨fresh, derived⟩ := inferredIff.mp ⟨e, mem, same⟩
    rw [(inferGrounded mem).1, knownNext, Nat.add_sub_cancel, ← now]
    exact ⟨rfl, memConsequences.mpr (.inr derived), fresh⟩
  · intro new
    obtain ⟨rfl, true, untrue⟩ := new
    rw [Nat.add_sub_cancel, ← now] at untrue
    rw [knownNext, ← now] at true
    have derived := (memConsequences.mp true).resolve_left untrue
    obtain ⟨e, mem, same⟩ := inferredIff.mpr ⟨untrue, derived⟩
    exact ⟨e, mem, same, (inferGrounded mem).1⟩

theorem chainLogs (now : c.truths = r.known theory given n) (f : String) (p : Nat) :
    (∃ e ∈ (r.chain theory (n + 1) c left).trace, e.fact = f ∧ e.pass = p) ↔
      n < p ∧ p ≤ n + left ∧ f ∈ r.known theory given p ∧ f ∉ r.known theory given (p - 1) := by
  induction left generalizing n c with
  | zero =>
    simp only [chain, List.not_mem_nil, false_and, exists_false, false_iff]
    omega
  | succ left ih =>
    by_cases idle : r.infer theory (n + 1) c = []
    · rw [chainStops idle]
      simp only [List.not_mem_nil, false_and, exists_false, false_iff]
      intro logged
      obtain ⟨after, _, true, untrue⟩ := logged
      obtain ⟨m, rfl⟩ := Nat.exists_eq_add_of_lt after
      rw [Nat.add_assoc, idleKnown now idle] at true
      rw [Nat.add_sub_cancel, idleKnown now idle] at untrue
      exact untrue true
    · have later := ih (passKnown (n + 1) now)
      rw [chainGoes idle]
      simp only [List.mem_append, or_and_right, exists_or, passLogs now, later]
      constructor
      · intro logged
        rcases logged with ⟨rfl, new⟩ | ⟨after, upTo, new⟩
        · exact ⟨by omega, by omega, new⟩
        · exact ⟨by omega, by omega, new⟩
      · intro logged
        obtain ⟨after, upTo, new⟩ := logged
        by_cases here : p = n + 1
        · exact .inl ⟨here, new⟩
        · exact .inr ⟨by omega, by omega, new⟩

theorem chainGrounded (now : c.truths = r.known theory given n) :
    ∀ e ∈ (r.chain theory (n + 1) c left).trace,
      n < e.pass ∧ ∃ g, Grounded r theory (r.known theory given (e.pass - 1)) e g := by
  induction left generalizing n c with
  | zero => simp [chain]
  | succ left ih =>
    by_cases idle : r.infer theory (n + 1) c = []
    · simp [chainStops idle]
    · rw [chainGoes idle]
      intro e logged
      rcases List.mem_append.mp logged with here | later
      · obtain ⟨pass, grounded⟩ := inferGrounded here
        rw [pass, Nat.add_sub_cancel, ← now]
        exact ⟨Nat.lt_succ_self n, grounded⟩
      · obtain ⟨after, grounded⟩ := ih (passKnown (n + 1) now) e later
        exact ⟨by omega, grounded⟩

theorem chainOrdered (now : c.truths = r.known theory given n) :
    (r.chain theory (n + 1) c left).trace.Pairwise (r.Precedes theory given) := by
  induction left generalizing n c with
  | zero => exact .nil
  | succ left ih =>
    by_cases idle : r.infer theory (n + 1) c = []
    · rw [chainStops idle]
      exact .nil
    · rw [chainGoes idle]
      refine List.pairwise_append.mpr ⟨?_, ih (passKnown (n + 1) now), ?_⟩
      · refine inferOrdered.imp_of_mem fun memE memD grounded => .inr ?_
        have passE := (inferGrounded memE).1
        have passD := (inferGrounded memD).1
        rw [passE, passD, Nat.add_sub_cancel, ← now]
        exact ⟨rfl, grounded⟩
      · intro e here d later
        have passE := (inferGrounded here).1
        have passD := (chainGrounded (passKnown (n + 1) now) d later).1
        exact .inl (by omega)

theorem groundUnique {s : Set String} {e d : TraceEntry} {g h : Ground} (same : e.fact = d.fact)
    (groundE : Grounded r theory s e g) (groundD : Grounded r theory s d h) : g = h := by
  cases groundE with
  | @rule j _ here concludes first =>
    rw [same] at concludes first
    cases groundD with
    | @rule k _ here' concludes' first' =>
      rcases Nat.lt_trichotomy j k with less | rfl | less
      · exact absurd concludes (first' j less _ here)
      · rfl
      · exact absurd concludes' (first k less _ here')
    | graph noRule => exact absurd concludes (noRule _ (List.mem_of_getElem? here))
  | graph noRule source above least =>
    rw [same] at noRule above least
    cases groundD with
    | rule here concludes => exact absurd concludes (noRule _ (List.mem_of_getElem? here))
    | graph _ source' above' least' =>
      exact congrArg _ ((least _ source' above').antisymm (least' _ source above))

theorem notBeforeItself (g : Ground) (f : String) : ¬ g.Before f g f := by
  cases g with
  | rule k => exact Nat.lt_irrefl k
  | graph a => simp [Ground.Before]

theorem chainOnce (now : c.truths = r.known theory given n) :
    ((r.chain theory (n + 1) c left).trace.map TraceEntry.fact).Nodup := by
  refine List.pairwise_map.mpr ((chainOrdered now).imp_of_mem fun memE memD precedes same => ?_)
  have loggedE := (chainLogs now _ _).mp ⟨_, memE, rfl, rfl⟩
  have loggedD := (chainLogs now _ _).mp ⟨_, memD, rfl, rfl⟩
  rcases precedes with earlier | ⟨together, g, h, groundE, groundD, before⟩
  · have still := knownGrows (Nat.le_sub_one_of_lt earlier) loggedE.2.2.1
    rw [same] at still
    exact loggedD.2.2.2 still
  · rw [← together] at groundD
    rw [← groundUnique same groundE groundD, ← same] at before
    exact notBeforeItself g _ before

end

section
variable {start : Context}

theorem runKnown : (r.run theory start).context.truths = r.known theory start.truths r.cap := by
  have now : start.truths = r.known theory start.truths 0 := rfl
  have capped : (r.chain theory (0 + 1) start r.cap).context.truths =
      r.known theory start.truths (0 + r.cap) := (chainKnown now).2
  exact capped.trans (congrArg _ (Nat.zero_add r.cap))

theorem runLogs {f : String} {p : Nat} : (∃ e ∈ (r.run theory start).trace, e.fact = f ∧ e.pass = p) ↔
    p ≤ r.cap ∧ f ∈ r.known theory start.truths p ∧ f ∉ r.known theory start.truths (p - 1) := by
  have now : start.truths = r.known theory start.truths 0 := rfl
  have logs : (∃ e ∈ (r.run theory start).trace, e.fact = f ∧ e.pass = p) ↔ 0 < p ∧ p ≤ 0 + r.cap ∧
      f ∈ r.known theory start.truths p ∧ f ∉ r.known theory start.truths (p - 1) := chainLogs now f p
  refine logs.trans ?_
  rw [Nat.zero_add]
  constructor
  · intro logged
    exact logged.2
  · intro logged
    obtain ⟨upTo, true, untrue⟩ := logged
    have passed : p ≠ 0 := by
      rintro rfl
      exact untrue true
    exact ⟨Nat.pos_of_ne_zero passed, upTo, true, untrue⟩

end

/-- A run logs each fact once, in the pass that makes it true, under the first of what it follows from
when that pass begins; the log goes by pass, then by the order of the rules, then by that of the graph. What
follows by the graph is what its `is_a` edges lead to. -/
theorem runDerives (r : Reasoner) (theory : Theory) (start : Context) :
    (∀ a f, f ∈ WorldModel.supertypes theory.graph a ↔ f ≠ a ∧ theory.graph.Reaches a f) ∧
    (∀ f p, (∃ e ∈ (r.run theory start).trace, e.fact = f ∧ e.pass = p) ↔
      p ≤ r.cap ∧ f ∈ r.known theory start.truths p ∧ f ∉ r.known theory start.truths (p - 1)) ∧
    ((r.run theory start).trace.map TraceEntry.fact).Nodup ∧
    (∀ e ∈ (r.run theory start).trace,
      ∃ g, Grounded r theory (r.known theory start.truths (e.pass - 1)) e g) ∧
    (r.run theory start).trace.Pairwise (r.Precedes theory start.truths) ∧
    (r.run theory start).context.truths = r.known theory start.truths (r.run theory start).passes := by
  have now : start.truths = r.known theory start.truths 0 := rfl
  exact ⟨fun _ _ => ConceptGraph.memSupertypes, fun _ _ => runLogs, chainOnce now,
    fun e logged => (chainGrounded now e logged).2, chainOrdered now, (chainKnown now).1⟩

end ConceptSpace.Reasoner

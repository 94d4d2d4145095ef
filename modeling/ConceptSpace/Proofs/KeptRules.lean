import Mathlib.Data.List.Forall2
import ConceptSpace.Definition.Decode
import ConceptSpace.Proofs.BlankTexts
import ConceptSpace.Proofs.LeastModel
import ConceptSpace.Proofs.PassLimit
import ConceptSpace.Proofs.Places

/-! Which records of a rulebase are kept, and what is reported of the others.
Every record is kept or reported, in its order, and what is kept has a trigger. So nothing follows from a
context in which no concept is true. -/
namespace ConceptSpace

namespace Rule

inductive Judged : Except RecordFault Rule → Except RecordFault Rule → Prop
  | undecoded (cause : RecordFault) : Judged (.error cause) (.error cause)
  | untriggered {rule : Rule} : (∀ t ∈ rule.triggers, Text.isBlankText t = true) →
    Judged (.ok rule) (.error .emptyTrigger)
  | inconclusive {rule : Rule} : (∃ t ∈ rule.triggers, Text.isBlankText t = false) →
    Text.isBlankText rule.conclusion = true → Judged (.ok rule) (.error .emptyConclusion)
  | kept {rule : Rule} : (∃ t ∈ rule.triggers, Text.isBlankText t = false) →
    Text.isBlankText rule.conclusion = false →
    Judged (.ok rule) (.ok ⟨(rule.triggers.filter fun t => !Text.isBlankText t).map Text.trim,
      Text.trim rule.conclusion, rule.confidence⟩)

structure Sound (rule : Rule) : Prop where
  triggered : rule.triggers ≠ []
  triggers : ∀ t ∈ rule.triggers, Text.Trimmed t
  conclusion : Text.Trimmed rule.conclusion

variable {rule : Rule} {record outcome : Except RecordFault Rule}

theorem trimmedEq (rule : Rule) :
    rule.trimmed = ⟨(rule.triggers.filter fun t => !Text.isBlankText t).map Text.trim,
      Text.trim rule.conclusion, rule.confidence⟩ := by
  have filled : ((fun t : String => !t.isEmpty) ∘ Text.trim) = fun t => !Text.isBlankText t := by
    funext t
    rw [Function.comp_apply, Text.trimFilled]
  rw [trimmed, List.filter_map, filled]

theorem untriggeredIff :
    rule.trimmed.triggers.isEmpty = true ↔ ∀ t ∈ rule.triggers, Text.isBlankText t = true := by
  rw [List.isEmpty_iff, trimmedEq, List.map_eq_nil_iff, List.filter_eq_nil_iff]
  simp

theorem triggeredIff :
    ¬ rule.trimmed.triggers.isEmpty = true ↔ ∃ t ∈ rule.triggers, Text.isBlankText t = false := by
  rw [untriggeredIff]
  simp

theorem inconclusiveIff :
    rule.trimmed.conclusion.isEmpty = true ↔ Text.isBlankText rule.conclusion = true := by
  rw [trimmedEq, Text.trimFilled]

theorem Judged.checked (judged : Judged record outcome) : record.bind Rule.checked = outcome := by
  cases judged with
  | undecoded => rfl
  | untriggered untriggered => exact if_pos (untriggeredIff.mpr untriggered)
  | inconclusive triggered blank =>
    exact (if_neg (triggeredIff.mpr triggered)).trans (if_pos (inconclusiveIff.mpr blank))
  | kept triggered filled =>
    rw [← trimmedEq]
    refine (if_neg (triggeredIff.mpr triggered)).trans (if_neg fun blank => ?_)
    exact Bool.false_ne_true (filled.symm.trans (inconclusiveIff.mp blank))

theorem judged (record : Except RecordFault Rule) : Judged record (record.bind Rule.checked) := by
  obtain ⟨outcome, judged⟩ : ∃ outcome, Judged record outcome := by
    cases record with
    | error cause => exact ⟨_, .undecoded cause⟩
    | ok rule =>
      by_cases untriggered : rule.trimmed.triggers.isEmpty = true
      · exact ⟨_, .untriggered (untriggeredIff.mp untriggered)⟩
      · have triggered := triggeredIff.mp untriggered
        cases blank : Text.isBlankText rule.conclusion with
        | true => exact ⟨_, .inconclusive triggered blank⟩
        | false => exact ⟨_, .kept triggered blank⟩
  exact judged.checked.symm ▸ judged

theorem judgedIff : Judged record outcome ↔ record.bind Rule.checked = outcome :=
  ⟨Judged.checked, fun checked => checked ▸ judged record⟩

theorem Judged.sound (kept : Judged record (.ok rule)) : rule.Sound := by
  cases kept with
  | kept triggered filled =>
    obtain ⟨t, listed, told⟩ := triggered
    refine ⟨?_, ?_, Text.trimTrimmed filled⟩
    · refine List.ne_nil_of_mem (List.mem_map_of_mem (List.mem_filter.mpr ⟨listed, ?_⟩))
      simp [told]
    · intro t among
      obtain ⟨source, left, rfl⟩ := List.mem_map.mp among
      exact Text.trimTrimmed (by simpa using (List.mem_filter.mp left).2)

end Rule

namespace Rulebase
open Rule

structure Accounted (records : List (Except RecordFault Rule)) (rulebase : Rulebase) : Prop where
  rules : Reports (· < ·)
    (fun i : Nat => ∃ record rule, records[i]? = some record ∧ Judged record (.ok rule))
    (fun i rule => ∃ record, records[i]? = some record ∧ Judged record (.ok rule)) rulebase.rules
  warnings : Reports (· < ·)
    (fun i : Nat => ∃ record cause, records[i]? = some record ∧ Judged record (.error cause))
    (fun i fault => ∃ record cause, records[i]? = some record ∧ Judged record (.error cause) ∧
      fault = .record i cause) rulebase.warnings
  complete : rulebase.rules.length + rulebase.warnings.length = records.length
  sound : ∀ rule ∈ rulebase.rules, rule.Sound

def warning? (position : Nat) : Except RecordFault Rule → Option Fault
  | .error cause => some (.record position cause)
  | .ok _ => none

variable (records : List (Except RecordFault Rule))

theorem rulesOf : (ofEntries records).rules = records.filterMap fun record =>
    (record.bind Rule.checked).toOption := by
  rw [ofEntries, List.filterMap_map]
  rfl

theorem warningsOf : (ofEntries records).warnings = records.zipIdx.filterMap fun entry =>
    warning? entry.2 (entry.1.bind Rule.checked) := by
  have whole : (ofEntries records).warnings = (records.map fun record => record.bind
      Rule.checked).zipIdx.filterMap fun entry => warning? entry.2 entry.1 := rfl
  rw [whole, List.zipIdx_map, List.filterMap_map]
  rfl

theorem warningIff {position : Nat} {outcome : Except RecordFault Rule} {fault : Fault} :
    warning? position outcome = some fault ↔
      ∃ cause, outcome = .error cause ∧ fault = .record position cause := by
  cases outcome with
  | error cause => simp [warning?, eq_comm]
  | ok rule => simp [warning?]

theorem keptIff {outcome : Except RecordFault Rule} {rule : Rule} :
    outcome.toOption = some rule ↔ outcome = .ok rule := by
  cases outcome with
  | error cause => simp [Except.toOption]
  | ok rule => simp [Except.toOption]

theorem entriesSplit (position : Nat) :
    (records.filterMap fun record => (record.bind Rule.checked).toOption).length +
      ((records.zipIdx position).filterMap fun entry =>
        warning? entry.2 (entry.1.bind Rule.checked)).length = records.length := by
  induction records generalizing position with
  | nil => rfl
  | cons record records ih =>
    rw [List.zipIdx_cons, List.filterMap_cons, List.filterMap_cons, List.length_cons,
      ← ih (position + 1)]
    cases record.bind Rule.checked with
    | error cause => exact (Nat.add_assoc _ _ 1).symm
    | ok rule => exact Nat.add_right_comm _ 1 _

theorem entriesAccounted : Accounted records (ofEntries records) where
  rules := by
    rw [rulesOf]
    refine (listReports records _).congr (fun i => ?_) fun i rule kept => ?_
    · simp only [Option.ne_none_iff_exists', keptIff, judgedIff, exists_and_left]
    · simpa only [keptIff, judgedIff] using kept
  warnings := by
    rw [warningsOf]
    refine (indexedReports records fun i record => warning? i (record.bind Rule.checked)).congr
      (fun i => ?_) fun i fault told => ?_
    · simp only [Option.ne_none_iff_exists', warningIff, judgedIff]
      constructor
      · intro told
        obtain ⟨record, here, _, cause, failed, _⟩ := told
        exact ⟨record, cause, here, failed⟩
      · intro failed
        obtain ⟨record, cause, here, failed⟩ := failed
        exact ⟨record, here, _, cause, failed, rfl⟩
    · simpa only [warningIff, judgedIff, exists_and_left] using told
  complete := by rw [rulesOf, warningsOf, entriesSplit]
  sound rule kept := by
    rw [rulesOf, List.mem_filterMap] at kept
    obtain ⟨record, _, kept⟩ := kept
    exact Judged.sound (judgedIff.mpr (keptIff.mp kept))

end Rulebase

def Definition.records? : Definition.Source → Option (List Document) :=
  Definition.Source.decode? fun r node => r.list? (r.document? 1) node

theorem Definition.rulebaseRecords (source : Definition.Source) :
    Definition.rulebase? source = (Definition.records? source).map fun documents =>
      .ofEntries (documents.map Definition.rule) := by
  cases source with
  | json document => exact Option.map_eq_bind.symm
  | yaml file => exact Option.map_eq_bind.symm

namespace Reasoner

variable {World : Type} [WorldModel World] {r : Reasoner} {theory : TheoryOver World} {c : Context}

theorem idleUntold {pass : Nat}
    (triggered : ∀ rule ∈ theory.rulebase.rules, rule.triggers ≠ [])
    (untold : ∀ id, c.holds id = false) :
    r.infer theory pass c = [] := by
  have none : ∀ id, id ∉ c.truths := fun id true => Bool.false_ne_true ((untold id).symm.trans true)
  refine idleIff.mpr fun f derived => ?_
  cases derived with
  | rule rule mem _ triggers =>
    obtain ⟨t, listed⟩ := List.exists_mem_of_ne_nil _ (triggered rule mem)
    exact absurd (triggers t listed) (none t)
  | supertype source _ => exact absurd source (none _)

theorem runUntold
    (triggered : ∀ rule ∈ theory.rulebase.rules, rule.triggers ≠ [])
    (untold : ∀ id, c.holds id = false) :
    r.run theory c = ⟨c, [], 1, false⟩ := by
  obtain ⟨left, cap⟩ := Nat.exists_eq_add_one_of_ne_zero (capPositive (r := r))
  rw [run, cap, chainStops (idleUntold triggered untold)]

end Reasoner

/-- Every record that a rulebase is made from is accounted for, whether rules are given or a file is read.
With such a rulebase, reasoning from nothing ends in its first pass with nothing. -/
theorem Rulebase.recordsAccounted :
    (∀ records, Accounted records (ofEntries records)) ∧
    (∀ rules, Accounted (rules.map .ok) (ofRules rules)) ∧
    (∀ source, Option.Rel (fun documents => Accounted (documents.map Definition.rule))
      (Definition.records? source) (Definition.rulebase? source)) ∧
    ∀ records rulebase, Accounted records rulebase → ∀ (World : Type) [WorldModel World]
      (reasoner : Reasoner) (graph : World) (start : Context), (∀ id, start.holds id = false) →
        reasoner.run ⟨rulebase, graph⟩ start = ⟨start, [], 1, false⟩ := by
  refine ⟨entriesAccounted, fun rules => entriesAccounted _, fun source => ?_, ?_⟩
  · rw [Definition.rulebaseRecords]
    cases Definition.records? source with
    | none => exact .none
    | some documents => exact .some (entriesAccounted _)
  · intro records rulebase accounted World _ reasoner graph start untold
    exact Reasoner.runUntold (fun rule kept => (accounted.sound rule kept).triggered) untold

end ConceptSpace

import ConceptSpace.Fault
import ConceptSpace.Text.Blank

/-! The rulebase: an ordered list of rules, each with triggers that must all hold and a conclusion.
A rule that is kept has at least one trigger, and its triggers and conclusion are trimmed and not
blank; a rule that is not kept leaves a warning with its position. -/
namespace ConceptSpace

structure Rule where
  triggers : List String
  conclusion : String
  confidence : Option Float := none
  deriving Repr

def Rule.label (rule : Rule) : String :=
  "rule:" ++ String.intercalate "+" rule.triggers ++ "->" ++ rule.conclusion

structure Rulebase where
  rules : List Rule
  warnings : List Fault
  deriving Repr

namespace Rule

def trimmed (rule : Rule) : Rule :=
  { rule with
    triggers := (rule.triggers.map Text.trim).filter (!·.isEmpty)
    conclusion := Text.trim rule.conclusion }

def checked (rule : Rule) : Except RecordFault Rule :=
  if rule.trimmed.triggers.isEmpty then .error .emptyTrigger
  else if rule.trimmed.conclusion.isEmpty then .error .emptyConclusion
  else .ok rule.trimmed

end Rule

namespace Rulebase

def empty : Rulebase := ⟨[], []⟩

def ofEntries (entries : List (Except RecordFault Rule)) : Rulebase :=
  let checked := entries.map fun entry => entry.bind Rule.checked
  { rules := checked.filterMap (·.toOption)
    warnings := checked.zipIdx.filterMap fun entry =>
      match entry.1 with
      | .error cause => some (.record entry.2 cause)
      | .ok _ => none }

def ofRules (rules : List Rule) : Rulebase := ofEntries (rules.map .ok)

def size (r : Rulebase) : Nat := r.rules.length

end Rulebase

end ConceptSpace

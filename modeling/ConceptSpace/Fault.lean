import ConceptSpace.Formula.Token

/-! What can go wrong, as causes. The wording of each is `Fault.message`. -/
namespace ConceptSpace

inductive FileFault where
  | missing
  | notADirectory
  | isADirectory
  | nameTooLong
  | nulInName
  | notUtf8
  | undecodable
  deriving DecidableEq, Repr

inductive RecordFault where
  | emptyTrigger
  | emptyConclusion
  | missingTrigger
  | missingConclusion
  | triggerShape
  | notARule (found : String)
  | notAText (found : String)
  | notANumber (found : String)
  | tooFewFields (count : Nat)
  | tooManyFields (count : Nat)
  deriving DecidableEq, Repr

inductive Fault where
  | blankDimension
  | noDimensions
  | unknownMetric (name : String)
  | duplicateHandler (key : String)
  | file (name : String) (cause : FileFault)
  | record (index : Nat) (cause : RecordFault)
  | settings
  | formula (error : Formula.SyntaxError)
  | reasoningLimit (passes : Nat)
  | shapeMismatch (id : String) (expected actual : Nat)
  | emptyLibrary
  | narrator (detail : String)
  | handler (detail : String)
  | handlerOutput (key : String)
  | history (detail : String)
  deriving DecidableEq, Repr

inductive FaultKind where
  | config
  | parse
  | reasoningLimitExceeded
  | vectorShapeMismatch
  | emptyLibrary
  | narrator
  | handler
  | history
  deriving DecidableEq, Repr

def FileFault.message : FileFault → String
  | .missing => "No such file or directory (os error 2)"
  | .notADirectory => "Not a directory (os error 20)"
  | .isADirectory => "Is a directory (os error 21)"
  | .nameTooLong => "File name too long (os error 36)"
  | .nulInName => "file name contained an unexpected NUL byte"
  | .notUtf8 => "stream did not contain valid UTF-8"
  | .undecodable => "<decode error>"

def RecordFault.message : RecordFault → String
  | .emptyTrigger => "empty trigger"
  | .emptyConclusion => "empty conclusion"
  | .missingTrigger => "missing field `trigger`"
  | .missingConclusion => "missing field `conclusion`"
  | .triggerShape => "data did not match any variant of untagged enum Trigger"
  | .notARule found => "invalid type: " ++ found ++ ", expected struct RawRule"
  | .notAText found => "invalid type: " ++ found ++ ", expected a string"
  | .notANumber found => "invalid type: " ++ found ++ ", expected f64"
  | .tooFewFields count =>
    "invalid length " ++ toString count ++ ", expected struct RawRule with 3 elements"
  | .tooManyFields count => "invalid length " ++ toString count ++ ", expected fewer elements in array"

namespace Fault

def kind : Fault → FaultKind
  | .blankDimension | .noDimensions | .unknownMetric _ | .duplicateHandler _ | .file _ _
  | .record _ _ | .settings => .config
  | .formula _ => .parse
  | .reasoningLimit _ => .reasoningLimitExceeded
  | .shapeMismatch _ _ _ => .vectorShapeMismatch
  | .emptyLibrary => .emptyLibrary
  | .narrator _ => .narrator
  | .handler _ | .handlerOutput _ => .handler
  | .history _ => .history

def detail : Fault → String
  | .blankDimension => "dimension with empty id"
  | .noDimensions => "registry is empty: no usable dimensions were loaded"
  | .unknownMetric name => "unknown metric '" ++ name ++ "'"
  | .duplicateHandler key => "duplicate handler key '" ++ key ++ "'"
  | .file name cause => name ++ ": " ++ cause.message
  | .record index cause => "rule #" ++ toString index ++ ": " ++ cause.message
  | .settings => "settings cannot be read"
  | .formula error => error.fault.message
  | .reasoningLimit passes => "after " ++ toString passes ++ " passes"
  | .shapeMismatch id expected actual =>
    "for '" ++ id ++ "': expected " ++ toString expected ++ ", got " ++ toString actual
  | .emptyLibrary => "Library contains no comparable vectors"
  | .narrator detail => detail
  | .handler detail => detail
  | .handlerOutput key => key ++ ": invalid JSON output"
  | .history detail => detail

def message (fault : Fault) : String :=
  match fault.kind with
  | .config => "Configuration error: " ++ fault.detail
  | .parse =>
    match fault with
    | .formula error => "Parse error at offset " ++ toString error.offset ++ ": " ++ fault.detail
    | _ => fault.detail
  | .reasoningLimitExceeded => "Reasoning limit exceeded " ++ fault.detail
  | .vectorShapeMismatch => "Vector shape mismatch " ++ fault.detail
  | .emptyLibrary => fault.detail
  | .narrator => "Narrator error: " ++ fault.detail
  | .handler => "Handler error: " ++ fault.detail
  | .history => "History store error: " ++ fault.detail

def of? : Except Fault α → Option Fault
  | .error fault => some fault
  | .ok _ => none

end Fault

end ConceptSpace

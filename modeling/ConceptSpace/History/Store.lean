import ConceptSpace.Fault
import ConceptSpace.History.Archive
import ConceptSpace.History.Window

/-! Where an engine keeps its history. Reading and recording may fail; a store that refuses one of
them keeps nothing. -/
namespace ConceptSpace

inductive History where
  | window (w : Window)
  | archive (a : Archive)
  | refusing (onRead onWrite : Bool)

namespace History

def recent (h : History) (limit : Nat) : Except Fault (List NarrativeRecord) :=
  match h with
  | .window w => .ok (w.recent limit)
  | .archive a => .ok (a.recent limit)
  | .refusing onRead _ => if onRead then .error (.history "read refused") else .ok []

def record (h : History) (mark : String) (r : NarrativeRecord) : Except Fault History :=
  match h with
  | .window w => .ok (.window (w.record r))
  | .archive a => .ok (.archive (a.record mark r))
  | .refusing _ onWrite => if onWrite then .error (.history "write refused") else .ok h

end History

end ConceptSpace

import ConceptSpace.Handler.Process

/-! What a running shell knows, and what a command does.
Time passes only while a program sleeps. -/
namespace ConceptSpace.Shell

def bytes (text : List Char) : Bytes := (String.ofList text).toUTF8.toList

structure State where
  name : String
  arguments : List String
  line : Nat := 1
  values : List (String × String) := []
  status : Nat := 0

def State.complaint (s : State) (text : String) : String :=
  s.name ++ ": " ++ toString s.line ++ ": " ++ text

structure Effect where
  output : Bytes := []
  errors : Bytes := []
  unread : Bytes
  status : Nat := 0
  ended : Option ProcessEnd := none
  elapsed : Nat := 0
  values : List (String × String) := []

namespace Effect

def failing (unread : Bytes) (status : Nat) (message : String) : Effect :=
  { unread, status, errors := bytes (message.toList ++ ['\n']) }

def answering (unread : Bytes) (holds : Bool) : Effect := { unread, status := if holds then 0 else 1 }

def followedBy (first second : Effect) : Effect :=
  { second with
    output := first.output ++ second.output
    errors := first.errors ++ second.errors
    elapsed := first.elapsed + second.elapsed }

def returned (e : Effect) : Effect :=
  match e.ended with
  | some (.exited status) => { e with status, ended := none }
  | some (.killed signal) => { e with status := 128 + signal, ended := none }
  | none => e

def run (e : Effect) : ProcessRun :=
  ⟨e.output, e.errors, e.unread, e.elapsed, e.ended.getD (.exited e.status)⟩

end Effect

end ConceptSpace.Shell

import ConceptSpace.Decimal.Binary
import ConceptSpace.Document.Json
import ConceptSpace.Document.JsonText
import ConceptSpace.Handler.Registry
import ConceptSpace.Text.Blank
import ConceptSpace.Text.Utf8

/-! Handlers that run a program for each call.
The program reads a record with the input as its objective and writes its answer, both as JSON. It has
a limited time for all of it. -/
namespace ConceptSpace

abbrev Bytes := List UInt8

structure Invocation where
  program : String
  arguments : List String
  deriving DecidableEq, Repr

inductive ProcessEnd where
  | exited (status : Nat)
  | killed (signal : Nat)
  deriving DecidableEq, Repr

structure ProcessRun where
  output : Bytes := []
  errors : Bytes := []
  unread : Bytes := []
  elapsed : Nat := 0
  ended : ProcessEnd := .exited 0

abbrev Programs := Invocation → Bytes → Option ProcessRun

def signalNames : List (Nat × String) :=
  [(1, "SIGHUP"), (2, "SIGINT"), (3, "SIGQUIT"), (4, "SIGILL"), (5, "SIGTRAP"), (6, "SIGABRT"),
    (7, "SIGBUS"), (8, "SIGFPE"), (9, "SIGKILL"), (10, "SIGUSR1"), (11, "SIGSEGV"), (12, "SIGUSR2"),
    (13, "SIGPIPE"), (14, "SIGALRM"), (15, "SIGTERM")]

def signalName? (signal : Nat) : Option String := (signalNames.find? (·.1 == signal)).map (·.2)

def ProcessEnd.text : ProcessEnd → String
  | .exited status => "exit status: " ++ toString status
  | .killed signal =>
    "signal: " ++ toString signal
      ++ ((signalName? signal).map fun name => " (" ++ name ++ ")").getD ""

def durationText (milliseconds : Nat) : String :=
  if milliseconds == 0 then "0ns"
  else if milliseconds < 1000 then toString milliseconds ++ "ms"
  else
    let places := (((Decimal.padded 3 (milliseconds % 1000)).toList.reverse).dropWhile (· == '0')).reverse
    toString (milliseconds / 1000)
      ++ (if places.isEmpty then "" else "." ++ String.ofList places) ++ "s"

structure ProcessHandler where
  key : String
  invocation : Invocation
  timeout : Nat := 10000 -- milliseconds

namespace ProcessHandler

def payload (input : Document) : Bytes :=
  (Json.compact (.record [("objective", input)])).toUTF8.toList

def pipeCapacity : Nat := 65536

def text (bytes : Bytes) : Option String := String.fromUTF8? ⟨bytes.toArray⟩

/-- What becomes of a run. A program takes some time in any case; one that ends without reading more
than its pipe can hold breaks the pipe. -/
def outcome (h : ProcessHandler) (run : ProcessRun) : Except Fault Document :=
  if h.timeout ≤ run.elapsed then
    .error (.handler (h.key ++ ": timed out after " ++ durationText h.timeout))
  else if pipeCapacity < run.unread.length then
    .error (.handler (h.key ++ ": stdin write failed: Broken pipe (os error 32)"))
  else if run.ended != .exited 0 then
    .error (.handler (h.key ++ ": exited with " ++ run.ended.text ++ ": "
      ++ Text.trim (Text.ofUtf8 run.errors)))
  else
    match (text run.output).bind Json.read? with
    | some answer => .ok answer
    | none => .error (.handlerOutput h.key)

def answer (h : ProcessHandler) (programs : Programs) (input : Document) : Except Fault Document :=
  match programs h.invocation (payload input) with
  | some run => h.outcome run
  | none =>
    .error (.handler (h.key ++ ": failed to spawn " ++ h.invocation.program
      ++ ": No such file or directory (os error 2)"))

def handler (h : ProcessHandler) (programs : Programs) : Handler := ⟨h.key, h.answer programs⟩

end ProcessHandler

end ConceptSpace

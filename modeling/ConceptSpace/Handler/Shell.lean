import ConceptSpace.Handler.Shell.Command

/-! Running shell scripts and programs, as functions of what they read. -/
namespace ConceptSpace.Shell

open Script

structure Sinks where
  output : Nat := 1
  errors : Nat := 2

def Sinks.redirect (sinks : Sinks) (r : Redirection) (target : String) : Sinks :=
  let place := if !r.duplicates then 0
    else if target == "1" then sinks.output
    else if target == "2" then sinks.errors
    else 0
  if r.isInput then sinks
  else if r.descriptor == 1 then { sinks with output := place }
  else if r.descriptor == 2 then { sinks with errors := place }
  else sinks

def Sinks.apply (sinks : Sinks) (e : Effect) : Effect :=
  let at_ (place : Nat) :=
    (if sinks.output == place then e.output else []) ++ (if sinks.errors == place then e.errors else [])
  { e with output := at_ 1, errors := at_ 2 }

def withoutEnd (output : Bytes) : String :=
  String.ofList ((Text.ofUtf8 output).toList.reverse.dropWhile (· == '\n')).reverse

mutual

def runFields (s : State) (input : Bytes) : (fuel : Nat) → List String → Effect
  | 0, _ => { unread := input }
  | _ + 1, [] => { unread := input, values := s.values }
  | fuel + 1, name :: args =>
    let kept (e : Effect) : Effect := { e with values := s.values }
    if name == "exec" then
      let e := runFields s input fuel args
      { e with ended := some (e.ended.getD (.exited e.status)) }
    else if name == "sh" || name == "/bin/sh" then kept (runShell input fuel args).returned
    else
      match assignment? name with
      | some setting =>
        let e := runFields { s with values := setting :: s.values } input fuel args
        if args.all isAssignment then e else kept e
      | none =>
        match builtin? s name args input with
        | some e => if name == "read" then e else kept e
        | none =>
          match program? name args input with
          | some e => kept e
          | none => kept (.failing input 127 (s.complaint (name ++ ": not found")))
termination_by structural fuel => fuel

def runParts (s : State) (before : Effect) : (fuel : Nat) → Word → List Piece × Effect
  | 0, _ => ([], before)
  | _ + 1, [] => ([], before)
  | fuel + 1, part :: rest =>
    match part with
    | .command script _ =>
      let e := (runScript s before.unread fuel script).returned
      let (pieces, after) := runParts s (before.followedBy { e with output := [] }) fuel rest
      (s.piece (withoutEnd e.output) part :: pieces, after)
    | part =>
      let (pieces, after) := runParts s before fuel rest
      (s.piece "" part :: pieces, after)
termination_by structural fuel => fuel

def runCommand (s : State) (input : Bytes) : (fuel : Nat) → Command → Effect
  | 0, _ => { unread := input }
  | fuel + 1, c =>
    let (words, before) := c.words.foldl (fun (words, before) word =>
      let (pieces, after) := runParts s before fuel word
      (words ++ [pieces], after)) ([], { unread := input })
    let fields := commandFields words
    let targets := c.redirections.map fun r => (r, joined (r.target.map (s.piece "")))
    let sinks := targets.foldl (fun (sinks : Sinks) t => sinks.redirect t.1 t.2) {}
    let isEmptied := targets.any fun t => t.1.isInput && t.1.descriptor == 0
    let e := sinks.apply (runFields s (if isEmptied then [] else before.unread) fuel fields)
    let e := if isEmptied then { e with unread := before.unread } else e
    before.followedBy (if fields.all isAssignment then { e with status := before.status } else e)
termination_by structural fuel => fuel

def runPipeline (s : State) (input : Bytes) : (fuel : Nat) → List Command → Effect
  | 0, _ => { unread := input }
  | _ + 1, [] => { unread := input, values := s.values }
  | fuel + 1, [c] => runCommand s input fuel c
  | fuel + 1, c :: rest =>
    let first := runCommand s input fuel c
    let second := (runPipeline s first.output fuel rest).returned
    { second with
      errors := first.errors ++ second.errors
      unread := first.unread
      elapsed := max first.elapsed second.elapsed
      values := s.values }
termination_by structural fuel => fuel

def runSteps (s : State) (input : Bytes) : (fuel : Nat) → List Step → Effect
  | 0, _ => { unread := input, status := s.status }
  | _ + 1, [] => { unread := input, status := s.status }
  | fuel + 1, step :: rest =>
    let runs := match step.condition with
      | .always => true
      | .onSuccess => s.status == 0
      | .onFailure => s.status != 0
    if !runs then runSteps s input fuel rest
    else
      let e := runPipeline { s with line := step.line } input fuel step.pipeline
      if e.ended.isSome then e
      else e.followedBy
        (runSteps { s with status := e.status, values := e.values } e.unread fuel rest)
termination_by structural fuel => fuel

def runScript (s : State) (input : Bytes) : (fuel : Nat) → String → Effect
  | 0, _ => { unread := input }
  | fuel + 1, text =>
    match read text with
    | .ok steps => runSteps s input fuel steps
    | .error error => .failing input 2 (s.complaint error.message)
termination_by structural fuel => fuel

def runShell (input : Bytes) : (fuel : Nat) → List String → Effect
  | 0, _ => { unread := input }
  | fuel + 1, args =>
    match args with
    | "-c" :: text :: name :: rest => runScript ⟨name, rest, 1, [], 0⟩ input fuel text
    | ["-c", text] => runScript ⟨"sh", [], 1, [], 0⟩ input fuel text
    | ["-c"] => .failing input 2 "sh: 0: -c requires an argument"
    | [] => runScript ⟨"sh", [], 1, [], 0⟩ [] fuel (Text.ofUtf8 input)
    | file :: _ => .failing input 2 ("sh: 0: cannot open " ++ file ++ ": No such file")
termination_by structural fuel => fuel

end

/-- More steps than a script and the scripts inside it can have. -/
def fuelFor (args : List String) : Nat := 64 + 8 * (args.map String.length).foldl (· + ·) 0

def programName (path : String) : Option String :=
  match Text.splitAt '/' path with
  | [name] => some name
  | ["", "bin", name] => some name
  | ["", "usr", "bin", name] => some name
  | _ => none

def programs : Programs := fun invocation input =>
  (programName invocation.program).bind fun name =>
    let args := invocation.arguments
    if name == "sh" then some (runShell input (fuelFor args) args).run
    else (program? name args input).map Effect.run

end ConceptSpace.Shell

import ConceptSpace.Handler.Shell.Expansion
import ConceptSpace.Handler.Shell.Format

/-! Commands: a few programs, and what the shell carries out itself. -/
namespace ConceptSpace.Shell

def number? (text : String) : Option Nat := Decimal.inBase? 10 text.toList

def milliseconds? (text : String) : Option Nat :=
  (Decimal.Numeral.ofChars? text.toList).bind fun n =>
    if n.exponent != 0 then none
    else some (Decimal.valueOf n.whole * 1000
      + Decimal.valueOf (n.places ++ ['0', '0', '0']) * 1000 / Nat.pow 10 (n.places.length + 3))

def test? : List String → Option Bool
  | [] => some false
  | [text] => some (text != "")
  | ["!", text] => some (text == "")
  | ["-n", text] => some (text != "")
  | ["-z", text] => some (text == "")
  | [left, "=", right] => some (left == right)
  | [left, "!=", right] => some (left != right)
  | [left, relation, right] => do
    let m ← number? left
    let n ← number? right
    match relation with
    | "-eq" => some (m == n)
    | "-ne" => some (m != n)
    | "-lt" => some (m < n)
    | "-le" => some (m ≤ n)
    | "-gt" => some (n < m)
    | "-ge" => some (n ≤ m)
    | _ => none
  | _ => none

def firstLines : (n : Nat) → Bytes → Bytes
  | 0, _ => []
  | _ + 1, [] => []
  | n + 1, b :: rest => b :: firstLines (if b == 10 then n else n + 1) rest

def blockSize : Nat := 8192

def program? (name : String) (args : List String) (input : Bytes) : Option Effect :=
  match name, args with
  | "cat", _ =>
    match args.filter (· != "-") with
    | [] => some { output := input, unread := [] }
    | file :: _ =>
      if file == "/dev/null" then some { unread := input }
      else some (.failing input 1 ("cat: " ++ file ++ ": No such file or directory"))
  | "true", _ => some (.answering input true)
  | "false", _ => some (.answering input false)
  | "sleep", _ =>
    match args.mapM milliseconds? with
    | some times => some { unread := input, elapsed := times.foldl (· + ·) 0 }
    | none => some (.failing input 1 "sleep: invalid time interval")
  | "echo", "-n" :: rest =>
    some { unread := input, output := bytes (String.intercalate " " rest).toList }
  | "echo", _ =>
    some { unread := input, output := bytes ((String.intercalate " " args).toList ++ ['\n']) }
  | "printf", pattern :: rest =>
    some { unread := input, output := formatted (rest.length + 1) pattern.toList rest }
  | "wc", ["-c"] => some { unread := [], output := bytes (toString input.length ++ "\n").toList }
  | "wc", ["-l"] => some { unread := [], output := bytes (toString (input.count 10) ++ "\n").toList }
  | "head", ["-c", count] =>
    (number? count).map fun n => { unread := input.drop n, output := input.take n }
  | "head", ["-n", count] =>
    (number? count).map fun n => { unread := input.drop blockSize, output := firstLines n input }
  | "test", _ =>
    match test? args with
    | some holds => some (.answering input holds)
    | none => some { unread := input, status := 2 }
  | _, _ => none

def signal? (name : String) : Option Nat :=
  match number? name with
  | some n => some n
  | none => (signalNames.find? fun s => s.2 == name || s.2 == "SIG" ++ name).map (·.1)

def kill (s : State) (input : Bytes) (signal : Option Nat) (target : String) : Effect :=
  match signal with
  | none => .failing input 2 (s.complaint "kill: bad signal")
  | some 0 => .answering input (target == selfName)
  | some n =>
    if target == selfName then { unread := input, ended := some (.killed n) }
    else .failing input 1 (s.complaint "kill: No such process")

def exit (s : State) (input : Bytes) (status : Option String) : Effect :=
  match status with
  | none => { unread := input, status := s.status, ended := some (.exited s.status) }
  | some text =>
    match number? text with
    | some n =>
      if n < Nat.pow 2 31 then { unread := input, status := n % 256, ended := some (.exited (n % 256)) }
      else refused text
    | none => refused text
where
  refused (text : String) : Effect :=
    { Effect.failing input 2 (s.complaint ("exit: Illegal number: " ++ text)) with
      ended := some (.exited 2) }

def readLine (s : State) (name : String) (input : Bytes) : Effect :=
  let text := input.takeWhile (· != 10)
  let rest := (input.dropWhile (· != 10)).tail?
  { unread := rest.getD []
    status := if rest.isSome then 0 else 1
    values := (name, Text.ofUtf8 text) :: s.values }

def bracketed (s : State) (args : List String) (input : Bytes) : Effect :=
  if args.getLast? == some "]" then
    match test? args.dropLast with
    | some holds => .answering input holds
    | none => { unread := input, status := 2 }
  else .failing input 2 (s.complaint "[: missing ]")

def builtin? (s : State) (name : String) (args : List String) (input : Bytes) : Option Effect :=
  match name, args with
  | ":", _ => some { unread := input }
  | "[", _ => some (bracketed s args input)
  | "exit", _ => some (exit s input args.head?)
  | "kill", [target] => some (kill s input (some 15) target)
  | "kill", ["-s", signal, target] => some (kill s input (signal? signal) target)
  | "kill", [signal, target] =>
    some (kill s input (signal? (String.ofList (signal.toList.drop 1))) target)
  | "read", ["-r", target] => some (readLine s target input)
  | "read", [target] => some (readLine s target input)
  | "echo", "-n" :: rest =>
    some { unread := input, output := unescaped true (String.intercalate " " rest).toList }
  | "echo", _ =>
    some { unread := input, output := unescaped true (String.intercalate " " args).toList ++ [10] }
  | "printf", [] => some (.failing input 2 (s.complaint "printf: usage: printf format [arg ...]"))
  | _, _ => none

end ConceptSpace.Shell

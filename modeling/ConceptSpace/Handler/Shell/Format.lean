import ConceptSpace.Handler.Shell.Basic

/-! Escapes and directives that the shell fills in when it prints. -/
namespace ConceptSpace.Shell

def isOctal (c : Char) : Bool := '0' ≤ c && c ≤ '7'

def letterEscapes : List (Char × UInt8) :=
  [('n', 10), ('t', 9), ('r', 13), ('\\', 92), ('a', 7), ('b', 8), ('e', 27), ('f', 12), ('v', 11)]

def escape? (text : List Char) : Option (UInt8 × Nat) :=
  match text with
  | [] => none
  | c :: _ =>
    let digits := (text.take 3).takeWhile isOctal
    if digits.isEmpty then (letterEscapes.find? (·.1 == c)).map fun e => (e.2, 1)
    else some ((digits.foldl (fun n d => 8 * n + (d.toNat - '0'.toNat)) 0).toUInt8, digits.length)

def unescaped (hasZero : Bool) : List Char → Bytes
  | [] => []
  | '\\' :: rest =>
    let zeros := match hasZero, rest with
      | true, '0' :: c :: _ => if isOctal c then 1 else 0
      | _, _ => 0
    match escape? (rest.drop zeros) with
    | some (byte, length) => byte :: unescaped hasZero (rest.drop (zeros + length))
    | none => 92 :: unescaped hasZero rest
  | c :: rest => bytes [c] ++ unescaped hasZero rest
termination_by text => text.length
decreasing_by all_goals (simp only [List.length_cons, List.length_drop]; omega)

def directive? (c : Char) (argument : Option String) : Option Bytes :=
  let chars := (argument.getD "").toList
  if c == 's' then some (bytes chars)
  else if c == 'b' then some (unescaped true chars)
  else if c == 'c' then some (bytes (chars.take 1))
  else if c == 'd' || c == 'i' then some (bytes (if chars.isEmpty then ['0'] else chars))
  else none

def fill : List Char → List String → Bytes × List String
  | [], args => ([], args)
  | '%' :: '%' :: rest, args => let (text, left) := fill rest args; (37 :: text, left)
  | '%' :: c :: rest, args =>
    match directive? c args.head? with
    | some filled => let (text, left) := fill rest args.tail; (filled ++ text, left)
    | none => let (text, left) := fill rest args; (37 :: bytes [c] ++ text, left)
  | '\\' :: rest, args =>
    match escape? rest with
    | some (byte, length) => let (text, left) := fill (rest.drop length) args; (byte :: text, left)
    | none => let (text, left) := fill rest args; (92 :: text, left)
  | c :: rest, args => let (text, left) := fill rest args; (bytes [c] ++ text, left)
termination_by text => text.length
decreasing_by all_goals (simp only [List.length_cons, List.length_drop]; omega)

def formatted : (fuel : Nat) → List Char → List String → Bytes
  | 0, _, _ => []
  | fuel + 1, pattern, args =>
    let (text, left) := fill pattern args
    if left.isEmpty || left.length == args.length then text else text ++ formatted fuel pattern left

end ConceptSpace.Shell

import ConceptSpace.Decimal.Reading
import ConceptSpace.Document.Yaml.Cursor

/-! YAML scalars that are written as the lines of an indented block, folded or as they stand.
What is read so far is held last character first. -/
namespace ConceptSpace.Yaml

inductive Ending where
  | strip
  | clip
  | keep
  deriving DecidableEq, Repr

def ending? : Char → Option Ending
  | '-' => some .strip
  | '+' => some .keep
  | _ => none

def indentation? (c : Char) : Option Nat :=
  if '1' ≤ c && c ≤ '9' then some (Decimal.digitValue c) else none

def blockMarks (c : Cursor) : Ending × Nat × Cursor :=
  match c.rest with
  | [] => (.clip, 0, c)
  | a :: rest =>
    let next := rest.head?
    match ending? a, indentation? a with
    | some ending, _ =>
      match next.bind indentation? with
      | some n => (ending, n, c.advance 2)
      | none => (ending, 0, c.advance 1)
    | none, some n =>
      match next.bind ending? with
      | some ending => (ending, n, c.advance 2)
      | none => (.clip, n, c.advance 1)
    | none, none => (.clip, 0, c)

def emptyLines? (indent widest : Nat) (breaks : List Char) :
    (fuel : Nat) → Cursor → Option (Nat × List Char × Cursor)
  | 0, _ => none
  | fuel + 1, c =>
    let blanks := (c.rest.takeWhile (· == ' ')).length
    let c := c.advance (if indent == 0 then blanks else min blanks (indent - c.column))
    let widest := max widest c.column
    if (indent == 0 || c.column < indent) && c.rest.head? == some '\t' then none
    else if c.rest.head?.any isBreak then
      let (text, c) := c.lineBreak
      emptyLines? indent widest (text ++ breaks) fuel c
    else some (widest, breaks, c)

structure BlockText where
  done : List Char := []
  pending : List Char := []
  breaks : List Char := []
  indented : Bool := false

def BlockText.joint (t : BlockText) (folds indented : Bool) : List Char :=
  if folds && t.pending == ['\n'] && !t.indented && !indented then
    if t.breaks.isEmpty then [' '] else t.breaks
  else t.breaks ++ t.pending

def blockLines? (folds : Bool) (indent : Nat) (t : BlockText) :
    (fuel : Nat) → Cursor → Option (BlockText × Cursor)
  | 0, _ => none
  | fuel + 1, c =>
    if c.column != indent || c.rest.isEmpty then some (t, c)
    else do
      let indented := c.rest.head?.any isBlank
      let line := c.rest.takeWhile (!isBreak ·)
      let (pending, c) := (c.advance line.length).lineBreak
      let (_, breaks, c) ← emptyLines? indent 0 [] fuel c
      blockLines? folds indent
        { done := line.reverse ++ t.joint folds indented ++ t.done, pending, breaks, indented } fuel c

def BlockText.text (t : BlockText) (ending : Ending) : String :=
  String.ofList (match ending with
    | .strip => t.done.reverse
    | .clip => (t.pending ++ t.done).reverse
    | .keep => (t.breaks ++ t.pending ++ t.done).reverse)

def blockText? (folds : Bool) (parent : Int) (fuel : Nat) (c : Cursor) : Option (String × Cursor) := do
  let (ending, given, c) := blockMarks c
  let c ← c.endOfLine?
  let known := if given == 0 then 0 else (max parent 0).toNat + given
  let (widest, breaks, c) ← emptyLines? known 0 [] fuel c
  let indent := if known == 0 then max widest (max (parent + 1) 1).toNat else known
  let (t, c) ← blockLines? folds indent { breaks } fuel c
  some (t.text ending, c)

end ConceptSpace.Yaml

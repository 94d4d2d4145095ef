/-! Picking the best candidates one after the other.
Candidates are compared by one test only, whether a later one leaves the leader in place; nothing is
assumed of the test, so scores that cannot be compared are covered too. -/
namespace ConceptSpace.Selection

variable {α : Type}

structure Candidate (α : Type) where
  position : Nat
  score : α
  deriving DecidableEq, Repr

def candidates (scores : List α) : List (Candidate α) :=
  scores.zipIdx.map fun s => ⟨s.2, s.1⟩

def challenge (yields : α → α → Bool) (leader : Option (Candidate α)) (c : Candidate α) :
    Option (Candidate α) :=
  match leader with
  | some b => if yields c.score b.score then some b else some c
  | none => some c

def leader (yields : α → α → Bool) (cs : List (Candidate α)) : Option (Candidate α) :=
  cs.foldl (challenge yields) none

def pick (yields : α → α → Bool) (cs : List (Candidate α)) : (k : Nat) → List (Candidate α)
  | 0 => []
  | k + 1 =>
    match leader yields cs with
    | none => []
    | some b => b :: pick yields (cs.filter (·.position != b.position)) k

def within [Add α] [LE α] [DecidableLE α] (tolerance : α) (score best : α) : Bool :=
  score ≤ best + tolerance

end ConceptSpace.Selection

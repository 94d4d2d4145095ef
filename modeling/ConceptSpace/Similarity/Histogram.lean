/-! Vectors as histograms.
Negative values are clipped, every bin is smoothed, and the bins are scaled to a sum of one. The
distance between two histograms is the least work of moving one onto the other, with neighbouring
bins one apart: the sum of the differences of their running totals.
The arithmetic is a parameter: floats when the program runs, exact fractions in its theory. -/
namespace ConceptSpace.Histogram

variable {α : Type} [Add α] [Sub α] [Neg α] [Div α] [OfNat α 0] [LT α] [DecidableLT α]

def clip (x : α) : α := if 0 < x then x else 0

def magnitude (x : α) : α := if x < 0 then -x else x

def total (xs : List α) : α := xs.foldl (· + ·) 0

def bins (smoothing : α) (xs : List α) : List α := xs.map fun x => clip x + smoothing

def distribution (smoothing : α) (xs : List α) : List α :=
  let bins := bins smoothing xs
  let sum := total bins
  bins.map (· / sum)

structure Transport (α : Type) where
  left : α
  right : α
  work : α
  deriving Repr

namespace Transport

def step (t : Transport α) (bins : α × α) : Transport α :=
  let left := t.left + bins.1
  let right := t.right + bins.2
  ⟨left, right, t.work + magnitude (left - right)⟩

end Transport

def work (p q : List α) : α := ((p.zip q).foldl Transport.step ⟨0, 0, 0⟩).work

def distance (smoothing : α) (a b : List α) : α :=
  if a.isEmpty then 0 else work (distribution smoothing a) (distribution smoothing b)

end ConceptSpace.Histogram

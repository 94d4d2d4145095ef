import ConceptSpace.Narrative.Stage

/-! The history that lives in memory: the records of the last calls, oldest first. -/
namespace ConceptSpace

structure Window where
  entries : List NarrativeRecord
  capacity : Nat
  deriving Repr

namespace Window

def ofCapacity (capacity : Nat) : Window := ⟨[], max capacity 1⟩

def size (w : Window) : Nat := w.entries.length

def record (w : Window) (r : NarrativeRecord) : Window :=
  let entries := w.entries ++ [r]
  { w with entries := entries.drop (entries.length - w.capacity) }

def recent (w : Window) (limit : Nat) : List NarrativeRecord := w.entries.reverse.take limit

end Window

end ConceptSpace

import Std.Data.TreeMap
import ConceptSpace.Decimal.Binary
import ConceptSpace.FileTree
import ConceptSpace.Narrative.Stage

/-! The history that lasts: records in a tree ordered by key.
A key starts with the time of its record in twenty digits, so that the order of keys is the order of
times; a mark keeps keys of one time apart. Recording is three kinds of steps on the tree, an
insertion, a reading of the excess over the capacity, and that many removals of the least key. -/
namespace ConceptSpace

structure Archive where
  tree : Std.TreeMap String NarrativeRecord
  capacity : Nat

namespace Archive

def defaultCapacity : Nat := 500

def key (time : Int) (mark : String) : String := Decimal.padded 20 time.toNat ++ "/" ++ mark

def empty : Archive := ⟨∅, defaultCapacity⟩

def open? (files : FileTree) (path : String) : Except Fault Archive :=
  match files.lookup path with
  | .ok (.file _) => .error (.history "storage cannot be opened")
  | .error .notADirectory => .error (.history "storage cannot be opened")
  | _ => .ok empty

def withCapacity (a : Archive) (capacity : Nat) : Archive := { a with capacity := max capacity 1 }

def size (a : Archive) : Nat := a.tree.size

def insert (a : Archive) (mark : String) (r : NarrativeRecord) : Archive :=
  { a with tree := a.tree.insert (key r.recordedAt mark) r }

def excess (a : Archive) : Nat := a.tree.size - a.capacity

def popMin (a : Archive) : Archive :=
  match a.tree.minKey? with
  | some k => { a with tree := a.tree.erase k }
  | none => a

def popMins (a : Archive) : Nat → Archive
  | 0 => a
  | n + 1 => a.popMin.popMins n

def record (a : Archive) (mark : String) (r : NarrativeRecord) : Archive :=
  let inserted := a.insert mark r
  inserted.popMins inserted.excess

/-- A score that is not finite cannot be written down, so its record cannot be read back. -/
def isReadable (r : NarrativeRecord) : Bool := r.score.isFinite

def recent (a : Archive) (limit : Nat) : List NarrativeRecord :=
  (a.tree.values.reverse.filter isReadable).take limit

end Archive

end ConceptSpace

import Mathlib.Algebra.Order.Ring.Int
import Mathlib.Data.List.Sort
import ConceptSpace.History.Archive
import ConceptSpace.Proofs.PaddedDigits

/-! An archive as the list of its entries in key order.
A new entry takes its place among them, the least ones go first, and a later time has a greater key. -/
namespace ConceptSpace.Archive
open Std

abbrev Entry := String × NarrativeRecord

def entries (a : Archive) : List Entry := a.tree.toList

-- A 64-bit count of milliseconds has nineteen digits at most.
theorem keyLess {t u : Int} (less : max t 0 < max u 0) (room : u < 10 ^ 20) (mark other : String) :
    key t mark < key u other := by
  unfold key
  rw [String.append_assoc, String.append_assoc]
  exact Decimal.paddedLess (by omega) (by omega) _ _

variable {a : Archive} {mark : String} {r : NarrativeRecord}

theorem valuesEntries : a.tree.values = a.entries.map Prod.snd := by
  change a.tree.inner.inner.values = (DTreeMap.Internal.Impl.Const.toList a.tree.inner.inner).map _
  rw [DTreeMap.Internal.Impl.values_eq_map_snd, DTreeMap.Internal.Impl.Const.toList_eq_toListModel_map,
    List.map_map]
  rfl

theorem sizeEntries : a.size = a.entries.length := TreeMap.length_toList.symm

theorem entriesOrdered : a.entries.Pairwise fun e d => e.1 < d.1 :=
  TreeMap.ordered_keys_toList.imp compare_lt_iff_lt.mp

theorem orderedSame {xs ys : List Entry} (left : xs.Pairwise fun e d => e.1 < d.1)
    (right : ys.Pairwise fun e d => e.1 < d.1) (same : ∀ e, e ∈ xs ↔ e ∈ ys) : xs = ys := by
  have : Std.Irrefl fun e d : Entry => e.1 < d.1 := ⟨fun _ => lt_irrefl _⟩
  have : Std.Antisymm fun e d : Entry => e.1 < d.1 :=
    ⟨fun _ _ less greater => absurd less greater.asymm⟩
  exact left.eq_of_mem_iff right same

theorem insertPerm (fresh : key r.recordedAt mark ∉ a.entries.map Prod.fst) :
    (a.insert mark r).entries.Perm ((key r.recordedAt mark, r) :: a.entries) := by
  have others : a.entries.filter (fun e => ¬ key r.recordedAt mark == e.1) = a.entries := by
    rw [List.filter_eq_self]
    intro e mem
    have other : key r.recordedAt mark ≠ e.1 := fun same => fresh (same ▸ List.mem_map_of_mem mem)
    simpa using other
  have inserted : (a.insert mark r).entries.Perm
      ((key r.recordedAt mark, r) :: a.entries.filter fun e => ¬ key r.recordedAt mark == e.1) :=
    TreeMap.toList_insert_perm
  rwa [others] at inserted

theorem insertLast (greatest : ∀ e ∈ a.entries, e.1 < key r.recordedAt mark) :
    (a.insert mark r).entries = a.entries ++ [(key r.recordedAt mark, r)] := by
  have fresh : key r.recordedAt mark ∉ a.entries.map Prod.fst := by
    intro among
    obtain ⟨e, mem, same⟩ := List.mem_map.mp among
    exact (greatest e mem).ne same
  have ordered : (a.entries ++ [(key r.recordedAt mark, r)]).Pairwise fun e d => e.1 < d.1 := by
    refine List.pairwise_append.mpr ⟨entriesOrdered, List.pairwise_singleton _ _, ?_⟩
    intro e mem new added
    rw [List.mem_singleton.mp added]
    exact greatest e mem
  refine orderedSame entriesOrdered ordered fun e => ?_
  rw [(insertPerm fresh).mem_iff, List.mem_append, List.mem_singleton, List.mem_cons, or_comm]

theorem memErase {e : Entry} {k : String} :
    e ∈ (Archive.mk (a.tree.erase k) a.capacity).entries ↔ k ≠ e.1 ∧ e ∈ a.entries := by
  have held : e ∈ a.entries ↔ a.tree[e.1]? = some e.2 := TreeMap.mem_toList_iff_getElem?_eq_some
  rw [held]
  refine TreeMap.mem_toList_iff_getElem?_eq_some.trans ?_
  rw [TreeMap.getElem?_erase]
  by_cases same : k = e.1
  · simp [same]
  · simp [same]

theorem popMinEntries : a.popMin.entries = a.entries.tail := by
  have least : a.tree.minKey? = (a.entries.map Prod.fst).head? := by
    rw [TreeMap.minKey?_eq_head?_keys, ← TreeMap.map_fst_toList_eq_keys]
    rfl
  have ordered : a.entries.Pairwise fun e d => e.1 < d.1 := entriesOrdered
  rw [popMin, least]
  cases held : a.entries with
  | nil => exact held
  | cons e rest =>
    rw [held] at ordered
    obtain ⟨above, behind⟩ := List.pairwise_cons.mp ordered
    refine orderedSame entriesOrdered behind fun d => memErase.trans ?_
    rw [held, List.mem_cons]
    constructor
    · intro kept
      obtain ⟨other, rfl | later⟩ := kept
      · exact absurd rfl other
      · exact later
    · intro later
      exact ⟨(above d later).ne, .inr later⟩

theorem popMinCapacity : a.popMin.capacity = a.capacity := by
  unfold popMin
  split
  · rfl
  · rfl

theorem popMinSize : a.popMin.size = a.size - 1 := by
  rw [sizeEntries, sizeEntries, popMinEntries, List.length_tail]

theorem popMinsEntries (n : Nat) : (a.popMins n).entries = a.entries.drop n := by
  induction n generalizing a with
  | zero => rfl
  | succ n ih => rw [popMins, ih, popMinEntries, List.drop_tail]

theorem popMinsCapacity (n : Nat) : (a.popMins n).capacity = a.capacity := by
  induction n generalizing a with
  | zero => rfl
  | succ n ih => rw [popMins, ih, popMinCapacity]

theorem recordEntries : (a.record mark r).entries =
    (a.insert mark r).entries.drop ((a.insert mark r).entries.length - a.capacity) := by
  rw [← sizeEntries]
  exact popMinsEntries _

theorem recordCapacity : (a.record mark r).capacity = a.capacity := popMinsCapacity _

end ConceptSpace.Archive

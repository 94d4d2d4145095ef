import Mathlib.Data.List.Induction
import ConceptSpace.Proofs.TwoStores
import ConceptSpace.Proofs.UnblockedPast

/-! Records that come in any order.
A record takes its place among those that are held by its key, so by its time, and what is taken out then
is the oldest. Whatever has gone is older than all that stays, and no later record brings it back. -/
namespace ConceptSpace

namespace Archive

variable {a : Archive} {mark : String} {r : NarrativeRecord}

-- What an archive of some capacity holds of some records, and how it tells them.
structure KeepsNewest (a : Archive) (capacity : Nat) (records newestFirst : List NarrativeRecord) :
    Prop where
  all : newestFirst.Perm records
  ordered : newestFirst.Pairwise fun r s => max s.recordedAt 0 < max r.recordedAt 0
  size : a.size = min capacity records.length
  held : a.tree.values.reverse = newestFirst.take capacity
  recent (limit : Nat) : a.recent limit = ((newestFirst.take capacity).filter isReadable).take limit
  older (mark : String) (r : NarrativeRecord) : a.size = capacity →
    (∀ old ∈ a.tree.values, max r.recordedAt 0 < max old.recordedAt 0) →
      (a.record mark r).entries = a.entries

def entry (call : String × NarrativeRecord) : Entry := (key call.2.recordedAt call.1, call.2)

abbrev AsGreat (e d : Entry) : Prop := d.1 ≤ e.1

instance : Std.Total AsGreat := ⟨fun e d => le_total d.1 e.1⟩

instance : IsTrans Entry AsGreat := ⟨fun _ _ _ first second => second.trans first⟩

def byKey (entries : List Entry) : List Entry := entries.insertionSort AsGreat

-- What an insertion pushes beyond the first places does not come back into them.
theorem takeInsert {α : Type} (before : α → α → Prop) [DecidableRel before] (x : α) (l : List α)
    (n : Nat) : ((l.take n).orderedInsert before x).take n = (l.orderedInsert before x).take n := by
  induction l generalizing n with
  | nil => rw [List.take_nil]
  | cons y l ih =>
    cases n with
    | zero => rw [List.take_zero, List.take_zero]
    | succ n =>
      rw [List.take_succ_cons, List.orderedInsert_cons, List.orderedInsert_cons]
      by_cases first : before x y
      · rw [if_pos first, if_pos first, List.take_succ_cons, List.take_succ_cons, takeNewest]
      · rw [if_neg first, if_neg first, List.take_succ_cons, List.take_succ_cons, ih]

theorem keysApart : (a.entries.map Prod.fst).Nodup :=
  List.pairwise_map.mpr (entriesOrdered.imp ne_of_lt)

theorem insertReversed (fresh : key r.recordedAt mark ∉ a.entries.map Prod.fst) :
    (a.insert mark r).entries.reverse =
      a.entries.reverse.orderedInsert AsGreat (entry (mark, r)) := by
  have descending {b : Archive} : b.entries.reverse.Pairwise AsGreat :=
    List.pairwise_reverse.mpr (entriesOrdered.imp le_of_lt)
  have perm : (a.insert mark r).entries.reverse.Perm
      (a.entries.reverse.orderedInsert AsGreat (entry (mark, r))) :=
    calc (a.insert mark r).entries.reverse
      _ |>.Perm (a.insert mark r).entries := List.reverse_perm _
      _ |>.Perm (entry (mark, r) :: a.entries) := insertPerm fresh
      _ |>.Perm (entry (mark, r) :: a.entries.reverse) := (List.reverse_perm _).symm.cons _
      _ |>.Perm _ := (List.perm_orderedInsert _ _ _).symm
  refine perm.eq_of_pairwise ?_ descending (descending.orderedInsert _ _)
  intro e d inserted placed greater less
  exact List.inj_on_of_nodup_map keysApart (List.mem_reverse.mp inserted)
    (List.mem_reverse.mp (perm.mem_iff.mpr placed)) (le_antisymm less greater)

theorem recordReversed (fresh : key r.recordedAt mark ∉ a.entries.map Prod.fst) :
    (a.record mark r).entries.reverse =
      (a.entries.reverse.orderedInsert AsGreat (entry (mark, r))).take a.capacity := by
  rw [recordEntries, ← insertReversed fresh, List.take_reverse]

theorem insertFirst (least : ∀ e ∈ a.entries, key r.recordedAt mark < e.1) :
    (a.insert mark r).entries = entry (mark, r) :: a.entries := by
  have fresh : key r.recordedAt mark ∉ a.entries.map Prod.fst := by
    intro among
    obtain ⟨e, mem, same⟩ := List.mem_map.mp among
    exact (least e mem).ne' same
  exact orderedSame entriesOrdered (List.pairwise_cons.mpr ⟨least, entriesOrdered⟩)
    fun e => (insertPerm fresh).mem_iff

def recorded (capacity : Nat) (calls : List (String × NarrativeRecord)) : Archive :=
  calls.foldl (fun a call => a.record call.1 call.2) (empty.withCapacity capacity)

-- Of all entries so far it holds those that come first.
def HoldsFirst (a : Archive) (capacity : Nat) (calls : List (String × NarrativeRecord)) : Prop :=
  a.capacity = max capacity 1 ∧
    a.entries.reverse = (byKey (calls.map entry).reverse).take (max capacity 1)

variable {capacity : Nat} {calls : List (String × NarrativeRecord)}

theorem HoldsFirst.among (holds : a.HoldsFirst capacity calls) {e : Entry} (held : e ∈ a.entries) :
    ∃ call ∈ calls, entry call = e := by
  rw [← List.mem_reverse, holds.2] at held
  have placed : e ∈ byKey (calls.map entry).reverse := List.mem_of_mem_take held
  rw [byKey, List.mem_insertionSort, List.mem_reverse] at placed
  exact List.mem_map.mp placed

theorem HoldsFirst.record (holds : a.HoldsFirst capacity calls) {call : String × NarrativeRecord}
    (fresh : ∀ earlier ∈ calls, (entry earlier).1 ≠ (entry call).1) :
    (a.record call.1 call.2).HoldsFirst capacity (calls ++ [call]) := by
  have absent : key call.2.recordedAt call.1 ∉ a.entries.map Prod.fst := by
    intro among
    obtain ⟨e, held, same⟩ := List.mem_map.mp among
    obtain ⟨earlier, mem, rfl⟩ := holds.among held
    exact fresh earlier mem same
  refine ⟨recordCapacity.trans holds.1, ?_⟩
  rw [recordReversed absent, holds.1, holds.2, takeInsert, List.map_append, List.reverse_append]
  rfl

theorem HoldsFirst.older (holds : a.HoldsFirst capacity calls)
    (room : ∀ call ∈ calls, call.2.recordedAt < 10 ^ 20) (full : a.size = max capacity 1)
    (older : ∀ old ∈ a.tree.values, max r.recordedAt 0 < max old.recordedAt 0) :
    (a.record mark r).entries = a.entries := by
  have least : ∀ e ∈ a.entries, key r.recordedAt mark < e.1 := by
    intro e mem
    obtain ⟨call, recorded, rfl⟩ := holds.among mem
    have old : call.2 ∈ a.tree.values := by
      rw [valuesEntries]
      exact List.mem_map.mpr ⟨entry call, mem, rfl⟩
    exact keyLess (older _ old) (room call recorded) _ _
  rw [recordEntries, insertFirst least, List.length_cons, ← sizeEntries, full, holds.1,
    Nat.add_sub_cancel_left]
  rfl

theorem recordedFirst (capacity : Nat) (distinct : (calls.map fun call => (entry call).1).Nodup) :
    (recorded capacity calls).HoldsFirst capacity calls := by
  induction calls using List.reverseRecOn with
  | nil =>
    have none : (recorded capacity []).entries = [] := List.length_eq_zero_iff.mp sizeEntries.symm
    refine ⟨rfl, ?_⟩
    rw [none]
    exact List.take_nil.symm
  | append_singleton calls call ih =>
    rw [List.map_append, List.nodup_append] at distinct
    obtain ⟨apart, -, others⟩ := distinct
    rw [recorded, List.foldl_append]
    refine (ih apart).record ?_
    intro earlier mem
    exact others _ (List.mem_map_of_mem mem) _ List.mem_cons_self

abbrev AsLate (r s : NarrativeRecord) : Prop := max s.recordedAt 0 ≤ max r.recordedAt 0

instance : Std.Total AsLate := ⟨fun r s => le_total (max s.recordedAt 0) (max r.recordedAt 0)⟩

instance : IsTrans NarrativeRecord AsLate := ⟨fun _ _ _ first second => second.trans first⟩

def byTime (records : List NarrativeRecord) : List NarrativeRecord := records.insertionSort AsLate

theorem byTimeOrdered {records : List NarrativeRecord}
    (distinct : (records.map fun r => max r.recordedAt 0).Nodup) :
    (byTime records).Pairwise fun r s => max s.recordedAt 0 < max r.recordedAt 0 := by
  have perm : (byTime records).Perm records := List.perm_insertionSort _ _
  have apart := List.pairwise_map.mp ((perm.map fun r => max r.recordedAt 0).nodup_iff.mpr distinct)
  exact (List.pairwise_insertionSort AsLate records).imp₂
    (fun _ _ late other => lt_of_le_of_ne late other.symm) apart

theorem entryOrder {c d : String × NarrativeRecord} (room : c.2.recordedAt < 10 ^ 20)
    (roomToo : d.2.recordedAt < 10 ^ 20)
    (apart : max c.2.recordedAt 0 = max d.2.recordedAt 0 → c = d) :
    AsGreat (entry c) (entry d) ↔ AsLate c.2 d.2 := by
  rcases lt_trichotomy (max c.2.recordedAt 0) (max d.2.recordedAt 0) with earlier | same | later
  · have less : (entry c).1 < (entry d).1 := keyLess earlier roomToo _ _
    exact iff_of_false less.not_ge earlier.not_ge
  · cases apart same
    exact iff_of_true le_rfl le_rfl
  · have less : (entry d).1 < (entry c).1 := keyLess later room _ _
    exact iff_of_true less.le later.le

theorem byKeyRecords
    (order : ∀ c ∈ calls, ∀ d ∈ calls, AsGreat (entry c) (entry d) ↔ AsLate c.2 d.2) :
    (byKey (calls.map entry).reverse).map Prod.snd = byTime (calls.map Prod.snd).reverse := by
  have records : (calls.map Prod.snd).reverse = (calls.map entry).reverse.map Prod.snd := by
    rw [List.map_reverse, List.map_map]
    rfl
  rw [records]
  refine List.map_insertionSort AsGreat AsLate Prod.snd _ fun e mem d memToo => ?_
  obtain ⟨c, among, rfl⟩ := List.mem_map.mp (List.mem_reverse.mp mem)
  obtain ⟨c', amongToo, rfl⟩ := List.mem_map.mp (List.mem_reverse.mp memToo)
  exact order c among c' amongToo

theorem recordedKeeps (capacity : Nat) (room : ∀ call ∈ calls, call.2.recordedAt < 10 ^ 20)
    (distinct : (calls.map fun call => max call.2.recordedAt 0).Nodup) :
    (recorded capacity calls).KeepsNewest (max capacity 1) (calls.map Prod.snd)
      (byTime (calls.map Prod.snd).reverse) := by
  have order : ∀ c ∈ calls, ∀ d ∈ calls, AsGreat (entry c) (entry d) ↔ AsLate c.2 d.2 :=
    fun c mem d memToo =>
      entryOrder (room c mem) (room d memToo) (List.inj_on_of_nodup_map distinct mem memToo)
  have keys : (calls.map fun call => (entry call).1).Nodup := by
    refine distinct.of_map.map_on ?_
    intro c mem d memToo same
    have less := (order c mem d memToo).mp same.ge
    have greater := (order d memToo c mem).mp same.le
    exact List.inj_on_of_nodup_map distinct mem memToo (le_antisymm greater less)
  have holds := recordedFirst capacity keys
  generalize recorded capacity calls = a at holds
  have held : a.tree.values.reverse = (byTime (calls.map Prod.snd).reverse).take (max capacity 1) := by
    rw [valuesEntries, ← List.map_reverse, holds.2, List.map_take, byKeyRecords order]
  have size : a.size = min (max capacity 1) calls.length := by
    rw [sizeEntries, ← List.length_reverse, holds.2, List.length_take, byKey,
      List.length_insertionSort, List.length_reverse, List.length_map]
  refine ⟨?_, ?_, ?_, held, ?_, ?_⟩
  · exact (List.perm_insertionSort _ _).trans (List.reverse_perm _)
  · refine byTimeOrdered ?_
    rw [List.map_reverse, List.nodup_reverse, List.map_map]
    exact distinct
  · rw [size, List.length_map]
  · intro limit
    rw [Archive.recent, held]
  · intro mark r full older
    exact holds.older room full older

end Archive

namespace History

/-- A record of an earlier time has a lesser key, whatever the marks. So records of distinct times may come
in any order: after every one an archive holds as many of the newest as it can, it reads them newest first,
and once it is full it passes over a record that is older than all it holds. -/
theorem newestRecorded (capacity : Nat) {calls : List (String × NarrativeRecord)}
    (room : ∀ call ∈ calls, call.2.recordedAt < 10 ^ 20)
    (distinct : (calls.map fun call => max call.2.recordedAt 0).Nodup) :
    (∀ (t u : Int) (mark other : String), u < 10 ^ 20 → max t 0 < max u 0 →
      Archive.key t mark < Archive.key u other) ∧
    ∀ n, ∃ a newestFirst,
      (archive (Archive.empty.withCapacity capacity)).recordAll (calls.take n) = .ok (.archive a) ∧
      a.KeepsNewest (max capacity 1) ((calls.take n).map Prod.snd) newestFirst := by
  constructor
  · intro t u mark other within earlier
    exact Archive.keyLess earlier within mark other
  · intro n
    have roomSoFar : ∀ call ∈ calls.take n, call.2.recordedAt < 10 ^ 20 :=
      fun call mem => room call (List.mem_of_mem_take mem)
    have distinctSoFar := distinct.sublist ((List.take_sublist n calls).map _)
    exact ⟨_, _, recordAllArchive _ _, Archive.recordedKeeps capacity roomSoFar distinctSoFar⟩

-- The third time is before the epoch, and older than both that are held then.
def daysApart : List (String × NarrativeRecord) :=
  [("b", dayRecord 10 "dusk"), ("c", dayRecord 9 "noon"), ("a", dayRecord (-5) "dawn"),
    ("d", dayRecord 11 "night")]

theorem daysKept : (∀ call ∈ daysApart, call.2.recordedAt < 10 ^ 20) ∧
    (daysApart.map fun call => max call.2.recordedAt 0).Nodup ∧
    (∀ (t u : Int) (mark other : String), u < 10 ^ 20 → max t 0 < max u 0 →
      Archive.key t mark < Archive.key u other) ∧
    ∀ n, ∃ a newestFirst,
      (archive (Archive.empty.withCapacity 2)).recordAll (daysApart.take n) = .ok (.archive a) ∧
      a.KeepsNewest (max 2 1) ((daysApart.take n).map Prod.snd) newestFirst := by
  have room : ∀ call ∈ daysApart, call.2.recordedAt < 10 ^ 20 := by decide
  have distinct : (daysApart.map fun call => max call.2.recordedAt 0).Nodup := by decide
  exact ⟨room, distinct, newestRecorded 2 room distinct⟩

end History

end ConceptSpace

import Mathlib.Algebra.Order.BigOperators.Group.List
import Mathlib.Data.List.MinMax
import ConceptSpace.Proofs.Recorders

/-! What stays of the records that several calls record at once.
An excess that is read while another call prunes is too great, and then records go that were to stay. The
newest stay exactly when each record that is taken out is surplus. -/
namespace ConceptSpace
open Archive (Entry)

structure Archive.HoldsNewest (a : Archive) (all : List Entry) : Prop where
  size : a.size = min a.capacity all.length
  inside : ∀ e ∈ a.entries, e ∈ all
  newest : ∀ e ∈ all, e ∉ a.entries → ∀ kept ∈ a.entries, e.1 < kept.1

def Recording.left (c : Recording) : Nat :=
  match c.phase with
  | .pruning left => left
  | _ => 0

namespace Recorders

def above (entries : List Entry) (k : String) : Nat := entries.countP (k < ·.1)

-- As many greater keys as the archive can hold stand in it or are still to come.
def Due (s : Recorders) (i : Nat) : Prop :=
  ∀ e ∈ s.popped i, s.archive.capacity ≤ above s.entries e.1

def Throughout (s : Recorders) (schedule : List Nat) (P : Recorders → Nat → Prop) : Prop :=
  ∀ before i after mid, schedule = before ++ i :: after → s.run before = some mid → P mid i

theorem throughoutCons {s next : Recorders} {i : Nat} {rest : List Nat} {P : Recorders → Nat → Prop}
    (taken : s.step i = some next) (always : s.Throughout (i :: rest) P) :
    P s i ∧ next.Throughout rest P := by
  refine ⟨always [] i rest s rfl rfl, ?_⟩
  intro before j after mid split ran
  exact always (i :: before) j after mid (by rw [split, List.cons_append])
    (runCons.mpr ⟨next, taken, ran⟩)

theorem distinctLater {s : Recorders} {lost later : List Entry} (distinct : s.keys.Nodup)
    (perm : s.entries.Perm (lost ++ later)) : (later.map Prod.fst).Nodup := by
  have all := (perm.map Prod.fst).nodup_iff.mp distinct
  rw [List.map_append] at all
  exact all.of_append_right

theorem runLoses {s t : Recorders} {schedule : List Nat} (distinct : s.keys.Nodup)
    (ran : s.run schedule = some t) : ∃ lost, s.entries.Perm (lost ++ t.entries) ∧
      (s.Throughout schedule Due → ∀ e ∈ lost, s.archive.capacity ≤ above s.entries e.1) := by
  induction schedule generalizing s with
  | nil =>
    cases Option.some.inj ran
    exact ⟨[], List.Perm.refl _, fun _ e none => absurd none List.not_mem_nil⟩
  | cons i rest ih =>
    obtain ⟨next, taken, later⟩ := runCons.mp ran
    have step := stepLoses distinct (stepIff.mp taken)
    obtain ⟨lost, perm, surplus⟩ := ih (distinctLater distinct step) later
    refine ⟨s.popped i ++ lost, ?_, ?_⟩
    · rw [List.append_assoc]
      exact step.trans (perm.append_left _)
    · intro due e mem
      obtain ⟨dueNow, dueLater⟩ := throughoutCons taken due
      rcases List.mem_append.mp mem with now | late
      · exact dueNow e now
      · have more : above next.entries e.1 ≤ above s.entries e.1 := by
          rw [above, above, step.countP_eq, List.countP_append]
          exact Nat.le_add_left _ _
        rw [← stepCapacity (stepIff.mp taken)]
        exact (surplus dueLater e late).trans more

theorem surplusGone {capacity : Nat} {all lost kept : List Entry} (perm : all.Perm (lost ++ kept))
    (room : kept.length ≤ capacity) (surplus : ∀ e ∈ lost, capacity ≤ above all e.1) :
    kept.length = min capacity all.length ∧ ∀ e ∈ lost, ∀ k ∈ kept, e.1 < k.1 := by
  have total : all.length = lost.length + kept.length := by rw [perm.length_eq, List.length_append]
  cases greatest : lost.argmax Prod.fst with
  | none =>
    cases List.argmax_eq_none.mp greatest
    rw [List.length_nil] at total
    exact ⟨by omega, by simp⟩
  | some g =>
    -- What is greater than the greatest lost key is kept, and there is enough of it to fill the archive.
    have lostUpTo : ∀ e ∈ lost, e.1 ≤ g.1 := fun e mem => List.le_of_mem_argmax mem greatest
    have noneLost : above lost g.1 = 0 := by
      rw [above, List.countP_eq_zero]
      intro e mem
      rw [decide_eq_true_eq, not_lt]
      exact lostUpTo e mem
    have counted : above all g.1 = above kept g.1 := by
      rw [above, perm.countP_eq, List.countP_append]
      exact (congrArg (· + above kept g.1) noneLost).trans (Nat.zero_add _)
    have enough : capacity ≤ above kept g.1 := counted ▸ surplus g (List.argmax_mem greatest)
    have most : above kept g.1 ≤ kept.length := List.countP_le_length
    have allAbove : ∀ k ∈ kept, decide (g.1 < k.1) = true :=
      List.countP_eq_length.mp (by unfold above at *; omega)
    refine ⟨by omega, ?_⟩
    intro e mem k stays
    exact (lostUpTo e mem).trans_lt (of_decide_eq_true (allAbove k stays))

theorem dueKeeps {s t : Recorders} {schedule : List Nat} (distinct : s.keys.Nodup) (bounded : s.Bounded)
    (ran : s.run schedule = some t) (returned : t.Returned) (due : s.Throughout schedule Due) :
    t.archive.HoldsNewest s.entries := by
  obtain ⟨lost, perm, surplus⟩ := runLoses distinct ran
  have room := returnedWithin bounded ran returned
  rw [returnedEntries returned] at perm
  rw [Archive.sizeEntries] at room
  obtain ⟨size, less⟩ := surplusGone perm room (surplus due)
  refine ⟨?_, ?_, ?_⟩
  · rw [Archive.sizeEntries, runCapacity ran]
    exact size
  · intro e held
    exact perm.mem_iff.mpr (List.mem_append_right _ held)
  · intro e mem gone
    exact less e ((List.mem_append.mp (perm.mem_iff.mp mem)).resolve_right gone)

theorem momentLoses {s mid t : Recorders} {before after : List Nat} {i : Nat} (distinct : s.keys.Nodup)
    (early : s.run before = some mid) (late : mid.run (i :: after) = some t) :
    ∃ lost lostLater, s.entries.Perm (lost ++ mid.entries) ∧
      mid.entries.Perm (mid.popped i ++ (lostLater ++ t.entries)) := by
  obtain ⟨next, taken, rest⟩ := runCons.mp late
  obtain ⟨lost, perm, _⟩ := runLoses distinct early
  have distinctMid := distinctLater distinct perm
  have permNow := stepLoses distinctMid (stepIff.mp taken)
  obtain ⟨lostLater, permLater, _⟩ := runLoses (distinctLater distinctMid permNow) rest
  exact ⟨lost, lostLater, perm, permNow.trans (permLater.append_left _)⟩

theorem keptDue {s t : Recorders} {schedule : List Nat} (distinct : s.keys.Nodup)
    (ran : s.run schedule = some t) (returned : t.Returned) (holds : t.archive.HoldsNewest s.entries) :
    s.Throughout schedule Due := by
  rintro before i after mid rfl early e popped
  obtain ⟨mid', early', late⟩ := runAppend.mp ran
  cases Option.some.inj (early.symm.trans early')
  obtain ⟨lost, lostLater, perm, permNow⟩ := momentLoses distinct early late
  rw [returnedEntries returned] at permNow
  have mem : e ∈ s.entries := by
    refine perm.mem_iff.mpr (List.mem_append_right _ ?_)
    exact permNow.mem_iff.mpr (List.mem_append_left _ popped)
  have gone : e ∉ t.archive.entries := by
    intro stays
    have apart := (permNow.map Prod.fst).nodup_iff.mp (distinctLater distinct perm)
    rw [List.map_append, List.nodup_append] at apart
    have later := List.mem_map_of_mem (f := Prod.fst) (List.mem_append_right lostLater stays)
    exact apart.2.2 _ (List.mem_map_of_mem popped) _ later rfl
  have least : ∀ kept ∈ t.archive.entries, decide (e.1 < kept.1) = true :=
    fun kept stays => decide_eq_true (holds.newest e mem gone kept stays)
  -- Something is lost, so what stays fills the archive, and all of it is greater than what is popped.
  have size : t.archive.entries.length = min t.archive.capacity s.entries.length :=
    Archive.sizeEntries.symm.trans holds.size
  have fewer : t.archive.entries.length < s.entries.length := by
    have one : 0 < (mid.popped i).length := List.length_pos_of_mem popped
    rw [perm.length_eq, List.length_append, permNow.length_eq, List.length_append, List.length_append]
    omega
  calc mid.archive.capacity
      _ = t.archive.entries.length := by
        rw [runCapacity early, ← runCapacity ran]
        omega
      _ = above t.archive.entries e.1 := (List.countP_eq_length.mpr least).symm
      _ ≤ above mid.entries e.1 := by
        rw [above, above, permNow.countP_eq, List.countP_append, List.countP_append]
        omega

def left (s : Recorders) : Nat := (s.calls.map Recording.left).sum

-- No call has anything left to take out when this one reads the excess.
def ReadsAlone (s : Recorders) (i : Nat) : Prop :=
  ∀ c, s.calls[i]? = some c → c.phase = .inserted → s.left = 0

def Surplus (s : Recorders) : Prop := s.left ≤ s.archive.size - s.archive.capacity

theorem leftAt (a : Archive) (before : List Recording) (c : Recording) (after : List Recording) :
    left ⟨a, before ++ c :: after⟩ =
      (before.map Recording.left).sum + (c.left + (after.map Recording.left).sum) := by
  simp [left]

theorem stepSurplus {s t : Recorders} {i : Nat} (stepped : Stepped i s t) (alone : s.ReadsAlone i)
    (surplus : s.Surplus) : t.Surplus := by
  cases stepped with
  | insert a mark r after here =>
    have grown : a.size ≤ (a.insert mark r).size := Std.TreeMap.size_le_size_insert
    have capacity : (a.insert mark r).capacity = a.capacity := rfl
    simp only [Surplus, leftAt, Recording.left] at surplus ⊢
    omega
  | @read a before mark r after here =>
    have excess : a.excess = a.size - a.capacity := rfl
    have none := alone ⟨mark, r, .inserted⟩ (by simp [← here]) rfl
    rw [leftAt] at none
    simp only [Surplus, leftAt, Recording.left] at none ⊢
    omega
  | pop a mark r left after here =>
    have shrunk : a.popMin.size = a.size - 1 := Archive.popMinSize
    have capacity : a.popMin.capacity = a.capacity := Archive.popMinCapacity
    simp only [Surplus, leftAt, Recording.left] at surplus ⊢
    omega

theorem poppedFirst {c : Recording} {a : Archive} {e : Entry} (popped : e ∈ c.popped a) :
    ∃ left rest, c.phase = .pruning (left + 1) ∧ a.entries = e :: rest := by
  obtain ⟨mark, r, phase⟩ := c
  cases phase with
  | called => cases popped
  | inserted => cases popped
  | pruning left =>
    cases left with
    | zero => cases popped
    | succ left =>
      have first : e ∈ a.entries.take 1 := popped
      cases held : a.entries with
      | nil =>
        rw [held] at first
        cases first
      | cons least rest =>
        rw [held] at first
        cases List.mem_singleton.mp first
        exact ⟨left, rest, rfl, rfl⟩

theorem surplusDue {s : Recorders} (surplus : s.Surplus) (i : Nat) : s.Due i := by
  intro e popped
  obtain ⟨c, here, taken⟩ := List.mem_flatMap.mp popped
  obtain ⟨left, rest, phase, held⟩ := poppedFirst taken
  have mem : c ∈ s.calls := List.mem_of_getElem? (Option.mem_toList.mp here)
  have owes : c.left ≤ s.left := List.le_sum_of_mem (List.mem_map_of_mem mem)
  have ordered : s.archive.entries.Pairwise fun e d => e.1 < d.1 := Archive.entriesOrdered
  rw [held] at ordered
  have greater : ∀ d ∈ rest, decide (e.1 < d.1) = true :=
    fun d later => decide_eq_true ((List.pairwise_cons.mp ordered).1 d later)
  have size : s.archive.size = rest.length + 1 := by rw [Archive.sizeEntries, held, List.length_cons]
  simp only [Surplus, Recording.left, phase] at surplus owes
  calc s.archive.capacity
      _ ≤ rest.length := by omega
      _ = above rest e.1 := (List.countP_eq_length.mpr greater).symm
      _ ≤ above s.entries e.1 := by
        rw [above, above, entries, held, List.countP_append, List.countP_cons]
        omega

theorem apartDue {s : Recorders} {schedule : List Nat} (surplus : s.Surplus)
    (apart : s.Throughout schedule ReadsAlone) : s.Throughout schedule Due := by
  intro before i after mid split early
  apply surplusDue
  induction before generalizing s schedule with
  | nil =>
    cases Option.some.inj early
    exact surplus
  | cons j before ih =>
    subst split
    obtain ⟨next, taken, later⟩ := runCons.mp early
    obtain ⟨alone, apartLater⟩ := throughoutCons taken apart
    exact ih (stepSurplus (stepIff.mp taken) alone surplus) apartLater rfl later

theorem calledLeft {s : Recorders} (called : ∀ c ∈ s.calls, c.phase = .called) : s.left = 0 := by
  refine List.sum_eq_zero fun n mem => ?_
  obtain ⟨c, among, rfl⟩ := List.mem_map.mp mem
  rw [Recording.left, called c among]

/-- Whatever steps the calls take in between each other, no more stays than the archive can hold. What
stays is the newest of all exactly when nothing is taken out but what is surplus, and so it is whenever
each excess is read while no other call prunes. -/
theorem newestKeptIff {s t : Recorders} {schedule : List Nat}
    (called : ∀ c ∈ s.calls, c.phase = .called) (small : s.archive.size ≤ s.archive.capacity)
    (distinct : s.keys.Nodup) (ran : s.run schedule = some t) (returned : t.Returned) :
    t.archive.size ≤ s.archive.capacity ∧
      (t.archive.HoldsNewest s.entries ↔ s.Throughout schedule Due) ∧
      (s.Throughout schedule ReadsAlone → t.archive.HoldsNewest s.entries) := by
  have bounded : s.Bounded := small.trans (Nat.le_add_right _ _)
  have surplus : s.Surplus := by
    rw [Surplus, calledLeft called]
    exact Nat.zero_le _
  refine ⟨returnedWithin bounded ran returned, ?_, ?_⟩
  · exact ⟨keptDue distinct ran returned, dueKeeps distinct bounded ran returned⟩
  · intro apart
    exact dueKeeps distinct bounded ran returned (apartDue surplus apart)

def rival (mark : String) (time : Int) (phase : RecordPhase) : Recording :=
  ⟨mark, ⟨time, none, 0.5, "", ""⟩, phase⟩

def rivals : Recorders :=
  ⟨Archive.empty.withCapacity 1, [rival "a" 1 .called, rival "b" 2 .called]⟩

def rivalsAfter (taken : Nat) : Recorders where
  archive := ((rivals.archive.insert "a" (rival "a" 1 .called).record).insert "b"
    (rival "b" 2 .called).record).popMins taken
  calls := [rival "a" 1 (.pruning 0), rival "b" 2 (.pruning 0)]

theorem rivalsReturned (taken : Nat) : (rivalsAfter taken).Returned := by
  simp [Returned, rivalsAfter, rival]

theorem rivalsKept : (∀ c ∈ rivals.calls, c.phase = .called) ∧
    rivals.archive.size ≤ rivals.archive.capacity ∧ rivals.keys.Nodup ∧
    rivals.run [0, 1, 0, 0, 1] = some (rivalsAfter 1) ∧ (rivalsAfter 1).Returned ∧
    (rivalsAfter 1).archive.size ≤ rivals.archive.capacity ∧
    ((rivalsAfter 1).archive.HoldsNewest rivals.entries ↔ rivals.Throughout [0, 1, 0, 0, 1] Due) ∧
    (rivals.Throughout [0, 1, 0, 0, 1] ReadsAlone →
      (rivalsAfter 1).archive.HoldsNewest rivals.entries) := by
  have called : ∀ c ∈ rivals.calls, c.phase = .called := by simp [rivals, rival]
  have small : rivals.archive.size ≤ rivals.archive.capacity := by decide
  have distinct : rivals.keys.Nodup := by decide
  have read : (rivalsAfter 1).archive.excess = 0 := by
    have fits : (rivalsAfter 1).archive.size = 2 - 1 := Archive.popMinSize (a := (rivalsAfter 0).archive)
    have capacity : (rivalsAfter 1).archive.capacity = 1 := Archive.popMinCapacity
    exact Nat.sub_eq_zero_of_le (fits.trans capacity.symm).le
  have last := stepIff.mpr (.read (rivalsAfter 1).archive "b" (rival "b" 2 .called).record []
    (rfl : [rival "a" 1 (.pruning 0)].length = 1))
  rw [read] at last
  have ran : rivals.run [0, 1, 0, 0, 1] = some (rivalsAfter 1) :=
    runAppend.mpr ⟨_, (rfl : rivals.run [0, 1, 0, 0] = _), runCons.mpr ⟨_, last, rfl⟩⟩
  exact ⟨called, small, distinct, ran, rivalsReturned 1,
    newestKeptIff called small distinct ran (rivalsReturned 1)⟩

-- Both read the excess before either prunes.
theorem rivalsLost : (∀ c ∈ rivals.calls, c.phase = .called) ∧ 1 ≤ rivals.archive.capacity ∧
    rivals.archive.size ≤ rivals.archive.capacity ∧ rivals.keys.Nodup ∧
    rivals.run [0, 1, 0, 1, 0, 1] = some (rivalsAfter 2) ∧ (rivalsAfter 2).Returned ∧
    (rivalsAfter 2).archive.entries = [] ∧ ¬ (rivalsAfter 2).archive.HoldsNewest rivals.entries := by
  have empty : (rivalsAfter 2).archive.entries = [] := by
    have two : (rivalsAfter 0).archive.entries.length = 2 := Archive.sizeEntries.symm
    exact (Archive.popMinsEntries 2).trans (List.drop_eq_nil_of_le two.le)
  have called : ∀ c ∈ rivals.calls, c.phase = .called := by simp [rivals, rival]
  refine ⟨called, by decide, by decide, by decide, rfl, rivalsReturned 2, empty, ?_⟩
  intro holds
  have capacity : (rivalsAfter 2).archive.capacity = 1 := Archive.popMinsCapacity 2
  have size := holds.size
  rw [Archive.sizeEntries, empty, capacity] at size
  exact absurd size (by decide)

end Recorders

end ConceptSpace

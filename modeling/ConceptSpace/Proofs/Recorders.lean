import Mathlib.Algebra.BigOperators.Group.List.Basic
import ConceptSpace.Proofs.ArchiveEntries

/-! Calls that record into one archive at the same time.
A call inserts its record, then reads the excess over the capacity, and then takes that many least records
out; in between the other calls take steps of theirs. Each step keeps the entries but for what it takes
out, and once all calls have returned the archive is within its capacity. -/
namespace ConceptSpace
open Archive (Entry)

inductive RecordPhase where
  | called
  | inserted
  -- A call returns when it has none left to take out.
  | pruning (left : Nat)

structure Recording where
  mark : String
  record : NarrativeRecord
  phase : RecordPhase

namespace Recording

def entry (c : Recording) : Entry := (Archive.key c.record.recordedAt c.mark, c.record)

def coming (c : Recording) : List Entry :=
  match c.phase with
  | .called => [c.entry]
  | _ => []

def step (c : Recording) (a : Archive) : Option (Archive × Recording) :=
  match c.phase with
  | .called => some (a.insert c.mark c.record, { c with phase := .inserted })
  | .inserted => some (a, { c with phase := .pruning a.excess })
  | .pruning (left + 1) => some (a.popMin, { c with phase := .pruning left })
  | .pruning 0 => none

def popped (c : Recording) (a : Archive) : List Entry :=
  match c.phase with
  | .pruning (_ + 1) => a.entries.take 1
  | _ => []

-- An excess that is not read yet counts as one, for the record that the call has just inserted.
def owed (c : Recording) : Nat :=
  match c.phase with
  | .called => 0
  | .inserted => 1
  | .pruning left => left

end Recording

structure Recorders where
  archive : Archive
  calls : List Recording

namespace Recorders

def step (s : Recorders) (i : Nat) : Option Recorders := do
  let call ← s.calls[i]?
  let (archive, next) ← call.step s.archive
  return ⟨archive, s.calls.set i next⟩

-- A schedule names, step by step, the call that steps next.
def run (s : Recorders) (schedule : List Nat) : Option Recorders := schedule.foldlM step s

def Returned (s : Recorders) : Prop := ∀ c ∈ s.calls, c.phase = .pruning 0

-- What stands in the archive and what is still to come.
def entries (s : Recorders) : List Entry := s.archive.entries ++ s.calls.flatMap Recording.coming

def keys (s : Recorders) : List String := s.entries.map Prod.fst

def popped (s : Recorders) (i : Nat) : List Entry :=
  s.calls[i]?.toList.flatMap fun c => c.popped s.archive

def owed (s : Recorders) : Nat := (s.calls.map Recording.owed).sum

-- Every record beyond the capacity is one that some call has still to take out.
def Bounded (s : Recorders) : Prop := s.archive.size ≤ s.archive.capacity + s.owed

inductive Stepped (i : Nat) : Recorders → Recorders → Prop where
  | insert (a : Archive) {before : List Recording} (mark : String) (r : NarrativeRecord)
      (after : List Recording) (here : before.length = i) :
    Stepped i ⟨a, before ++ ⟨mark, r, .called⟩ :: after⟩
      ⟨a.insert mark r, before ++ ⟨mark, r, .inserted⟩ :: after⟩
  | read (a : Archive) {before : List Recording} (mark : String) (r : NarrativeRecord)
      (after : List Recording) (here : before.length = i) :
    Stepped i ⟨a, before ++ ⟨mark, r, .inserted⟩ :: after⟩
      ⟨a, before ++ ⟨mark, r, .pruning a.excess⟩ :: after⟩
  | pop (a : Archive) {before : List Recording} (mark : String) (r : NarrativeRecord) (left : Nat)
      (after : List Recording) (here : before.length = i) :
    Stepped i ⟨a, before ++ ⟨mark, r, .pruning (left + 1)⟩ :: after⟩
      ⟨a.popMin, before ++ ⟨mark, r, .pruning left⟩ :: after⟩

theorem stepIff {s t : Recorders} {i : Nat} : s.step i = some t ↔ Stepped i s t := by
  constructor
  · intro taken
    obtain ⟨a, calls⟩ := s
    simp only [step, bind, Option.bind_eq_some_iff] at taken
    obtain ⟨call, here, ⟨archive, next⟩, went, last⟩ := taken
    cases Option.some.inj last
    obtain ⟨before, after, rfl, rfl⟩ :
        ∃ before after, calls = before ++ call :: after ∧ before.length = i := by
      obtain ⟨inside, same⟩ := List.getElem?_eq_some_iff.mp here
      refine ⟨calls.take i, calls.drop (i + 1), ?_, List.length_take_of_le inside.le⟩
      rw [← same, List.getElem_cons_drop, List.take_append_drop]
    rw [List.set_append_right _ _ le_rfl, Nat.sub_self, List.set_cons_zero]
    obtain ⟨mark, r, phase⟩ := call
    cases phase with
    | called =>
      cases went
      exact .insert a mark r after rfl
    | inserted =>
      cases went
      exact .read a mark r after rfl
    | pruning left =>
      cases left with
      | zero => cases went
      | succ left =>
        cases went
        exact .pop a mark r left after rfl
  · intro stepped
    cases stepped with
    | insert a mark r after here => simp [step, ← here, Recording.step]
    | read a mark r after here => simp [step, ← here, Recording.step]
    | pop a mark r left after here => simp [step, ← here, Recording.step]

theorem runCons {s t : Recorders} {i : Nat} {rest : List Nat} :
    s.run (i :: rest) = some t ↔ ∃ next, s.step i = some next ∧ next.run rest = some t := by
  unfold run
  rw [List.foldlM_cons]
  exact Option.bind_eq_some_iff

theorem runAppend {s t : Recorders} {before after : List Nat} :
    s.run (before ++ after) = some t ↔ ∃ mid, s.run before = some mid ∧ mid.run after = some t := by
  unfold run
  rw [List.foldlM_append]
  exact Option.bind_eq_some_iff

theorem runKeeps {P : Recorders → Prop} (stepKeeps : ∀ {s t i}, Stepped i s t → P s → P t)
    {s t : Recorders} {schedule : List Nat} (ran : s.run schedule = some t) (holds : P s) : P t := by
  induction schedule generalizing s with
  | nil =>
    cases Option.some.inj ran
    exact holds
  | cons i rest ih =>
    obtain ⟨next, taken, later⟩ := runCons.mp ran
    exact ih later (stepKeeps (stepIff.mp taken) holds)

theorem pruneAlone (a : Archive) (before : List Recording) (mark : String) (r : NarrativeRecord)
    (after : List Recording) (n : Nat) :
    run ⟨a, before ++ ⟨mark, r, .pruning n⟩ :: after⟩ (List.replicate n before.length) =
      some ⟨a.popMins n, before ++ ⟨mark, r, .pruning 0⟩ :: after⟩ := by
  induction n generalizing a with
  | zero => rfl
  | succ n ih => exact runCons.mpr ⟨_, stepIff.mpr (.pop a mark r n after rfl), ih a.popMin⟩

-- A call whose steps no other call comes between.
theorem recordAlone (a : Archive) (before : List Recording) (mark : String) (r : NarrativeRecord)
    (after : List Recording) :
    run ⟨a, before ++ ⟨mark, r, .called⟩ :: after⟩
        (before.length :: before.length :: List.replicate (a.insert mark r).excess before.length) =
      some ⟨a.record mark r, before ++ ⟨mark, r, .pruning 0⟩ :: after⟩ := by
  refine runCons.mpr ⟨_, stepIff.mpr (.insert a mark r after rfl), ?_⟩
  refine runCons.mpr ⟨_, stepIff.mpr (.read _ mark r after rfl), ?_⟩
  exact pruneAlone _ before mark r after _

theorem stepCapacity {s t : Recorders} {i : Nat} (stepped : Stepped i s t) :
    t.archive.capacity = s.archive.capacity := by
  cases stepped with
  | insert => rfl
  | read => rfl
  | pop => exact Archive.popMinCapacity

theorem runCapacity {s t : Recorders} {schedule : List Nat} (ran : s.run schedule = some t) :
    t.archive.capacity = s.archive.capacity :=
  runKeeps (fun stepped same => (stepCapacity stepped).trans same) ran rfl

theorem entriesAt (a : Archive) (before : List Recording) (c : Recording) (after : List Recording) :
    entries ⟨a, before ++ c :: after⟩ = a.entries ++
      (before.flatMap Recording.coming ++ (c.coming ++ after.flatMap Recording.coming)) := by
  simp [entries]

theorem poppedAt (a : Archive) (before : List Recording) (c : Recording) (after : List Recording) :
    popped ⟨a, before ++ c :: after⟩ before.length = c.popped a := by
  simp [popped]

theorem owedAt (a : Archive) (before : List Recording) (c : Recording) (after : List Recording) :
    owed ⟨a, before ++ c :: after⟩ =
      (before.map Recording.owed).sum + (c.owed + (after.map Recording.owed).sum) := by
  simp [owed]

theorem stepLoses {s t : Recorders} {i : Nat} (distinct : s.keys.Nodup) (stepped : Stepped i s t) :
    s.entries.Perm (s.popped i ++ t.entries) := by
  cases stepped with
  | @insert a before mark r after here =>
    subst here
    rw [keys, entriesAt, List.map_append, List.nodup_append] at distinct
    have fresh : Archive.key r.recordedAt mark ∉ a.entries.map Prod.fst := by
      intro held
      exact distinct.2.2 _ held _ (by simp [Recording.coming, Recording.entry]) rfl
    rw [entriesAt, entriesAt, poppedAt]
    calc a.entries ++ (before.flatMap Recording.coming ++
            ((Archive.key r.recordedAt mark, r) :: after.flatMap Recording.coming))
        _ |>.Perm (a.entries ++ ((Archive.key r.recordedAt mark, r) ::
            (before.flatMap Recording.coming ++ after.flatMap Recording.coming))) :=
          List.perm_middle.append_left _
        _ |>.Perm (((Archive.key r.recordedAt mark, r) :: a.entries) ++
            (before.flatMap Recording.coming ++ after.flatMap Recording.coming)) := List.perm_middle
        _ |>.Perm _ := (Archive.insertPerm fresh).symm.append_right _
  | @read a before mark r after here =>
    subst here
    rw [entriesAt, entriesAt, poppedAt]
    exact List.Perm.refl _
  | @pop a before mark r left after here =>
    subst here
    have least : a.entries = a.entries.take 1 ++ a.popMin.entries := by
      rw [Archive.popMinEntries, ← List.drop_one, List.take_append_drop]
    rw [entriesAt, entriesAt, poppedAt, least, List.append_assoc]
    exact List.Perm.refl _

theorem stepBounded {s t : Recorders} {i : Nat} (stepped : Stepped i s t) (bounded : s.Bounded) :
    t.Bounded := by
  cases stepped with
  | insert a mark r after here =>
    have grown : (a.insert mark r).size ≤ a.size + 1 := Std.TreeMap.size_insert_le
    have capacity : (a.insert mark r).capacity = a.capacity := rfl
    simp only [Bounded, owedAt, Recording.owed] at bounded ⊢
    omega
  | read a mark r after here =>
    have excess : a.excess = a.size - a.capacity := rfl
    simp only [Bounded, owedAt, Recording.owed] at bounded ⊢
    omega
  | pop a mark r left after here =>
    have shrunk : a.popMin.size = a.size - 1 := Archive.popMinSize
    have capacity : a.popMin.capacity = a.capacity := Archive.popMinCapacity
    simp only [Bounded, owedAt, Recording.owed] at bounded ⊢
    omega

theorem returnedEntries {s : Recorders} (returned : s.Returned) : s.entries = s.archive.entries := by
  have none : s.calls.flatMap Recording.coming = [] := by
    rw [List.flatMap_eq_nil_iff]
    intro c mem
    rw [Recording.coming, returned c mem]
  rw [entries, none, List.append_nil]

theorem returnedOwed {s : Recorders} (returned : s.Returned) : s.owed = 0 := by
  refine List.sum_eq_zero fun n mem => ?_
  obtain ⟨c, among, rfl⟩ := List.mem_map.mp mem
  rw [Recording.owed, returned c among]

theorem returnedWithin {s t : Recorders} {schedule : List Nat} (bounded : s.Bounded)
    (ran : s.run schedule = some t) (returned : t.Returned) : t.archive.size ≤ s.archive.capacity := by
  have within : t.Bounded := runKeeps stepBounded ran bounded
  rwa [Bounded, returnedOwed returned, runCapacity ran] at within

end Recorders

end ConceptSpace

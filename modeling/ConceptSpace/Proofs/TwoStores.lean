import ConceptSpace.History.Store
import ConceptSpace.Proofs.ArchiveEntries

/-! The two stores tell the same history.
Records that come one after another, each at a later time, are held by the window and by the archive of
one capacity alike: both keep the newest ones, and both read them newest first. -/
namespace ConceptSpace

structure Mirrors (w : Window) (a : Archive) : Prop where
  capacity : w.capacity = a.capacity
  records : a.entries.map Prod.snd = w.entries
  keyed : ∀ e ∈ a.entries, ∃ mark, e.1 = Archive.key e.2.recordedAt mark

namespace Mirrors

variable {w : Window} {a : Archive}

theorem fresh (capacity : Nat) : Mirrors (.ofCapacity capacity) (Archive.empty.withCapacity capacity) :=
  ⟨rfl, rfl, by simp [Archive.entries, Archive.withCapacity, Archive.empty]⟩

theorem record (mirrors : Mirrors w a) {r : NarrativeRecord} (room : r.recordedAt < 10 ^ 20)
    (latest : ∀ old ∈ w.entries, max old.recordedAt 0 < max r.recordedAt 0) (mark : String) :
    Mirrors (w.record r) (a.record mark r) := by
  have greatest : ∀ e ∈ a.entries, e.1 < Archive.key r.recordedAt mark := by
    intro e held
    obtain ⟨other, keyed⟩ := mirrors.keyed e held
    have old : e.2 ∈ w.entries := mirrors.records ▸ List.mem_map_of_mem held
    rw [keyed]
    exact Archive.keyLess (latest e.2 old) room _ _
  have entries : (a.record mark r).entries =
      (a.entries ++ [(Archive.key r.recordedAt mark, r)]).drop (a.entries.length + 1 - a.capacity) := by
    rw [Archive.recordEntries, Archive.insertLast greatest, List.length_append, List.length_singleton]
  have length : a.entries.length = w.entries.length := by rw [← mirrors.records, List.length_map]
  refine ⟨mirrors.capacity.trans Archive.recordCapacity.symm, ?_, ?_⟩
  · rw [entries, List.map_drop, List.map_append, mirrors.records, length, Window.record,
      List.length_append, mirrors.capacity]
    rfl
  · intro e held
    rw [entries] at held
    rcases List.mem_append.mp (List.mem_of_mem_drop held) with old | new
    · exact mirrors.keyed e old
    · rw [List.mem_singleton.mp new]
      exact ⟨mark, rfl⟩

theorem size (mirrors : Mirrors w a) : w.size = a.size := by
  rw [Archive.sizeEntries, Window.size, ← mirrors.records, List.length_map]

theorem recent (mirrors : Mirrors w a) (readable : ∀ r ∈ w.entries, Archive.isReadable r = true)
    (limit : Nat) : w.recent limit = a.recent limit := by
  have all : w.entries.reverse.filter Archive.isReadable = w.entries.reverse :=
    List.filter_eq_self.mpr fun r mem => readable r (List.mem_reverse.mp mem)
  rw [Window.recent, Archive.recent, Archive.valuesEntries, mirrors.records, all]

theorem heldAmong {r old : NarrativeRecord} (held : old ∈ (w.record r).entries) :
    old ∈ w.entries ∨ old = r := by
  rcases List.mem_append.mp (List.mem_of_mem_drop held) with before | new
  · exact .inl before
  · exact .inr (List.mem_singleton.mp new)

theorem recordAll (mirrors : Mirrors w a) {calls : List (String × NarrativeRecord)}
    (readable : ∀ call ∈ calls, Archive.isReadable call.2 = true)
    (readableHeld : ∀ old ∈ w.entries, Archive.isReadable old = true)
    (room : ∀ call ∈ calls, call.2.recordedAt < 10 ^ 20)
    (later : calls.Pairwise fun c d => max c.2.recordedAt 0 < max d.2.recordedAt 0)
    (latest : ∀ call ∈ calls, ∀ old ∈ w.entries, max old.recordedAt 0 < max call.2.recordedAt 0) :
    Mirrors (calls.foldl (fun w call => w.record call.2) w)
        (calls.foldl (fun a call => a.record call.1 call.2) a) ∧
      ∀ old ∈ (calls.foldl (fun w call => w.record call.2) w).entries,
        Archive.isReadable old = true := by
  induction calls generalizing w a with
  | nil => exact ⟨mirrors, readableHeld⟩
  | cons call rest ih =>
    obtain ⟨readableNow, readableRest⟩ := List.forall_mem_cons.mp readable
    obtain ⟨roomNow, roomRest⟩ := List.forall_mem_cons.mp room
    obtain ⟨latestNow, latestRest⟩ := List.forall_mem_cons.mp latest
    obtain ⟨first, laterRest⟩ := List.pairwise_cons.mp later
    refine ih (mirrors.record roomNow latestNow call.1) readableRest ?_ roomRest laterRest ?_
    · intro old held
      rcases heldAmong held with before | rfl
      · exact readableHeld old before
      · exact readableNow
    · intro next mem old held
      rcases heldAmong held with before | rfl
      · exact latestRest next mem old before
      · exact first next mem

end Mirrors

namespace History

def recordAll (h : History) (calls : List (String × NarrativeRecord)) : Except Fault History :=
  calls.foldlM (fun h call => h.record call.1 call.2) h

theorem recordAllWindow (w : Window) (calls : List (String × NarrativeRecord)) :
    (window w).recordAll calls = .ok (.window (calls.foldl (fun w call => w.record call.2) w)) := by
  induction calls generalizing w with
  | nil => rfl
  | cons call rest ih => exact ih (w.record call.2)

theorem recordAllArchive (a : Archive) (calls : List (String × NarrativeRecord)) :
    (archive a).recordAll calls =
      .ok (.archive (calls.foldl (fun a call => a.record call.1 call.2) a)) := by
  induction calls generalizing a with
  | nil => rfl
  | cons call rest ih => exact ih (a.record call.1 call.2)

/-- While times go up, in the twenty digits of a key, and scores are finite, a window and a new archive of
one capacity are of one size after every call, and they read the same. -/
theorem storesAgree (capacity : Nat) {calls : List (String × NarrativeRecord)}
    (readable : ∀ call ∈ calls, Archive.isReadable call.2 = true)
    (room : ∀ call ∈ calls, call.2.recordedAt < 10 ^ 20)
    (later : calls.Pairwise fun c d => max c.2.recordedAt 0 < max d.2.recordedAt 0) (n : Nat) :
    ∃ w a, (window (.ofCapacity capacity)).recordAll (calls.take n) = .ok (.window w) ∧
      (archive (Archive.empty.withCapacity capacity)).recordAll (calls.take n) = .ok (.archive a) ∧
      w.size = a.size ∧ ∀ limit, (window w).recent limit = (archive a).recent limit := by
  obtain ⟨mirrors, readableHeld⟩ := (Mirrors.fresh capacity).recordAll
    (fun call mem => readable call (List.mem_of_mem_take mem))
    (fun old held => absurd held List.not_mem_nil)
    (fun call mem => room call (List.mem_of_mem_take mem))
    (later.sublist (List.take_sublist n calls))
    (fun call mem old held => absurd held List.not_mem_nil)
  refine ⟨_, _, recordAllWindow _ _, recordAllArchive _ _, mirrors.size, fun limit => ?_⟩
  exact congrArg Except.ok (mirrors.recent readableHeld limit)

def dayRecord (time : Int) (intent : String) : NarrativeRecord := ⟨time, none, 0.5, intent, ""⟩

-- The first of these times is before the epoch and counts as the epoch.
def threeDays : List (String × NarrativeRecord) :=
  [("b", dayRecord (-5) "dawn"), ("c", dayRecord 9 "noon"), ("a", dayRecord 10 "dusk")]

theorem threeDaysAgree : (∀ call ∈ threeDays, Archive.isReadable call.2 = true) ∧
    (∀ call ∈ threeDays, call.2.recordedAt < 10 ^ 20) ∧
    (threeDays.Pairwise fun c d => max c.2.recordedAt 0 < max d.2.recordedAt 0) ∧
    ∃ w a, (window (.ofCapacity 2)).recordAll (threeDays.take 3) = .ok (.window w) ∧
      (archive (Archive.empty.withCapacity 2)).recordAll (threeDays.take 3) = .ok (.archive a) ∧
      w.size = a.size ∧ ∀ limit, (window w).recent limit = (archive a).recent limit := by
  have readable : ∀ call ∈ threeDays, Archive.isReadable call.2 = true := by decide
  have room : ∀ call ∈ threeDays, call.2.recordedAt < 10 ^ 20 := by decide
  have later : threeDays.Pairwise fun c d => max c.2.recordedAt 0 < max d.2.recordedAt 0 := by decide
  exact ⟨readable, room, later, storesAgree 2 readable room later 3⟩

end History

end ConceptSpace

import Mathlib.Data.List.Induction
import Mathlib.Data.List.Nodup

/-! Lists in which a key is kept once.
Of the elements with one key the first is kept, and those kept stay in order. A list that grows by what it
does not hold yet comes to the same, with the elements as their own keys. -/
namespace ConceptSpace

universe u v
variable {α : Type u} {β : Type v}

theorem keptInduction {r : α → α → Bool} {motive : List α → Prop} (nil : motive [])
    (cons : ∀ a l, motive (l.filter fun b => decide (r b a = false)) → motive (a :: l)) (l : List α) :
    motive l := by
  match l with
  | [] => exact nil
  | a :: l => exact cons a l (keptInduction nil cons _)
termination_by l.length
decreasing_by exact Nat.lt_succ_of_le (List.length_filter_le _ _)

theorem keptSublist (r : α → α → Bool) (l : List α) : (l.eraseDupsBy r).Sublist l := by
  induction l using keptInduction (r := r) with
  | nil => exact .slnil
  | cons a l ih =>
    rw [List.eraseDupsBy_cons]
    exact .cons_cons a (ih.trans List.filter_sublist)

theorem keptOnce [BEq α] [LawfulBEq α] (l : List α) : l.eraseDups.Nodup := by
  change (l.eraseDupsBy fun a b => a == b).Nodup
  induction l using keptInduction (r := fun a b : α => a == b) with
  | nil => exact .nil
  | cons a l ih =>
    rw [List.eraseDupsBy_cons]
    refine List.nodup_cons.mpr ⟨fun again => ?_, ih⟩
    have listed := (keptSublist _ _).subset again
    simp at listed

theorem keptMap (r : β → β → Bool) (f : α → β) (l : List α) :
    (l.map f).eraseDupsBy r = (l.eraseDupsBy fun a b => r (f a) (f b)).map f := by
  induction l using keptInduction (r := fun a b => r (f a) (f b)) with
  | nil => rfl
  | cons a l ih =>
    rw [List.map_cons, List.eraseDupsBy_cons, List.eraseDupsBy_cons, List.map_cons, List.filter_map]
    exact congrArg _ ih

structure FirstOf (before : α → α → Prop) (key : α → β) (l : List α) (a : α) : Prop where
  mem : a ∈ l
  first : ∀ b ∈ l, key b = key a → b = a ∨ before a b

theorem keptFirst [BEq β] [LawfulBEq β] {before : α → α → Prop} (key : α → β) {l : List α}
    (ordered : l.Pairwise before) {a : α}
    (kept : a ∈ l.eraseDupsBy fun a b => key a == key b) : FirstOf before key l a := by
  induction l using keptInduction (r := fun a b => key a == key b) generalizing a with
  | nil => simp at kept
  | cons x l ih =>
    obtain ⟨ahead, ordered⟩ := List.pairwise_cons.mp ordered
    rw [List.eraseDupsBy_cons] at kept
    rcases List.mem_cons.mp kept with rfl | kept
    · refine ⟨List.mem_cons_self, fun b mem _ => ?_⟩
      rcases List.mem_cons.mp mem with same | later
      · exact .inl same
      · exact .inr (ahead b later)
    · obtain ⟨mem, first⟩ := ih (ordered.sublist List.filter_sublist) kept
      obtain ⟨mem, other⟩ := List.mem_filter.mp mem
      simp only [beq_eq_false_iff_ne, decide_eq_true_eq] at other
      refine ⟨List.mem_cons_of_mem _ mem, fun b listed same => ?_⟩
      rcases List.mem_cons.mp listed with rfl | listed
      · exact absurd same.symm other
      · exact first b (List.mem_filter.mpr ⟨listed, by simpa [same] using other⟩) same

def keepNew [DecidableEq α] (kept : List α) (a : α) : List α := if a ∈ kept then kept else kept ++ [a]

section
variable [DecidableEq α]

theorem keepEach (l kept : List α) : l.foldl keepNew kept = kept ++ (l.filter (· ∉ kept)).eraseDups := by
  induction l generalizing kept with
  | nil => simp
  | cons a l ih =>
    rw [List.foldl_cons, ih, keepNew]
    by_cases known : a ∈ kept
    · simp [known]
    · simp [known, List.eraseDups_cons, List.filter_filter, Bool.and_comm, not_or]
      rfl

structure FirstMet (l kept : List α) : Prop where
  distinct : kept.Nodup
  same : ∀ a, a ∈ kept ↔ a ∈ l
  order : kept.Pairwise fun a b => l.idxOf a < l.idxOf b

variable {l kept : List α} {a : α}

theorem FirstMet.stays (met : FirstMet l kept) (last : α) :
    kept.Pairwise fun a b => (l ++ [last]).idxOf a < (l ++ [last]).idxOf b := by
  refine met.order.imp_of_mem fun {a b} first second before => ?_
  rwa [List.idxOf_append_of_mem ((met.same a).mp first), List.idxOf_append_of_mem ((met.same b).mp second)]

theorem FirstMet.known (met : FirstMet l kept) (known : a ∈ kept) : FirstMet (l ++ [a]) kept := by
  refine ⟨met.distinct, fun b => ?_, met.stays a⟩
  have listed := (met.same a).mp known
  rw [met.same, List.mem_append, List.mem_singleton]
  exact ⟨.inl, fun either => either.elim id fun same => same ▸ listed⟩

theorem FirstMet.fresh (met : FirstMet l kept) (unknown : a ∉ kept) :
    FirstMet (l ++ [a]) (kept ++ [a]) := by
  have fresh := mt (met.same a).mpr unknown
  refine ⟨?distinct, fun b => ?same, List.pairwise_append.mpr
    ⟨met.stays a, List.pairwise_singleton _ _, ?order⟩⟩
  case distinct =>
    refine List.nodup_append.mpr ⟨met.distinct, List.nodup_singleton _, ?_⟩
    rintro b first c second rfl
    exact unknown (List.mem_singleton.mp second ▸ first)
  case same => rw [List.mem_append, List.mem_append, met.same]
  case order =>
    intro b first c second
    have earlier := (met.same b).mp first
    rw [List.mem_singleton.mp second, List.idxOf_append_of_mem earlier, List.idxOf_append_of_notMem fresh]
    have := List.idxOf_lt_length_of_mem earlier
    omega

theorem firstMet (l : List α) : FirstMet l (l.foldl keepNew []) := by
  induction l using List.reverseRecOn with
  | nil => exact ⟨.nil, by simp, .nil⟩
  | append_singleton l a ih =>
    rw [List.foldl_append, List.foldl_cons, List.foldl_nil, keepNew]
    split
    · rename_i known
      exact ih.known known
    · rename_i unknown
      exact ih.fresh unknown

end

end ConceptSpace

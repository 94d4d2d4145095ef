import Mathlib.Data.Finset.Card
import Mathlib.Data.List.Basic
import Mathlib.Logic.Relation
import ConceptSpace.ConceptGraph

/-! The walk over `is_a` edges finds exactly what they reach.
What is found stays reachable, and a concept with edges to be followed is either still in the queue or has
had them followed. Each visit takes one concept out of the queue and each concept comes into it once, so
the queue is empty after one visit for each edge and one for the start. -/
namespace ConceptSpace.ConceptGraph
open Std

def IsA (g : ConceptGraph) (a b : String) : Prop :=
  ∃ e ∈ g.edgesFrom a, e.target = b ∧ e.relationship = isA

def Reaches (g : ConceptGraph) : String → String → Prop := Relation.TransGen g.IsA

def members (found : TreeSet String) : Finset String := found.toList.toFinset

theorem memMembers {found : TreeSet String} {id : String} : id ∈ members found ↔ id ∈ found := by
  simp [members]

theorem membersDistinct (found : TreeSet String) : found.toList.Nodup := by
  refine List.Pairwise.imp ?_ (TreeSet.distinct_toList (t := found))
  intro a b apart same
  exact apart (Std.compare_eq_iff_eq.mpr same)

theorem membersCard (found : TreeSet String) : (members found).card = found.size := by
  rw [members, List.toFinset_card_of_nodup (membersDistinct found), TreeSet.length_toList]

namespace Walk
variable {id x : String} {w : Walk}

theorem followTaken {e : ConceptEdge} (label : e.relationship = isA) (other : e.target ≠ id)
    (fresh : e.target ∉ w.found) :
    w.follow id e = ⟨w.queue ++ [e.target], w.found.insert e.target⟩ := by
  rw [← TreeSet.contains_iff_mem, Bool.not_eq_true] at fresh
  simp [follow, label, other, fresh]

theorem followPassed {e : ConceptEdge}
    (passed : ¬ (e.relationship = isA ∧ e.target ≠ id ∧ e.target ∉ w.found)) : w.follow id e = w := by
  rw [follow, if_neg]
  simpa [and_assoc] using passed

structure Followed (id : String) (edges : List ConceptEdge) (w after : Walk) : Prop where
  found : ∀ x, x ∈ after.found ↔
    x ∈ w.found ∨ x ≠ id ∧ ∃ e ∈ edges, e.relationship = isA ∧ e.target = x
  queue : ∀ x, x ∈ after.queue ↔ x ∈ w.queue ∨ x ∈ after.found ∧ x ∉ w.found
  balance : after.queue.length + w.found.size = w.queue.length + after.found.size

theorem followOne (id : String) (w : Walk) (e : ConceptEdge) : Followed id [e] w (w.follow id e) := by
  by_cases taken : e.relationship = isA ∧ e.target ≠ id ∧ e.target ∉ w.found
  · obtain ⟨label, other, fresh⟩ := taken
    rw [followTaken label other fresh]
    refine ⟨fun x => ?_, fun x => ?_, ?_⟩
    · rw [TreeSet.mem_insert, Std.compare_eq_iff_eq]
      grind
    · rw [TreeSet.mem_insert, Std.compare_eq_iff_eq]
      grind
    · rw [TreeSet.size_insert, if_neg (mt TreeSet.contains_iff_mem.mp fresh), List.length_append,
        List.length_singleton]
      omega
  · rw [followPassed taken]
    refine ⟨fun x => ?_, fun x => ?_, rfl⟩
    · grind
    · simp

theorem followAll (id : String) (edges : List ConceptEdge) (w : Walk) :
    Followed id edges w (edges.foldl (follow id) w) := by
  induction edges generalizing w with
  | nil => exact ⟨by simp, by simp, rfl⟩
  | cons e edges ih =>
    have one := followOne id w e
    have rest := ih (w.follow id e)
    refine ⟨fun x => ?_, fun x => ?_, ?_⟩
    · rw [List.foldl_cons, rest.found, one.found]
      simp
      grind
    · rw [List.foldl_cons, rest.queue, one.queue, rest.found, one.found]
      grind
    · have first := one.balance
      have later := rest.balance
      rw [List.foldl_cons]
      omega

end Walk

structure Explores (g : ConceptGraph) (id : String) (w : Walk) : Prop where
  reached : ∀ x ∈ w.found, x ≠ id ∧ g.Reaches id x
  queued : ∀ x ∈ w.queue, x = id ∨ x ∈ w.found
  followed : ∀ a, a = id ∨ a ∈ w.found → a ∈ w.queue ∨ ∀ b, g.IsA a b → b = id ∨ b ∈ w.found

variable {g : ConceptGraph} {id : String}

theorem startExplores : g.Explores id (g.walk id 0) := by
  refine ⟨by simp [walk], by simp [walk], ?_⟩
  intro a start
  rcases start with rfl | found
  · exact .inl List.mem_cons_self
  · simp [walk] at found

section
variable {w : Walk} {current : String} {queue : List String} (next : w.queue = current :: queue)
include next

theorem visitFollows : Walk.Followed id (g.edgesFrom current) ⟨queue, w.found⟩ (g.visit id w) := by
  rw [visit, next]
  exact Walk.followAll id _ _

theorem visitFound {x : String} :
    x ∈ (g.visit id w).found ↔ x ∈ w.found ∨ x ≠ id ∧ g.IsA current x := by
  have leaving : (∃ e ∈ g.edgesFrom current, e.relationship = isA ∧ e.target = x) ↔ g.IsA current x := by
    simp only [IsA, and_comm]
  rw [(visitFollows next).found, leaving]

theorem visitQueue {x : String} :
    x ∈ (g.visit id w).queue ↔ x ∈ queue ∨ x ∈ (g.visit id w).found ∧ x ∉ w.found :=
  (visitFollows next).queue x

theorem visitFollowed (h : g.Explores id w) {a : String} (source : a = id ∨ a ∈ (g.visit id w).found) :
    a ∈ (g.visit id w).queue ∨ ∀ b, g.IsA a b → b = id ∨ b ∈ (g.visit id w).found := by
  by_cases old : a = id ∨ a ∈ w.found
  · rcases h.followed a old with waits | done
    · rw [next] at waits
      rcases List.mem_cons.mp waits with rfl | later
      · refine .inr fun b edge => ?_
        by_cases same : b = id
        · exact .inl same
        · exact .inr ((visitFound next).mpr (.inr ⟨same, edge⟩))
      · exact .inl ((visitQueue next).mpr (.inl later))
    · exact .inr fun b edge => (done b edge).imp_right fun old => (visitFound next).mpr (.inl old)
  · obtain ⟨other, new⟩ := not_or.mp old
    exact .inl ((visitQueue next).mpr (.inr ⟨source.resolve_left other, new⟩))

end

theorem visitExplores {w : Walk} (h : g.Explores id w) : g.Explores id (g.visit id w) := by
  match next : w.queue with
  | [] =>
    rw [visit, next]
    exact h
  | current :: queue =>
    refine ⟨?_, ?_, fun a source => visitFollowed next h source⟩
    · intro x taken
      rcases (visitFound next).mp taken with old | ⟨other, edge⟩
      · exact h.reached x old
      · refine ⟨other, ?_⟩
        rcases h.queued current (next ▸ List.mem_cons_self) with rfl | old
        · exact .single edge
        · exact (h.reached current old).2.tail edge
    · intro x waits
      rcases (visitQueue next).mp waits with old | ⟨new, _⟩
      · have listed : x ∈ w.queue := next ▸ List.mem_cons_of_mem _ old
        exact (h.queued x listed).imp_right fun old => (visitFound next).mpr (.inl old)
      · exact .inr new

theorem walkExplores (g : ConceptGraph) (id : String) (visits : Nat) :
    g.Explores id (g.walk id visits) := by
  induction visits with
  | zero => exact startExplores
  | succ visits ih => exact visitExplores ih

theorem walkBalance (g : ConceptGraph) (id : String) (visits : Nat) : (g.walk id visits).queue = [] ∨
    visits + (g.walk id visits).queue.length = (g.walk id visits).found.size + 1 := by
  induction visits with
  | zero => exact .inr rfl
  | succ visits ih =>
    match next : (g.walk id visits).queue with
    | [] =>
      left
      rw [walk, visit, next]
      exact next
    | current :: queue =>
      right
      have balance : (g.visit id (g.walk id visits)).queue.length + (g.walk id visits).found.size =
          queue.length + (g.visit id (g.walk id visits)).found.size := (visitFollows next).balance
      rw [next] at ih
      have counted := ih.resolve_left (List.cons_ne_nil _ _)
      rw [List.length_cons] at counted
      rw [walk]
      omega

def edges (g : ConceptGraph) : List ConceptEdge := g.outgoing.toList.flatMap fun row => row.2.toList

theorem edgesLength (g : ConceptGraph) : g.edges.length = g.edgeCount := by
  rw [edges, edgeCount, TreeMap.foldl_eq_foldl_toList, List.length_flatMap, List.sum_eq_foldl_nat,
    List.foldl_map]
  simp only [Array.length_toList]

theorem memEdges {a : String} {e : ConceptEdge} (leaving : e ∈ g.edgesFrom a) : e ∈ g.edges := by
  rw [edgesFrom, TreeMap.getD_eq_getD_getElem?] at leaving
  cases row : g.outgoing[a]? with
  | none => simp [row] at leaving
  | some edges =>
    rw [row, Option.getD_some] at leaving
    exact List.mem_flatMap.mpr ⟨(a, edges), TreeMap.mem_toList_iff_getElem?_eq_some.mpr row, leaving⟩

theorem foundWithinEdges {w : Walk} (h : g.Explores id w) : w.found.size ≤ g.edgeCount := by
  have targets : members w.found ⊆ (g.edges.map ConceptEdge.target).toFinset := by
    intro x found
    obtain ⟨_, _, e, edge, target, _⟩ :=
      Relation.TransGen.tail'_iff.mp (h.reached x (memMembers.mp found)).2
    exact List.mem_toFinset.mpr (List.mem_map.mpr ⟨e, memEdges edge, target⟩)
  have bound := (Finset.card_le_card targets).trans (List.toFinset_card_le _)
  rwa [membersCard, List.length_map, edgesLength] at bound

theorem walkEnds (g : ConceptGraph) (id : String) : (g.walk id (g.edgeCount + 1)).queue = [] := by
  have bound := foundWithinEdges (walkExplores g id (g.edgeCount + 1))
  rcases walkBalance g id (g.edgeCount + 1) with empty | balance
  · exact empty
  · exact List.length_eq_zero_iff.mp (by omega)

theorem idleStays {visits : Nat} (empty : (g.walk id visits).queue = []) (more : Nat) :
    g.walk id (visits + more) = g.walk id visits := by
  induction more with
  | zero => rfl
  | succ more ih =>
    have idle : g.visit id (g.walk id visits) = g.walk id visits := by rw [visit, empty]
    rw [← Nat.add_assoc, walk, ih, idle]

theorem endedFound {visits : Nat} (empty : (g.walk id visits).queue = []) :
    (g.walk id visits).found = g.supertypes id := by
  rw [supertypes]
  rcases Nat.le_total visits (g.edgeCount + 1) with early | late
  · obtain ⟨more, same⟩ := Nat.exists_eq_add_of_le early
    rw [same, idleStays empty]
  · obtain ⟨more, same⟩ := Nat.exists_eq_add_of_le late
    rw [same, idleStays (walkEnds g id)]

theorem reachedFound {w : Walk} (h : g.Explores id w) (empty : w.queue = []) {x : String}
    (path : g.Reaches id x) : x = id ∨ x ∈ w.found := by
  have step : ∀ {a b}, a = id ∨ a ∈ w.found → g.IsA a b → b = id ∨ b ∈ w.found := by
    intro a b source edge
    rcases h.followed a source with waits | done
    · simp [empty] at waits
    · exact done b edge
  induction path with
  | single edge => exact step (.inl rfl) edge
  | tail _ edge ih => exact step ih edge

theorem memSupertypes {x : String} : x ∈ g.supertypes id ↔ x ≠ id ∧ g.Reaches id x := by
  have explores := walkExplores g id (g.edgeCount + 1)
  constructor
  · exact explores.reached x
  · intro reached
    obtain ⟨other, path⟩ := reached
    exact (reachedFound explores (walkEnds g id) path).resolve_left other

end ConceptSpace.ConceptGraph

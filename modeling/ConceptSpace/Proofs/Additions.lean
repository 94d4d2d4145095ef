import Mathlib.Data.List.Induction
import ConceptSpace.Proofs.Supertypes

/-! Graphs that are built by additions.
A graph holds the edges from each concept in the order in which they were added. Its supertypes depend on no
order: they are what the `is_a` edges among the additions reach. -/
namespace ConceptSpace.ConceptGraph
open Std

inductive Addition where
  | node (id : String) (attributes : Attributes)
  | edge (source target relationship : String)
  | isA (child parent : String)

namespace Addition

def edge? : Addition → Option ConceptEdge
  | node _ _ => none
  | edge source target relationship => some ⟨source, target, relationship⟩
  | isA child parent => some ⟨child, parent, ConceptSpace.isA⟩

def Says (additions : List Addition) (a b : String) : Prop :=
  isA a b ∈ additions ∨ edge a b ConceptSpace.isA ∈ additions

end Addition

def add (g : ConceptGraph) : Addition → ConceptGraph
  | .node id attributes => g.addNode id attributes
  | .edge source target relationship => g.addEdge source target relationship
  | .isA child parent => g.addIsA child parent

def ofAdditions (additions : List Addition) : ConceptGraph := additions.foldl add empty

theorem addedNext (additions : List Addition) (addition : Addition) :
    ofAdditions (additions ++ [addition]) = (ofAdditions additions).add addition :=
  List.foldl_concat ..

theorem edgeAdded (g : ConceptGraph) (source target relationship id : String) :
    (g.addEdge source target relationship).edgesFrom id =
      g.edgesFrom id ++ [⟨source, target, relationship⟩].filter (·.source == id) := by
  rw [addEdge, edgesFrom, edgesFrom, TreeMap.getD_alter]
  by_cases leaves : source = id
  · subst leaves
    simp [mention, TreeMap.getD_eq_getD_getElem?]
  · simp [mention, leaves]

theorem leavingAdded (g : ConceptGraph) (addition : Addition) (id : String) :
    (g.add addition).edgesFrom id = g.edgesFrom id ++ addition.edge?.toList.filter (·.source == id) := by
  cases addition with
  | node other attributes => exact (List.append_nil _).symm
  | edge source target relationship => exact edgeAdded g source target relationship id
  | isA child parent => exact edgeAdded g child parent isA id

theorem leavingEach (additions : List Addition) (id : String) : (ofAdditions additions).edgesFrom id =
    (additions.filterMap Addition.edge?).filter (·.source == id) := by
  induction additions using List.reverseRecOn with
  | nil => rfl
  | append_singleton additions addition ih =>
    have last : [addition].filterMap Addition.edge? = addition.edge?.toList := by
      rw [List.filterMap_cons]
      cases addition.edge? <;> rfl
    rw [addedNext, leavingAdded, ih, List.filterMap_append, List.filter_append, last]

theorem isAIff {additions : List Addition} {a b : String} :
    (ofAdditions additions).IsA a b ↔ Addition.Says additions a b := by
  unfold IsA
  rw [leavingEach]
  constructor
  · intro edge
    obtain ⟨e, leaving, rfl, label⟩ := edge
    obtain ⟨mem, source⟩ := List.mem_filter.mp leaving
    obtain ⟨addition, listed, found⟩ := List.mem_filterMap.mp mem
    obtain rfl := beq_iff_eq.mp source
    cases addition with
    | node id attributes => cases found
    | edge source target relationship =>
      cases found
      exact .inr (label ▸ listed)
    | isA child parent =>
      cases found
      exact .inl listed
  · intro said
    refine ⟨⟨a, b, isA⟩, List.mem_filter.mpr ⟨List.mem_filterMap.mpr ?_, beq_self_eq_true a⟩, rfl, rfl⟩
    rcases said with listed | listed
    · exact ⟨_, listed, rfl⟩
    · exact ⟨_, listed, rfl⟩

theorem memSupertypesAdded {additions : List Addition} {id x : String} :
    x ∈ (ofAdditions additions).supertypes id ↔
      x ≠ id ∧ Relation.TransGen (Addition.Says additions) id x := by
  have same : (ofAdditions additions).IsA = Addition.Says additions := by
    funext a b
    exact propext isAIff
  rw [memSupertypes, Reaches, same]

/-- The walk runs out of concepts to visit after one visit for each edge at most and one for the start,
and then it ends. It has found exactly what the `is_a` edges lead to, the start left out, in whatever order
they were added. -/
theorem supertypesExact (additions : List Addition) (id : String) :
    ((ofAdditions additions).walk id ((ofAdditions additions).edgeCount + 1)).queue = [] ∧
    (∀ visits, ((ofAdditions additions).walk id visits).queue = [] →
      ((ofAdditions additions).walk id visits).found = (ofAdditions additions).supertypes id) ∧
    (∀ x, x ∈ (ofAdditions additions).supertypes id ↔
      x ≠ id ∧ Relation.TransGen (Addition.Says additions) id x) ∧
    ∀ others : List Addition, others.Perm additions →
      ((ofAdditions others).supertypes id).toList = ((ofAdditions additions).supertypes id).toList := by
  refine ⟨walkEnds _ id, fun visits => endedFound, fun x => memSupertypesAdded, ?_⟩
  intro others reordered
  have same : Addition.Says others = Addition.Says additions := by
    funext a b
    rw [Addition.Says, Addition.Says, reordered.mem_iff, reordered.mem_iff]
  refine (TreeSet.Equiv.of_forall_mem_iff fun x => ?_).toList_eq
  rw [memSupertypesAdded, memSupertypesAdded, same]

-- The cycle back to the start does not count, and what lies beyond it is found.
example : ((ofAdditions [.isA "b" "a", .isA "a" "b", .edge "b" "c" isA, .edge "a" "d" "likes"]).supertypes
    "a").toList = ["b", "c"] := by rfl

end ConceptSpace.ConceptGraph

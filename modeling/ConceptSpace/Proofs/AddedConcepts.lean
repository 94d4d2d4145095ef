import ConceptSpace.Proofs.Additions

/-! What a graph knows of the concepts that were added to it.
An edge brings its ends into the graph and leaves what was known of them; a concept that is added again has
its attributes replaced, and none is ever taken out. So whatever an edge leads to is a concept of the graph. -/
namespace ConceptSpace.ConceptGraph
open Std

namespace Addition

def concepts : Addition → List String
  | node id _ => [id]
  | edge source target _ => [source, target]
  | isA child parent => [child, parent]

def attributes? (id : String) : Addition → Option Attributes
  | node other attributes => if other = id then some attributes else none
  | edge _ _ _ => none
  | isA _ _ => none

end Addition

section
variable (additions : List Addition)

def Mentioned (id : String) : Prop := ∃ addition ∈ additions, id ∈ addition.concepts

instance (id : String) : Decidable (Mentioned additions id) :=
  inferInstanceAs (Decidable (∃ addition ∈ additions, id ∈ addition.concepts))

def latest (id : String) : Attributes :=
  (additions.filterMap (Addition.attributes? id)).getLast?.getD ∅

def Addition.leaving (id : String) (relationship : Option String) : List ConceptEdge :=
  (additions.filterMap Addition.edge?).filter fun e =>
    e.source = id ∧ ∀ label ∈ relationship, label = e.relationship

end

variable {g : ConceptGraph} {id : String}

theorem mentionAt (other : String) : (g.mention other).nodes[id]? =
    if other = id then some (g.nodes[id]?.getD ⟨id, ∅⟩) else g.nodes[id]? := by
  rw [mention, TreeMap.getElem?_insertIfNew]
  by_cases same : other = id
  · subst same
    cases known : g.nodes[other]? with
    | none => simp [TreeMap.mem_iff_isSome_getElem?, known]
    | some concept => simp [TreeMap.mem_iff_isSome_getElem?, known]
  · simp [same]

theorem edgeAt (source target relationship : String) : (g.addEdge source target relationship).nodes[id]? =
    if id ∈ [source, target] then some (g.nodes[id]?.getD ⟨id, ∅⟩) else g.nodes[id]? := by
  have both : (g.addEdge source target relationship).nodes = ((g.mention source).mention target).nodes := rfl
  rw [both, mentionAt, mentionAt]
  grind

theorem addAt (addition : Addition) : (g.add addition).nodes[id]? =
    if id ∈ addition.concepts then
      some (((addition.attributes? id).map (Concept.mk id)).getD (g.nodes[id]?.getD ⟨id, ∅⟩))
    else g.nodes[id]? := by
  cases addition with
  | node other attributes =>
    rw [add, addNode, TreeMap.getElem?_insert]
    by_cases same : other = id
    · simp [same, Addition.concepts, Addition.attributes?]
    · simp [same, Ne.symm same, Addition.concepts]
  | edge source target relationship => exact edgeAt source target relationship
  | isA child parent => exact edgeAt child parent isA

variable {additions : List Addition}

theorem latestNext (addition : Addition) :
    latest (additions ++ [addition]) id = (addition.attributes? id).getD (latest additions id) := by
  rw [latest, List.filterMap_append, List.filterMap_cons]
  cases addition.attributes? id with
  | none => simp [latest]
  | some attributes => simp

theorem mentionedNext (addition : Addition) :
    Mentioned (additions ++ [addition]) id ↔ Mentioned additions id ∨ id ∈ addition.concepts := by
  simp [Mentioned, or_and_right, exists_or]

theorem Addition.attributesElsewhere {addition : Addition} (elsewhere : id ∉ addition.concepts) :
    addition.attributes? id = none := by
  cases addition with
  | node other attributes => exact if_neg fun same => elsewhere (List.mem_singleton.mpr same.symm)
  | edge source target relationship => rfl
  | isA child parent => rfl

theorem latestUnmentioned (unmentioned : ¬ Mentioned additions id) : latest additions id = ∅ := by
  have ungiven : additions.filterMap (Addition.attributes? id) = [] :=
    List.filterMap_eq_nil_iff.mpr fun addition listed =>
      Addition.attributesElsewhere fun here => unmentioned ⟨addition, listed, here⟩
  rw [latest, ungiven]
  rfl

theorem nodesAt (additions : List Addition) (id : String) : (ofAdditions additions).nodes[id]? =
    if Mentioned additions id then some ⟨id, latest additions id⟩ else none := by
  induction additions using List.reverseRecOn with
  | nil => simp [ofAdditions, empty, Mentioned]
  | append_singleton additions addition ih =>
    have before : (ofAdditions additions).nodes[id]?.getD ⟨id, ∅⟩ = ⟨id, latest additions id⟩ := by
      by_cases old : Mentioned additions id
      · rw [ih, if_pos old, Option.getD_some]
      · rw [ih, if_neg old, Option.getD_none, latestUnmentioned old]
    rw [addedNext, addAt, latestNext, if_congr (mentionedNext addition) rfl rfl, before, ih]
    by_cases here : id ∈ addition.concepts
    · rw [if_pos here, if_pos (Or.inr here)]
      cases addition.attributes? id <;> rfl
    · rw [if_neg here, Addition.attributesElsewhere here, Option.getD_none]
      simp only [here, or_false]

theorem hasNodeIff : (ofAdditions additions).hasNode id = true ↔ Mentioned additions id := by
  rw [hasNode, TreeMap.contains_eq_isSome_getElem?, nodesAt]
  by_cases old : Mentioned additions id
  · simp [old]
  · simp [old]

theorem rowsPerm {rows others : TreeMap String (Array ConceptEdge)} {source : String} {row : Array ConceptEdge}
    (here : rows[source]? = some row) (elsewhere : ∀ id, source ≠ id → rows[id]? = others[id]?) :
    rows.toList.Perm ((source, row) :: others.toList.filter fun r => ¬ (source == r.1) = true) := by
  have same : rows.Equiv (others.insert source row) := by
    refine TreeMap.Equiv.of_forall_constGet?_eq fun id => ?_
    rw [TreeMap.getElem?_insert]
    by_cases leaves : source = id
    · simp [← leaves, here]
    · simp [leaves, elsewhere id leaves]
  rw [same.toList_eq]
  exact TreeMap.toList_insert_perm

theorem edgeCounted (g : ConceptGraph) (source target relationship : String) :
    (g.addEdge source target relationship).edgeCount = g.edgeCount + 1 := by
  have added (id : String) : (g.addEdge source target relationship).outgoing[id]? =
      if source = id then some ((g.outgoing[source]?.getD #[]).push ⟨source, target, relationship⟩)
      else g.outgoing[id]? := by
    simp [addEdge, mention, TreeMap.getElem?_alter]
  have after := rowsPerm ((added source).trans (if_pos rfl)) fun id other =>
    (added id).trans (if_neg other)
  rw [← edgesLength, ← edgesLength, edges, edges, (after.flatMap_right _).length_eq]
  cases before : g.outgoing[source]? with
  | none =>
    have whole : (g.outgoing.toList.filter fun r => ¬ (source == r.1) = true) = g.outgoing.toList := by
      refine List.filter_eq_self.mpr fun r listed => ?_
      have stored := TreeMap.mem_toList_iff_getElem?_eq_some.mp listed
      have other : source ≠ r.1 := by
        rintro rfl
        rw [before] at stored
        cases stored
      simpa using other
    rw [whole]
    simp [Nat.add_comm]
  | some row =>
    rw [((rowsPerm before fun _ _ => rfl).flatMap_right _).length_eq]
    simp only [List.flatMap_cons, List.length_append, Array.length_toList, Array.size_push,
      Option.getD_some]
    omega

theorem edgesCounted (additions : List Addition) :
    (ofAdditions additions).edgeCount = additions.countP (·.edge?.isSome) := by
  induction additions using List.reverseRecOn with
  | nil => rfl
  | append_singleton additions addition ih =>
    rw [addedNext, List.countP_append, ← ih]
    cases addition with
    | node id attributes => rfl
    | edge source target relationship => exact edgeCounted _ source target relationship
    | isA child parent => exact edgeCounted _ child parent isA

theorem edgeAttached {e : ConceptEdge} (edge : e ∈ (ofAdditions additions).edgesFrom id) :
    e.source = id ∧ Mentioned additions e.source ∧ Mentioned additions e.target := by
  rw [leavingEach] at edge
  obtain ⟨mem, source⟩ := List.mem_filter.mp edge
  refine ⟨beq_iff_eq.mp source, ?_⟩
  obtain ⟨addition, listed, found⟩ := List.mem_filterMap.mp mem
  cases addition with
  | node other attributes => cases found
  | edge source target relationship =>
    cases found
    exact ⟨⟨_, listed, List.mem_cons_self⟩, ⟨_, listed, List.mem_cons_of_mem _ List.mem_cons_self⟩⟩
  | isA child parent =>
    cases found
    exact ⟨⟨_, listed, List.mem_cons_self⟩, ⟨_, listed, List.mem_cons_of_mem _ List.mem_cons_self⟩⟩

theorem relatedEach (additions : List Addition) (id : String) (relationship : Option String) :
    (ofAdditions additions).related id relationship =
      (Addition.leaving additions id relationship).map fun e => ⟨e.target, latest additions e.target⟩ := by
  have left : (((ofAdditions additions).edgesFrom id).filter fun e =>
      relationship.all (· == e.relationship)) = Addition.leaving additions id relationship := by
    rw [leavingEach, List.filter_filter, Addition.leaving]
    refine List.filter_congr fun e _ => ?_
    rw [Bool.eq_iff_iff]
    cases relationship with
    | none => simp
    | some label => simp [and_comm]
  rw [related, ← left, ← List.filterMap_eq_map]
  refine List.filterMap_congr fun e leaves => ?_
  rw [nodesAt, if_pos (edgeAttached (List.mem_of_mem_filter leaves)).2.2]
  rfl

/-- A graph holds exactly what was added to it: under its own id each concept that was mentioned, with the
attributes that it was given last, and under its own source every edge. What an edge leads to is never
missing. -/
theorem additionsRepresented (additions : List Addition) :
    (∀ id, (ofAdditions additions).hasNode id = true ↔ Mentioned additions id) ∧
    (ofAdditions additions).edgeCount = additions.countP (·.edge?.isSome) ∧
    (∀ id, (ofAdditions additions).nodes[id]? =
      if Mentioned additions id then some ⟨id, latest additions id⟩ else none) ∧
    (∀ id relationship, (ofAdditions additions).related id relationship =
      (Addition.leaving additions id relationship).map fun e => ⟨e.target, latest additions e.target⟩) ∧
    ∀ id, ∀ e ∈ (ofAdditions additions).edgesFrom id, e.source = id ∧
      (ofAdditions additions).hasNode e.source = true ∧ (ofAdditions additions).hasNode e.target = true := by
  refine ⟨fun id => hasNodeIff, edgesCounted additions, nodesAt additions, relatedEach additions,
    fun id e edge => ?_⟩
  obtain ⟨own, source, target⟩ := edgeAttached edge
  exact ⟨own, hasNodeIff.mpr source, hasNodeIff.mpr target⟩

end ConceptSpace.ConceptGraph

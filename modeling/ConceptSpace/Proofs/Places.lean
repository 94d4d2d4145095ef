import Mathlib.Data.List.Forall2
import Mathlib.Data.List.Perm.Subperm

/-! Lists that tell of places in their order.
What a program reports one by one, such as all that it left out, is told by the places reported: which
ones they are, in which order they come, and what is said of each. -/
namespace ConceptSpace

variable {ι β γ : Type}

/-- There is one report for each place that satisfies `p`, in the order of the places, and `told` holds
between a place and what is reported of it. -/
def Reports (before : ι → ι → Prop) (p : ι → Prop) (told : ι → γ → Prop) (reports : List γ) : Prop :=
  ∃ places : List ι, places.Pairwise before ∧ (∀ i, i ∈ places ↔ p i) ∧
    List.Forall₂ told places reports

theorem Reports.congr {before : ι → ι → Prop} {p q : ι → Prop} {told say : ι → γ → Prop}
    {reports : List γ} (h : Reports before p told reports) (same : ∀ i, p i ↔ q i)
    (weaker : ∀ i c, told i c → say i c) : Reports before q say reports := by
  obtain ⟨places, sorted, exact, said⟩ := h
  exact ⟨places, sorted, fun i => (exact i).trans (same i), said.imp weaker⟩

theorem Reports.told {before : ι → ι → Prop} {p : ι → Prop} {told : ι → γ → Prop}
    {reports : List γ} (h : Reports before p told reports) {c : γ} (listed : c ∈ reports) :
    ∃ i, told i c := by
  obtain ⟨places, _, _, said⟩ := h
  clear * - said listed
  induction said with
  | nil => cases listed
  | cons tells _ ih =>
    rcases List.mem_cons.mp listed with rfl | later
    · exact ⟨_, tells⟩
    · exact ih later

theorem Reports.longer {δ : Type} {before : ι → ι → Prop} {p q : ι → Prop} {told : ι → γ → Prop}
    {say : ι → δ → Prop} {reports : List γ} {others : List δ} (h : Reports before p told reports)
    (more : Reports before q say others) (strict : ∀ i, ¬ before i i) (within : ∀ i, p i → q i) {i : ι}
    (further : q i) (new : ¬ p i) : reports.length < others.length := by
  obtain ⟨places, sorted, exact, said⟩ := h
  obtain ⟨all, _, whole, also⟩ := more
  have once : (i :: places).Nodup := by
    refine List.nodup_cons.mpr ⟨fun listed => new ((exact i).mp listed), sorted.imp ?_⟩
    rintro i _ ahead rfl
    exact strict i ahead
  have among : i :: places ⊆ all := by
    refine List.cons_subset.mpr ⟨(whole i).mpr further, fun j listed => ?_⟩
    exact (whole j).mpr (within j ((exact j).mp listed))
  rw [← said.length_eq, ← also.length_eq]
  exact (List.subperm_of_subset once among).length_le

theorem filterMapReports {before : ι → ι → Prop} {placed : List (ι × β)}
    (ordered : placed.Pairwise fun a b => before a.1 b.1) (f : β → Option γ) :
    Reports before (fun i => ∃ b, (i, b) ∈ placed ∧ f b ≠ none)
      (fun i c => ∃ b, (i, b) ∈ placed ∧ f b = some c) (placed.filterMap fun a => f a.2) := by
  induction placed with
  | nil => exact ⟨[], .nil, by simp, .nil⟩
  | cons a placed ih =>
    obtain ⟨ahead, ordered⟩ := List.pairwise_cons.mp ordered
    obtain ⟨places, sorted, exact, said⟩ := ih ordered
    have later : List.Forall₂ (fun i c => ∃ b, (i, b) ∈ a :: placed ∧ f b = some c) places
        (placed.filterMap fun a => f a.2) :=
      said.imp fun _ _ tells => tells.imp fun _ h => ⟨List.mem_cons_of_mem _ h.1, h.2⟩
    rw [List.filterMap_cons]
    cases here : f a.2 with
    | none =>
      refine ⟨places, sorted, fun i => ?_, later⟩
      rw [exact]
      grind
    | some c =>
      refine ⟨a.1 :: places, ?_, fun i => ?_, .cons ⟨a.2, List.mem_cons_self, here⟩ later⟩
      · refine List.pairwise_cons.mpr ⟨fun i listed => ?_, sorted⟩
        obtain ⟨b, among, _⟩ := (exact i).mp listed
        exact ahead _ among
      · rw [List.mem_cons, exact]
        grind

theorem zipIdxOrdered (l : List β) : l.zipIdx.Pairwise fun a b => a.2 < b.2 := by
  have positions : (l.zipIdx.map Prod.snd).Pairwise (· < ·) := by
    rw [List.zipIdx_map_snd]
    exact List.pairwise_lt_range' 1
  exact List.pairwise_map.mp positions

theorem indexedReports (l : List β) (f : Nat → β → Option γ) :
    Reports (· < ·) (fun i => ∃ b, l[i]? = some b ∧ f i b ≠ none)
      (fun i c => ∃ b, l[i]? = some b ∧ f i b = some c) (l.zipIdx.filterMap fun a => f a.2 a.1) := by
  have ordered : (l.zipIdx.map fun a => (a.2, a)).Pairwise fun a b => a.1 < b.1 :=
    List.pairwise_map.mpr (zipIdxOrdered l)
  have placed : ∀ (i : Nat) (a : β × Nat), (i, a) ∈ l.zipIdx.map (fun a => (a.2, a)) ↔
      l[i]? = some a.1 ∧ a.2 = i := by
    intro i a
    simp only [List.mem_map, Prod.mk.injEq]
    constructor
    · intro listed
      obtain ⟨_, among, rfl, rfl⟩ := listed
      exact ⟨List.mem_zipIdx_iff_getElem?.mp among, rfl⟩
    · intro listed
      obtain ⟨among, rfl⟩ := listed
      exact ⟨a, List.mem_zipIdx_iff_getElem?.mpr among, rfl, rfl⟩
  have reports := filterMapReports ordered fun a => f a.2 a.1
  rw [List.filterMap_map] at reports
  refine reports.congr (fun i => ?_) fun i c tells => ?_
  · simp only [placed]
    constructor
    · intro listed
      obtain ⟨a, ⟨here, rfl⟩, some⟩ := listed
      exact ⟨a.1, here, some⟩
    · intro listed
      obtain ⟨b, here, some⟩ := listed
      exact ⟨(b, i), ⟨here, rfl⟩, some⟩
  · obtain ⟨a, listed, some⟩ := tells
    obtain ⟨here, rfl⟩ := (placed i a).mp listed
    exact ⟨a.1, here, some⟩

theorem zipIdxFilterMap (l : List β) (f : β → Option γ) :
    (l.zipIdx.filterMap fun a => f a.1) = l.filterMap f := by
  have whole : l.filterMap f = (l.zipIdx.map Prod.fst).filterMap f := by rw [List.zipIdx_map_fst]
  rw [whole, List.filterMap_map]
  rfl

theorem listReports (l : List β) (f : β → Option γ) :
    Reports (· < ·) (fun i : Nat => ∃ b, l[i]? = some b ∧ f b ≠ none)
      (fun i c => ∃ b, l[i]? = some b ∧ f b = some c) (l.filterMap f) := by
  rw [← zipIdxFilterMap]
  exact indexedReports l fun _ => f

end ConceptSpace

import Mathlib.Algebra.Order.Field.Rat
import Mathlib.Data.String.Basic
import Mathlib.Tactic.FieldSimp
import Mathlib.Tactic.Linarith
import Mathlib.Tactic.Positivity
import ConceptSpace.Proofs.CountRatios
import ConceptSpace.Proofs.Supertypes
import ConceptSpace.Text.Words

/-! How much two texts share.
Their likeness is an exact fraction: the words of both over the words of either. Its floating-point value
is the ratio of the same two counts, so a text is entirely similar to itself, and no similarity is below
zero. -/
namespace ConceptSpace.Text
open ConceptGraph (members memMembers membersDistinct membersCard)
open ValueOrder (Plus ratioPlus ratioSelf)

def likeness (a b : String) : ℚ :=
  if (Overlap.of a b).union = 0 then 1 else (Overlap.of a b).shared / (Overlap.of a b).union

def SameWords (a b : String) : Prop := ∀ word, word ∈ words a ↔ word ∈ words b

theorem sameWordsIff {a b : String} : SameWords a b ↔ members (words a) = members (words b) := by
  simp only [SameWords, Finset.ext_iff, memMembers]

theorem overlapCards (a b : String) :
    Overlap.of a b = ⟨(members (words a) ∩ members (words b)).card,
      (members (words a) ∪ members (words b)).card⟩ := by
  have shared : ((words a).toList.filter (words b).contains).length =
      (members (words a) ∩ members (words b)).card := by
    rw [← List.toFinset_card_of_nodup ((membersDistinct _).filter _)]
    congr 1
    ext word
    simp [members, Std.TreeSet.contains_iff_mem]
  have both := Finset.card_union (members (words a)) (members (words b))
  simp only [Overlap.of, shared, ← membersCard, both]

theorem likenessSymm (a b : String) : likeness a b = likeness b a := by
  simp only [likeness, overlapCards, Finset.inter_comm, Finset.union_comm]

theorem sharedInside (a b : String) :
    members (words a) ∩ members (words b) ⊆ members (words a) ∪ members (words b) :=
  Finset.inter_subset_union

theorem sharedAtMost (a b : String) : (Overlap.of a b).shared ≤ (Overlap.of a b).union := by
  rw [overlapCards]
  exact Finset.card_le_card (sharedInside a b)

theorem likenessBounds (a b : String) : 0 ≤ likeness a b ∧ likeness a b ≤ 1 := by
  unfold likeness
  split
  · exact ⟨zero_le_one, le_refl 1⟩
  · have most : ((Overlap.of a b).shared : ℚ) ≤ (Overlap.of a b).union := by
      exact_mod_cast sharedAtMost a b
    exact ⟨by positivity, div_le_one_of_le₀ most (by positivity)⟩

theorem sharedAll {a b : String} : (Overlap.of a b).shared = (Overlap.of a b).union ↔ SameWords a b := by
  rw [sameWordsIff, overlapCards]
  constructor
  · intro full
    have same := Finset.eq_of_subset_of_card_le (sharedInside a b) full.ge
    exact inf_eq_sup.mp same
  · intro same
    simp [same]

theorem likenessOne (a b : String) : likeness a b = 1 ↔ SameWords a b := by
  rw [← sharedAll, likeness]
  split
  · rename_i empty
    have most := sharedAtMost a b
    exact iff_of_true rfl (by omega)
  · rename_i filled
    rw [div_eq_one_iff_eq (by exact_mod_cast filled), Nat.cast_inj]

def Addressable (text : String) : Prop := text.utf8ByteSize < 2 ^ 64
instance (text) : Decidable (Addressable text) := by
  unfold Addressable; infer_instance

theorem runsFew (word text : List Char) : (runs word text).length ≤ text.length + 1 := by
  induction text generalizing word with
  | nil => rw [runs]; split <;> simp
  | cons c rest ih =>
    have closed := ih []
    have opened := ih (c :: word)
    rw [runs, List.length_cons]
    split
    · omega
    · split
      · omega
      · rw [List.length_cons]
        omega

theorem lengthBytes (text : List Char) : text.length ≤ String.utf8Len text := by
  induction text with
  | nil => exact Nat.le_refl 0
  | cons c rest ih =>
    have positive := c.utf8Size_pos
    rw [List.length_cons, String.utf8Len_cons]
    omega

theorem wordsFew {text : String} (held : Addressable text) : (words text).size ≤ 2 ^ 64 := by
  have few := runsFew [] text.toList
  have sizes : (words text).size ≤ (runs [] text.toList).length := by
    have distinct := @Std.TreeSet.size_ofList_le _ compare _
      ((runs [] text.toList).map fun w => String.ofList (lowerChars w))
    simpa [words] using distinct
  have bytes : text.toList.length ≤ text.utf8ByteSize := by
    rw [← String.utf8Len_toList]
    exact lengthBytes _
  unfold Addressable at held
  omega

theorem unionFew {a b : String} (heldA : Addressable a) (heldB : Addressable b) :
    (Overlap.of a b).union < 2 ^ 66 := by
  have fewA := wordsFew heldA
  have fewB := wordsFew heldB
  simp only [Overlap.of]
  omega

theorem similaritySame {a b : String} (heldA : Addressable a) (heldB : Addressable b)
    (same : SameWords a b) : similarity a b = 1 := by
  simp only [similarity, sharedAll.mpr same]
  by_cases empty : (Overlap.of a b).union = 0
  · simp [empty]
  · rw [if_neg (by simpa using empty)]
    exact ratioSelf (Nat.pos_of_ne_zero empty) (unionFew heldA heldB)

theorem similarityPlus {a b : String} (heldA : Addressable a) (heldB : Addressable b) :
    Plus (similarity a b).toModel.unpack := by
  have few := unionFew heldA heldB
  have most := sharedAtMost a b
  simp only [similarity]
  split
  · exact .finite _ _ _
  · rename_i filled
    exact ratioPlus (Nat.pos_of_ne_zero (by simpa using filled)) few (by omega)

end ConceptSpace.Text

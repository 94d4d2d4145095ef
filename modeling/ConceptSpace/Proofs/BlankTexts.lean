import Mathlib.Data.List.TakeWhile
import ConceptSpace.Text.Blank
import ConceptSpace.Text.Letters

/-! Blank characters are few, and none of them belongs to a word; a text of them is one that trimming
leaves nothing of, and what trimming leaves of another begins and ends with characters that are not
blank. -/
namespace ConceptSpace.Text

theorem coversForall {P : Char → Prop} {ranges : List CodeRange}
    (all : ∀ r ∈ ranges, ∀ n, n < r.2 + 1 - r.1 → P (Char.ofNat (r.1 + n))) {c : Char}
    (covered : CodeRange.covers ranges c = true) : P c := by
  simp only [CodeRange.covers, List.any_eq_true, Bool.and_eq_true, decide_eq_true_eq] at covered
  obtain ⟨r, listed, low, high⟩ := covered
  have here := all r listed (c.toNat - r.1) (by omega)
  rwa [Nat.add_sub_cancel' low, Char.ofNat_toNat] at here

theorem blankOutsideWords {c : Char} (blank : isBlank c = true) :
    isAlphanumeric c = false ∧ c.isAlphanum = false ∧ c ∉ ['(', ')', '_', '.', ':', '-'] := by
  exact coversForall (P := fun c => isAlphanumeric c = false ∧ c.isAlphanum = false ∧
    c ∉ ['(', ')', '_', '.', ':', '-']) (by decide +kernel) blank

theorem trimCharsNil {text : List Char} : trimChars text = [] ↔ ∀ c ∈ text, isBlank c = true := by
  unfold trimChars trimEndChars trimStartChars
  rw [List.reverse_eq_nil_iff, List.dropWhile_eq_nil_iff]
  constructor
  · intro blank
    rw [← List.dropWhile_eq_nil_iff]
    cases left : text.dropWhile isBlank with
    | nil => rfl
    | cons c rest =>
      have filled := List.head?_dropWhile_not isBlank text
      rw [left] at filled blank
      simp_all
  · intro blank c listed
    exact blank c ((List.dropWhile_sublist _).mem (List.mem_reverse.mp listed))

theorem trimEmpty {text : String} : trim text = "" ↔ isBlankText text = true := by
  rw [trim, String.ofList_eq_empty_iff, trimCharsNil, isBlankText, List.all_eq_true]

structure Trimmed (text : String) : Prop where
  filled : text ≠ ""
  first : ∀ c ∈ text.toList.head?, isBlank c = false
  last : ∀ c ∈ text.toList.getLast?, isBlank c = false

theorem trimEndPrefix (text : List Char) : trimEndChars text <+: text := by
  rw [trimEndChars, ← List.reverse_suffix, List.reverse_reverse]
  exact List.dropWhile_suffix isBlank

theorem trimStartFirst {text : List Char} {c : Char} (first : c ∈ (trimStartChars text).head?) :
    isBlank c = false := by
  have filled := List.head?_dropWhile_not isBlank text
  rw [trimStartChars] at first
  rw [Option.mem_def.mp first] at filled
  simpa using filled

theorem trimEndLast {text : List Char} {c : Char} (last : c ∈ (trimEndChars text).getLast?) :
    isBlank c = false := by
  rw [trimEndChars, List.getLast?_reverse] at last
  exact trimStartFirst last

theorem trimTrimmed {text : String} (filled : isBlankText text = false) : Trimmed (trim text) where
  filled empty := by simp [trimEmpty.mp empty] at filled
  first c first := by
    rw [trim, String.toList_ofList, trimChars] at first
    obtain ⟨rest, whole⟩ := trimEndPrefix (trimStartChars text.toList)
    refine @trimStartFirst text.toList c ?_
    rw [← whole, List.head?_append, Option.mem_def.mp first]
    rfl
  last c last := by
    rw [trim, String.toList_ofList, trimChars] at last
    exact trimEndLast last

theorem trimFilled (text : String) : (trim text).isEmpty = isBlankText text := by
  rw [Bool.eq_iff_iff, String.isEmpty_iff, trimEmpty]

end ConceptSpace.Text

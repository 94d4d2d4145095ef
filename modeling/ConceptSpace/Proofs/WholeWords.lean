import Mathlib
import ConceptSpace.Narrative.Tone
import ConceptSpace.Proofs.AlikeTexts

/-! Whole words of a text.
A phrase of letters stands at a place as whole words exactly when the run of word characters that
begins there reads like it, so what stands at a place is told by that run and by whether the character
before the place belongs to a word. -/
namespace ConceptSpace

namespace Text

def letters : List Char := "abcdefghijklmnopqrstuvwxyz".toList

theorem asciiForall {P : Char → Prop} (all : ∀ n < 128, P (Char.ofNat n)) {c : Char}
    (ascii : c.toNat < 128) : P c := by
  have here := all c.toNat ascii
  rwa [Char.ofNat_toNat] at here

theorem ofNatSmall {n : Nat} (small : (Char.ofNat n).toNat < 128) (positive : 0 < (Char.ofNat n).toNat) :
    n < 128 := by
  rw [Char.toNat_ofNat] at small positive
  by_cases valid : n.isValidChar
  · rwa [if_pos valid] at small
  · simp [valid] at positive

theorem shiftedFolded : ∀ s ∈ foldShifts, 128 ≤ s.image ∨
    s.first = s.last ∧ isWordCharacter (Char.ofNat s.first) = true ∧ Char.ofNat s.image ∈ letters := by
  decide +kernel

-- Two characters beyond ASCII fold into it, the long s and the sign for kelvin.
theorem foldedAscii {c : Char} (ascii : (foldCase c).toNat < 128) (positive : 0 < (foldCase c).toNat) :
    c.toNat < 128 ∨ isWordCharacter c = true ∧ foldCase c ∈ letters := by
  by_cases plain : c.toNat < 128
  · exact .inl plain
  · right
    have mapped : foldCase c = CodeShift.map foldShifts c := if_neg plain
    unfold CodeShift.map at mapped
    cases found : foldShifts.find? (·.applies c.toNat) with
    | none =>
      rw [found] at mapped
      rw [mapped] at ascii
      exact absurd ascii plain
    | some s =>
      rw [found] at mapped
      change foldCase c = Char.ofNat (s.image + (c.toNat - s.first)) at mapped
      rw [mapped] at ascii positive ⊢
      have applies := List.find?_some found
      simp only [CodeShift.applies, Bool.and_eq_true, decide_eq_true_eq] at applies
      rcases shiftedFolded s (List.mem_of_find?_eq_some found) with beyond | ⟨only, word, letter⟩
      · have := ofNatSmall ascii positive
        omega
      · have first : c.toNat = s.first := by omega
        rw [← first, Char.ofNat_toNat] at word
        rw [first, Nat.sub_self, Nat.add_zero]
        exact ⟨word, letter⟩

def IsLetter (p : Char) : Prop := ∀ c, foldCase c = foldCase p → isWordCharacter c = true

theorem letterFolds : ∀ p ∈ letters, foldCase p = p ∧ 0 < p.toNat ∧ p.toNat < 128 := by
  have each : letters.all (fun p => foldCase p = p ∧ 0 < p.toNat ∧ p.toNat < 128) = true := by decide
  exact fun p letter => of_decide_eq_true (List.all_eq_true.mp each p letter)

theorem letterIs {p : Char} (letter : p ∈ letters) : IsLetter p := by
  intro c same
  obtain ⟨folds, positive, ascii⟩ := letterFolds p letter
  rw [folds] at same
  rcases foldedAscii (c := c) (by rwa [same]) (by rwa [same]) with plain | ⟨word, _⟩
  · have lower : foldCase c = c.toLower := if_pos plain
    exact asciiForall (P := fun c => c.toLower ∈ letters → isWordCharacter c = true) (by decide +kernel)
      plain (lower ▸ same ▸ letter)
  · exact word

theorem anyLetter {place : Option Char} (letter : place.any (· ∈ letters) = true) :
    ∃ p ∈ place, IsLetter p := by
  obtain ⟨p, here, among⟩ := (Option.any_eq_true _ _).mp letter
  exact ⟨p, here, letterIs (of_decide_eq_true among)⟩

theorem blankApart {c : Char} (same : foldCase c = ' ') : isWordCharacter c = false := by
  rcases foldedAscii (c := c) (by rw [same]; decide) (by rw [same]; decide) with plain | ⟨_, letter⟩
  · have lower : foldCase c = c.toLower := if_pos plain
    exact asciiForall (P := fun c => c.toLower = ' ' → isWordCharacter c = false) (by decide +kernel)
      plain (lower ▸ same)
  · rw [same] at letter
    exact absurd letter (by decide)

end Text

namespace Tone
open Text

theorem letterWord {place other : Option Char} (letter : ∃ p ∈ place, IsLetter p)
    (same : other.map foldCase = place.map foldCase) : isWord other = true := by
  obtain ⟨p, here, letter⟩ := letter
  rw [Option.mem_def.mp here] at same
  obtain ⟨c, there, folds⟩ := Option.map_eq_some_iff.mp same
  rw [there]
  exact letter c folds

theorem wordOr {place other : Option Char} (word : isWord place = true) : place.or other = place := by
  cases place with
  | none => cases word
  | some c => rfl

def leadingWord (text : List Char) : List Char := text.takeWhile isWordCharacter

def IsWordy (phrase : List Char) : Prop := ∀ p ∈ phrase, IsLetter p

theorem wordyAlike {phrase place : List Char} (wordy : IsWordy phrase)
    (alike : place.map foldCase = phrase.map foldCase) : ∀ c ∈ place, isWordCharacter c = true := by
  intro c inside
  obtain ⟨p, listed, same⟩ := List.mem_map.mp (alike ▸ List.mem_map_of_mem (f := foldCase) inside)
  exact wordy p listed c same.symm

theorem leadingNil {text : List Char} : leadingWord text = [] ↔ isWord text.head? = false := by
  cases text with
  | nil => simp [leadingWord, isWord]
  | cons c rest => cases word : isWordCharacter c <;> simp [leadingWord, isWord, word]

theorem leadingWhole {place after : List Char} (all : ∀ c ∈ place, isWordCharacter c = true)
    (ends : isWord after.head? = false) : leadingWord (place ++ after) = place := by
  rw [leadingWord, List.takeWhile_append_of_pos all]
  have none : after.takeWhile isWordCharacter = [] := leadingNil.mpr ends
  rw [none, List.append_nil]

theorem leadingRest (text : List Char) :
    ∃ after, text = leadingWord text ++ after ∧ isWord after.head? = false := by
  refine ⟨text.dropWhile isWordCharacter, List.takeWhile_append_dropWhile.symm, ?_⟩
  have stops := List.head?_dropWhile_not isWordCharacter text
  cases first : (text.dropWhile isWordCharacter).head? with
  | none => rfl
  | some c => simpa [isWord, first] using stops

theorem leadingApart {front back : List Char} (apart : leadingWord back = []) :
    leadingWord (front ++ back) = leadingWord front := by
  unfold leadingWord at *
  rw [List.takeWhile_append, apart]
  split
  · rename_i whole
    rw [List.append_nil, List.IsPrefix.eq_of_length (List.takeWhile_prefix _) whole]
  · rfl

theorem standsSplit {phrase text : List Char} {before : Option Char} :
    standsAt phrase before text = true ↔ isWord before = false ∧ ∃ place after,
      text = place ++ after ∧ place.map foldCase = phrase.map foldCase ∧ isWord after.head? = false := by
  simp only [standsAt, Bool.and_eq_true, Bool.not_eq_true']
  constructor
  · intro stands
    obtain ⟨⟨reads, begins⟩, ends⟩ := stands
    refine ⟨begins, text.take phrase.length, text.drop phrase.length, (List.take_append_drop _ _).symm,
      ?_, ends⟩
    have same := List.prefix_iff_eq_take.mp (startsAlikeIff.mp reads)
    rw [List.length_map] at same
    rw [List.map_take, ← same]
  · intro stands
    obtain ⟨begins, place, after, rfl, alike, ends⟩ := stands
    have size : place.length = phrase.length := by simpa using congrArg List.length alike
    refine ⟨⟨?_, begins⟩, ?_⟩
    · rw [startsAlikeIff, List.map_append, alike]
      exact List.prefix_append _ _
    · rwa [List.drop_left' size]

theorem standsWordy {phrase text : List Char} {before : Option Char} (wordy : IsWordy phrase) :
    standsAt phrase before text = true ↔
      isWord before = false ∧ (leadingWord text).map foldCase = phrase.map foldCase := by
  rw [standsSplit]
  constructor
  · intro stands
    obtain ⟨begins, place, after, rfl, alike, ends⟩ := stands
    exact ⟨begins, by rw [leadingWhole (wordyAlike wordy alike) ends, alike]⟩
  · intro stands
    obtain ⟨after, split, ends⟩ := leadingRest text
    exact ⟨stands.1, leadingWord text, after, split, stands.2, ends⟩

def FreeOf (phrase : List Char) (before : Option Char) (text : List Char) : Prop :=
  ∀ front rest, text = front ++ rest → standsAt phrase (front.getLast?.or before) rest = false

section
variable {phrase : List Char} {before : Option Char}

theorem freeNil (filled : phrase ≠ []) : FreeOf phrase before [] := by
  intro front rest split
  obtain ⟨rfl, rfl⟩ := List.append_eq_nil_iff.mp split.symm
  cases phrase with
  | nil => exact absurd rfl filled
  | cons p phrase => rfl

theorem freeCons {c : Char} {text : List Char} : FreeOf phrase before (c :: text) ↔
    standsAt phrase before (c :: text) = false ∧ FreeOf phrase (some c) text := by
  constructor
  · intro free
    refine ⟨by simpa using free [] (c :: text) rfl, fun front rest split => ?_⟩
    simpa [List.getLast?_cons] using free (c :: front) rest (by rw [split, List.cons_append])
  · intro free front rest split
    cases front with
    | nil =>
      subst split
      simpa using free.1
    | cons d front =>
      obtain ⟨rfl, later⟩ := List.cons.inj split
      simpa [List.getLast?_cons] using free.2 front rest later

theorem freeBehind {front text : List Char} (free : FreeOf phrase before (front ++ text)) :
    FreeOf phrase (front.getLast?.or before) text := by
  induction front generalizing before with
  | nil => exact free
  | cons c front ih => simpa [List.getLast?_cons] using ih (freeCons.mp free).2

theorem freeAfter {other : Option Char} {text : List Char} (same : isWord before = isWord other)
    (free : FreeOf phrase before text) : FreeOf phrase other text := by
  have alike (rest : List Char) : standsAt phrase other rest = standsAt phrase before rest := by
    rw [standsAt, standsAt, same]
  cases text with
  | nil =>
    intro front rest split
    obtain ⟨rfl, rfl⟩ := List.append_eq_nil_iff.mp split.symm
    exact (alike []).trans (free [] [] rfl)
  | cons c text =>
    rw [freeCons] at *
    exact ⟨(alike _).trans free.1, free.2⟩

theorem freeJoin {front back : List Char} (wordy : IsWordy phrase) (apart : leadingWord back = [])
    (first : FreeOf phrase before front) (second : FreeOf phrase (front.getLast?.or before) back) :
    FreeOf phrase before (front ++ back) := by
  induction front generalizing before with
  | nil => exact second
  | cons c front ih =>
    rw [List.cons_append, freeCons]
    rw [freeCons] at first
    refine ⟨?_, ih first.2 (by simpa [List.getLast?_cons] using second)⟩
    rw [← first.1, Bool.eq_iff_iff, standsWordy wordy, standsWordy wordy, ← List.cons_append,
      leadingApart apart]

end

end Tone

end ConceptSpace

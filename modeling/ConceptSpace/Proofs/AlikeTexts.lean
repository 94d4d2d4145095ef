import Mathlib.Data.List.Basic
import ConceptSpace.Text.Words

/-! Texts that read alike: what a phrase at the front of a text depends on. -/
namespace ConceptSpace.Text

theorem startsAlikeIff {phrase text : List Char} :
    startsAlike phrase text = true ↔ phrase.map foldCase <+: text.map foldCase := by
  induction phrase generalizing text with
  | nil => simp [startsAlike]
  | cons p phrase ih =>
    cases text with
    | nil => simp [startsAlike]
    | cons c text => simp [startsAlike, sameLetter, ih]

theorem startsAlikeLength {phrase text : List Char} (reads : startsAlike phrase text = true) :
    phrase.length ≤ text.length := by
  simpa using (startsAlikeIff.mp reads).length_le

theorem startsAlikeNil {phrase : List Char} (reads : startsAlike phrase [] = true) : phrase = [] :=
  List.eq_nil_of_length_eq_zero (Nat.le_zero.mp (startsAlikeLength reads))

theorem startsAlikeFront {phrase front : List Char} (enough : phrase.length ≤ front.length)
    (more : List Char) : startsAlike phrase (front ++ more) = startsAlike phrase front := by
  rw [Bool.eq_iff_iff, startsAlikeIff, startsAlikeIff, List.map_append]
  constructor
  · intro reads
    exact List.prefix_of_prefix_length_le reads (List.prefix_append _ _) (by simpa using enough)
  · intro reads
    exact reads.trans (List.prefix_append _ _)

theorem startsAlikeShorter {short long text : List Char} (first : startsAlike short text = true)
    (second : startsAlike long text = true) (shorter : short.length ≤ long.length) :
    startsAlike short long = true :=
  startsAlikeIff.mpr (List.prefix_of_prefix_length_le (startsAlikeIff.mp first)
    (startsAlikeIff.mp second) (by simpa using shorter))

end ConceptSpace.Text

import Mathlib.Data.String.Basic
import ConceptSpace.Proofs.TokenSplit

/-! Where the tokens of a text stand.
An offset that the scanner gives is the number of bytes before a token, whatever blank characters are
among them, and a text that is cut there splits into the tokens before the offset and the others. -/
namespace ConceptSpace.Formula
open Text String

theorem nameCharSize {c : Char} (name : isNameChar c = true) : c.utf8Size = 1 := by
  rw [Char.utf8Size_eq_one_iff]
  delta isNameChar Char.isAlphanum Char.isAlpha Char.isUpper Char.isLower Char.isDigit at name
  simp only [Bool.or_eq_true, Bool.and_eq_true, decide_eq_true_eq, beq_iff_eq] at name
  rcases name with (((((⟨_, high⟩ | ⟨_, high⟩) | ⟨_, high⟩) | rfl) | rfl) | rfl) | rfl
  · exact UInt32.le_trans high (by decide)
  · exact UInt32.le_trans high (by decide)
  · exact UInt32.le_trans high (by decide)
  all_goals decide

theorem runSize {run : List Char} (names : ∀ c ∈ run, isNameChar c = true) :
    utf8Len run = run.length := by
  induction run with
  | nil => rfl
  | cons c run ih =>
    rw [utf8Len_cons, ih fun d later => names d (List.mem_cons_of_mem c later),
      nameCharSize (names c List.mem_cons_self), List.length_cons]

theorem runPlace (start : Nat) {c : Char} (name : isNameChar c = true) (rest : List Char) :
    start + utf8Len (c :: rest.takeWhile isNameChar) =
      start + 1 + (rest.takeWhile isNameChar).length := by
  rw [runSize (runNames name rest), List.length_cons]
  omega

structure Cut (start : Nat) (text : List Char) (offset : Nat) (before after : List Token)
    (front back : List Char) : Prop where
  whole : text = front ++ back
  place : offset = start + utf8Len front
  filled : ∀ c ∈ back.head?, isBlank c = false
  earlier : Splits front before
  later : Splits back after

section
variable {start offset : Nat} {text : List Char} {before after : List Token}

theorem Cut.behind {run front back : List Char} {tokens : List Token}
    (cut : Cut (start + utf8Len run) text offset before after front back)
    (splits : Splits (run ++ front) tokens) :
    Cut start (run ++ text) offset tokens after (run ++ front) back :=
  ⟨by rw [cut.whole, List.append_assoc], by rw [cut.place, utf8Len_append, Nat.add_assoc], cut.filled,
    splits, cut.later⟩

theorem cutStart (filled : ∀ c ∈ text.head?, isBlank c = false) (splits : Splits text after) :
    Cut start text start [] after [] text :=
  ⟨rfl, rfl, filled, .done, splits⟩

theorem cutEnd (splits : Splits text before) :
    Cut start text (start + utf8Len text) before [] text [] :=
  ⟨(List.append_nil text).symm, rfl, by simp, splits, .done⟩

end

def Placed (start : Nat) (text : List Char) (lexemes : List Lexeme) : Prop :=
  ∀ before l after, lexemes = before ++ l :: after → ∃ front back,
    Cut start text l.offset (before.map (·.token)) ((l :: after).map (·.token)) front back

theorem tokenPlaced {start : Nat} {run text : List Char} {token : Token} {lexemes : List Lexeme}
    (filled : ∀ c ∈ (run ++ text).head?, isBlank c = false)
    (splits : ∀ front back tokens, text = front ++ back → Splits front tokens →
      Splits (run ++ front) (token :: tokens))
    (whole : Splits text (lexemes.map (·.token)))
    (placed : Placed (start + utf8Len run) text lexemes) :
    Placed start (run ++ text) (⟨start, token⟩ :: lexemes) := by
  intro before l after split
  cases before with
  | nil =>
    cases split
    exact ⟨[], _, cutStart filled (splits text [] _ (List.append_nil text).symm whole)⟩
  | cons first before =>
    cases split
    obtain ⟨front, back, cut⟩ := placed before l after rfl
    exact ⟨_, back, cut.behind (splits front back _ cut.whole cut.earlier)⟩

theorem scanPlaced {start : Nat} {text : List Char} {lexemes : List Lexeme}
    (scanned : scan start text = .ok lexemes) : Placed start text lexemes := by
  fun_induction scan start text generalizing lexemes with
  | case1 start =>
    cases scanned
    intro before l after split
    cases before <;> cases split
  | case2 start c rest blank ih =>
    intro before l after split
    obtain ⟨front, back, cut⟩ := ih scanned before l after split
    have size : start + utf8Len [c] = start + c.utf8Size := by simp
    exact ⟨_, back, Cut.behind (size ▸ cut) (.blank blank cut.earlier)⟩
  | case3 start rest filled ih =>
    obtain ⟨lexemes, later, rfl⟩ := mapOk scanned
    refine @tokenPlaced start ['('] rest _ _ ?_ ?_ (scanSplits later) (ih later)
    · simpa using filled
    · exact fun front _ tokens _ splits => .opening splits
  | case4 start rest filled _ ih =>
    obtain ⟨lexemes, later, rfl⟩ := mapOk scanned
    refine @tokenPlaced start [')'] rest _ _ ?_ ?_ (scanSplits later) (ih later)
    · simpa using filled
    · exact fun front _ tokens _ splits => .closing splits
  | case5 start c rest filled _ _ name more =>
    rename_i ih
    obtain ⟨lexemes, later, rfl⟩ := mapOk scanned
    have whole : c :: rest = (c :: more) ++ rest.dropWhile isNameChar := by
      rw [List.cons_append, List.takeWhile_append_dropWhile]
    rw [whole]
    refine tokenPlaced (by simpa using filled) ?_ (scanSplits later) (runPlace start name rest ▸ ih later)
    intro front back tokens cut splits
    refine .word (List.cons_ne_nil _ _) (runNames name rest) ?_ (spellsIff.mpr rfl) splits
    intro d first
    exact runStops d (by rw [cut]; exact List.mem_head?_append_of_mem_head? first)
  | case6 => cases scanned

theorem stopsBehind {start offset : Nat} {run text : List Char}
    (found : ∃ front back, text = front ++ back ∧ offset = start + utf8Len run + utf8Len front) :
    ∃ front back, run ++ text = front ++ back ∧ offset = start + utf8Len front := by
  obtain ⟨front, back, rfl, place⟩ := found
  exact ⟨run ++ front, back, (List.append_assoc ..).symm, by rw [place, utf8Len_append, Nat.add_assoc]⟩

theorem scanStops {start : Nat} {text : List Char} {error : SyntaxError}
    (failed : scan start text = .error error) :
    ∃ front back, text = front ++ back ∧ error.offset = start + utf8Len front := by
  fun_induction scan start text with
  | case1 => cases failed
  | case2 start c rest blank ih =>
    have size : start + utf8Len [c] = start + c.utf8Size := by simp
    exact @stopsBehind _ _ [c] _ (size ▸ ih failed)
  | case3 start rest _ ih => exact @stopsBehind _ _ ['('] _ (ih (mapFailed failed))
  | case4 start rest _ _ ih => exact @stopsBehind _ _ [')'] _ (ih (mapFailed failed))
  | case5 start c rest _ _ _ name more =>
    rename_i ih
    have whole : c :: rest = (c :: more) ++ rest.dropWhile isNameChar := by
      rw [List.cons_append, List.takeWhile_append_dropWhile]
    rw [whole]
    exact stopsBehind (runPlace start name rest ▸ ih (mapFailed failed))
  | case6 start c rest =>
    cases failed
    exact ⟨[], c :: rest, rfl, rfl⟩

end ConceptSpace.Formula

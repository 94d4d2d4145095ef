import Mathlib
import ConceptSpace.Proofs.KeptFirst
import ConceptSpace.Proofs.KeywordScan

/-! The keyword scan by bytes.
A cursor moves over the bytes of a text: a search finds the next piece that a term reads like, its
neighbours decide whether it is kept, and the cursor goes behind it or one character on. No text is cut
inside a character or past its end, and what is kept is what the scan by characters finds. -/
namespace ConceptSpace.Redactor
open Text
open String (utf8Len utf8Len_cons utf8Len_append)

structure Span where
  start : Nat
  stop : Nat
  deriving DecidableEq, Repr

structure Piece where
  span : Span
  text : List Char
  deriving DecidableEq, Repr

def Piece.hit (p : Piece) : String := lowerCase (String.ofList p.text)

def cut? : Nat → List Char → Option (List Char × List Char)
  | 0, text => some ([], text)
  | _ + 1, [] => none
  | n + 1, c :: rest =>
    if c.utf8Size ≤ n + 1 then
      (cut? (n + 1 - c.utf8Size) rest).map fun parts => (c :: parts.1, parts.2)
    else none

inductive Turn where
  | ends
  | keeps (piece : Piece) (next : Nat)
  | passes (next : Nat)

def turn (find : Nat → Option Span) (text : List Char) (cursor : Nat) : Option Turn :=
  if cursor ≤ utf8Len text then
    match find cursor with
    | none => some .ends
    | some span => do
      let (before, rest) ← cut? span.start text
      let (front, after) ← cut? span.stop text
      if isBoundary before.getLast? && isBoundary after.head? then
        let (_, piece) ← cut? span.start front
        some (.keeps ⟨span, piece⟩ (max span.stop (span.start + 1)))
      else some (.passes (span.start + (rest.head?.map Char.utf8Size).getD 1))
  else some .ends

structure Trail where
  cursors : List Nat
  pieces : List Piece
  hits : List String
  deriving DecidableEq, Repr

inductive Run (find : Nat → Option Span) (text : List Char) : Nat → List String → Trail → Prop where
  | ends {cursor hits} (turns : turn find text cursor = some .ends) :
    Run find text cursor hits ⟨[cursor], [], hits⟩
  | keeps {cursor hits piece next trail} (turns : turn find text cursor = some (.keeps piece next))
      (later : Run find text next (keepNew hits piece.hit) trail) :
    Run find text cursor hits ⟨cursor :: trail.cursors, piece :: trail.pieces, trail.hits⟩
  | passes {cursor hits next trail} (turns : turn find text cursor = some (.passes next))
      (later : Run find text next hits trail) :
    Run find text cursor hits ⟨cursor :: trail.cursors, trail.pieces, trail.hits⟩

def Searches (r : Redactor) (find : Nat → Option Span) (text : List Char) (trail : Trail) : Prop :=
  if r.isActive then Run find text 0 [] trail else trail = ⟨[], [], []⟩

def Unread (terms : List (List Char)) (place : List Char) : Prop :=
  ∀ term ∈ terms, startsAlike term place = false

def Leftmost (terms : List (List Char)) (before rest : List Char) (span : Span) : Prop :=
  ∃ pass piece after, rest = pass ++ (piece ++ after) ∧
    span = ⟨utf8Len (before ++ pass), utf8Len (before ++ pass ++ piece)⟩ ∧
    (∀ front place, rest = front ++ place → front.length < pass.length → Unread terms place) ∧
    ∃ term, terms.find? (startsAlike · (piece ++ after)) = some term ∧ term.length = piece.length

/-- What a search promises of the places from the start of a character or the end of the text on. -/
structure Finds (terms : List (List Char)) (text : List Char) (find : Nat → Option Span) : Prop where
  misses : ∀ before rest, text = before ++ rest → find (utf8Len before) = none →
    ∀ front place, rest = front ++ place → Unread terms place
  finds : ∀ before rest span, text = before ++ rest → find (utf8Len before) = some span →
    Leftmost terms before rest span

theorem cutSplits {n : Nat} {text before after : List Char} (cut : cut? n text = some (before, after)) :
    text = before ++ after ∧ n = utf8Len before := by
  fun_induction cut? n text generalizing before with
  | case1 text =>
    obtain ⟨rfl, rfl⟩ := Prod.mk.inj (Option.some.inj cut)
    exact ⟨rfl, rfl⟩
  | case2 => cases cut
  | case3 n c rest fits ih =>
    obtain ⟨parts, found, same⟩ := Option.map_eq_some_iff.mp cut
    obtain ⟨rfl, rfl⟩ := Prod.mk.inj same
    obtain ⟨split, size⟩ := ih found
    exact ⟨congrArg (c :: ·) split, by rw [utf8Len_cons, ← size]; omega⟩
  | case4 => cases cut

theorem cutBehind (before after : List Char) :
    cut? (utf8Len before) (before ++ after) = some (before, after) := by
  induction before with
  | nil => simp [cut?]
  | cons c before ih =>
    obtain ⟨n, size⟩ := Nat.exists_eq_add_of_lt c.utf8Size_pos
    have bytes : utf8Len (c :: before) = utf8Len before + n + 1 := by rw [utf8Len_cons, size]; omega
    have left : utf8Len before + n + 1 - c.utf8Size = utf8Len before := by omega
    rw [bytes, List.cons_append, cut?, if_pos (by omega), left, ih]
    rfl

theorem cutIff {n : Nat} {text before after : List Char} :
    cut? n text = some (before, after) ↔ text = before ++ after ∧ n = utf8Len before := by
  constructor
  · exact cutSplits
  · rintro ⟨rfl, rfl⟩
    exact cutBehind before after

section scan
variable {terms : List (List Char)} {before : Option Char}

theorem scanUnread {rest : List Char}
    (unread : ∀ front place, rest = front ++ place → Unread terms place) :
    scan terms before 0 rest = [] := by
  rw [scanNil]
  intro front place split _ hit
  obtain ⟨term, found, _⟩ := hit
  have reads := List.find?_some found
  simp [unread front place split term (List.mem_of_find?_eq_some found)] at reads

theorem scanPassed {pass place : List Char} (unread : ∀ front back,
      pass ++ place = front ++ back → front.length < pass.length → Unread terms back) :
    scan terms before 0 (pass ++ place) = scan terms (pass.getLast?.or before) 0 place := by
  induction pass generalizing before with
  | nil => rfl
  | cons c pass ih =>
    have none : terms.find? (fun term => startsAlike term (c :: (pass ++ place))) = none := by
      rw [List.find?_eq_none]
      intro term listed
      have here := unread [] (c :: (pass ++ place)) rfl (by simp) term listed
      simp [here]
    have later := @ih (some c) fun front back split shorter =>
      unread (c :: front) back (by simp [split]) (by simpa using shorter)
    rw [List.cons_append, scan, none]
    simpa [List.getLast?_cons] using later

theorem scanSkip (piece after : List Char) :
    scan terms before piece.length (piece ++ after) = scan terms (piece.getLast?.or before) 0 after := by
  induction piece generalizing before with
  | nil => rfl
  | cons c piece ih =>
    rw [List.length_cons, List.cons_append, scan, ih]
    simp [List.getLast?_cons]

theorem scanKept {term piece after : List Char}
    (found : terms.find? (startsAlike · (piece ++ after)) = some term) (size : term.length = piece.length)
    (filled : piece ≠ []) (begins : isBoundary before = true) (ends : isBoundary after.head? = true) :
    scan terms before 0 (piece ++ after) = piece :: scan terms (piece.getLast?.or before) 0 after := by
  cases piece with
  | nil => exact absurd rfl filled
  | cons c piece =>
    have taken : (c :: (piece ++ after)).take term.length = c :: piece := by simp [size]
    have left : (c :: (piece ++ after)).drop term.length = after := by simp [size]
    have skipped := @scanSkip terms (some c) piece after
    have less : term.length - 1 = piece.length := by simp [size]
    rw [List.cons_append] at found ⊢
    rw [scan, found]
    simp only [taken, left, begins, ends, Bool.and_self, if_true, less, skipped]
    simp [List.getLast?_cons]

theorem scanGivenUp {term rest : List Char} {c : Char}
    (found : terms.find? (startsAlike · (c :: rest)) = some term)
    (spoilt : ¬ Bounded term before (c :: rest)) :
    scan terms before 0 (c :: rest) = scan terms (some c) 0 rest := by
  have passed := fun both => spoilt (Bool.and_eq_true_iff.mp both)
  rw [scan, found]
  exact if_neg passed

end scan

def Holds (terms : List (List Char)) (text : List Char) (piece : Piece) : Prop :=
  ∃ before after, text = before ++ (piece.text ++ after) ∧
    piece.span = ⟨utf8Len before, utf8Len (before ++ piece.text)⟩ ∧
    (∃ term ∈ terms, piece.text.map foldCase = term.map foldCase) ∧
    isBoundary before.getLast? = true ∧ isBoundary after.head? = true

inductive Step (terms : List (List Char)) (find : Nat → Option Span) (text before rest : List Char) :
    Prop where
  | ends (turns : turn find text (utf8Len before) = some .ends)
      (scanned : scan terms before.getLast? 0 rest = [])
  | keeps {piece more back} (turns : turn find text (utf8Len before) =
        some (.keeps piece (utf8Len (before ++ more))))
      (split : rest = more ++ back) (grown : more ≠ []) (holds : Holds terms text piece)
      (start : utf8Len before ≤ piece.span.start) (stop : piece.span.stop = utf8Len (before ++ more))
      (scanned : scan terms before.getLast? 0 rest =
        piece.text :: scan terms (before ++ more).getLast? 0 back)
  | passes {more back} (turns : turn find text (utf8Len before) =
        some (.passes (utf8Len (before ++ more))))
      (split : rest = more ++ back) (grown : more ≠ [])
      (scanned : scan terms before.getLast? 0 rest = scan terms (before ++ more).getLast? 0 back)

theorem firstAlike {terms : List (List Char)} {term piece after : List Char}
    (first : terms.find? (startsAlike · (piece ++ after)) = some term)
    (size : term.length = piece.length) : piece.map foldCase = term.map foldCase := by
  have reads : startsAlike term (piece ++ after) = true := by simpa using List.find?_some first
  have same := List.prefix_iff_eq_take.mp (startsAlikeIff.mp reads)
  rw [List.map_append, List.take_left' (by simp [size])] at same
  exact same.symm

section turn
variable {find : Nat → Option Span} {text front tail after : List Char} {c : Char} {cursor : Nat}

theorem turnEnds (found : find cursor = none) : turn find text cursor = some .ends := by
  rw [turn, found]
  split
  · rfl
  · rfl

theorem turnKeeps (inside : cursor ≤ utf8Len text)
    (found : find cursor = some ⟨utf8Len front, utf8Len (front ++ c :: tail)⟩)
    (split : text = front ++ (c :: tail ++ after))
    (bounded : (isBoundary front.getLast? && isBoundary after.head?) = true) :
    turn find text cursor =
      some (.keeps ⟨⟨utf8Len front, utf8Len (front ++ c :: tail)⟩, c :: tail⟩
        (utf8Len (front ++ c :: tail))) := by
  have start := cutIff.mpr ⟨split, rfl⟩
  have stop := cutIff.mpr ⟨split.trans (List.append_assoc front (c :: tail) after).symm, rfl⟩
  have further : utf8Len front + 1 ≤ utf8Len (front ++ c :: tail) := by
    have positive := c.utf8Size_pos
    rw [utf8Len_append, utf8Len_cons]
    omega
  rw [turn, if_pos inside, found]
  simp only [start, stop, Option.bind_eq_bind, Option.bind_some, if_pos bounded, cutBehind,
    Nat.max_eq_left further]

theorem turnPasses (inside : cursor ≤ utf8Len text)
    (found : find cursor = some ⟨utf8Len front, utf8Len (front ++ c :: tail)⟩)
    (split : text = front ++ (c :: tail ++ after))
    (spoilt : ¬ (isBoundary front.getLast? && isBoundary after.head?) = true) :
    turn find text cursor = some (.passes (utf8Len (front ++ [c]))) := by
  have start := cutIff.mpr ⟨split, rfl⟩
  have stop := cutIff.mpr ⟨split.trans (List.append_assoc front (c :: tail) after).symm, rfl⟩
  rw [turn, if_pos inside, found]
  simp only [start, stop, Option.bind_eq_bind, Option.bind_some, if_neg spoilt]
  simp

end turn

theorem stepTaken {terms : List (List Char)} {text before rest : List Char}
    {find : Nat → Option Span} (filled : ∀ term ∈ terms, term ≠ []) (finds : Finds terms text find)
    (split : text = before ++ rest) : Step terms find text before rest := by
  cases found : find (utf8Len before) with
  | none => exact .ends (turnEnds found) (scanUnread (finds.misses _ _ split found))
  | some span =>
    have inside : utf8Len before ≤ utf8Len text := by rw [split, utf8Len_append]; omega
    obtain ⟨pass, piece, after, rfl, rfl, unread, term, first, size⟩ := finds.finds _ _ _ split found
    have listed := List.mem_of_find?_eq_some first
    obtain ⟨c, tail, rfl⟩ : ∃ c tail, piece = c :: tail := by
      refine List.exists_cons_of_ne_nil fun empty => filled term listed ?_
      exact List.eq_nil_of_length_eq_zero (by rw [size, empty, List.length_nil])
    have passed := @scanPassed terms before.getLast? pass (c :: tail ++ after) unread
    rw [← List.getLast?_append] at passed
    have place : text = before ++ pass ++ (c :: tail ++ after) := by rw [split, List.append_assoc]
    by_cases bounded : (isBoundary (before ++ pass).getLast? && isBoundary after.head?) = true
    · have beside := Bool.and_eq_true_iff.mp bounded
      have kept := scanKept first size (List.cons_ne_nil c tail) beside.1 beside.2
      have turned := turnKeeps inside found place bounded
      rw [← List.getLast?_append, List.append_assoc] at kept
      rw [List.append_assoc] at turned
      refine .keeps turned (List.append_assoc _ _ _).symm (by simp) ?_ ?_ rfl (passed.trans kept)
      · exact ⟨before ++ pass, after, place, by rw [List.append_assoc],
          ⟨term, listed, firstAlike first size⟩, beside⟩
      · rw [utf8Len_append]
        exact Nat.le_add_right _ _
    · have left : (c :: tail ++ after).drop term.length = after := by simp [size]
      have spoilt : ¬ Bounded term (before ++ pass).getLast? (c :: tail ++ after) := by
        rw [Bounded, left, ← Bool.and_eq_true_iff]
        exact bounded
      have givenUp := scanGivenUp first spoilt
      have turned := turnPasses inside found place bounded
      rw [List.append_assoc] at turned
      have shorter : pass ++ (c :: tail ++ after) = (pass ++ [c]) ++ (tail ++ after) := by simp
      refine .passes turned shorter (by simp) (passed.trans ?_)
      rw [← List.append_assoc, List.getLast?_append_of_ne_nil _ (List.cons_ne_nil c [])]
      exact givenUp

end ConceptSpace.Redactor

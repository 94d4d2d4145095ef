import ConceptSpace.Formula.Token
import ConceptSpace.Proofs.BlankTexts
import ConceptSpace.Proofs.Outcomes

/-! The scanner against the ways a text splits into tokens.
A word ends where no name character follows, so a text splits in one way at most, and the scanner
finds it. -/
namespace ConceptSpace.Formula
open Text

def spellings : List (List Char × Token) :=
  [("AND".toList, .and), ("OR".toList, .or), ("NOT".toList, .not)]

inductive Spells (word : List Char) : Token → Prop where
  | operator {token : Token} : (word.map Char.toUpper, token) ∈ spellings → Spells word token
  | name : word.map Char.toUpper ∉ spellings.map Prod.fst → Spells word (.name (String.ofList word))

inductive Splits : List Char → List Token → Prop where
  | done : Splits [] []
  | blank {c : Char} {text : List Char} {tokens : List Token} :
    isBlank c = true → Splits text tokens → Splits (c :: text) tokens
  | opening {text : List Char} {tokens : List Token} :
    Splits text tokens → Splits ('(' :: text) (.opening :: tokens)
  | closing {text : List Char} {tokens : List Token} :
    Splits text tokens → Splits (')' :: text) (.closing :: tokens)
  | word {run text : List Char} {token : Token} {tokens : List Token} :
    run ≠ [] → (∀ c ∈ run, isNameChar c = true) → (∀ c ∈ text.head?, isNameChar c = false) →
    Spells run token → Splits text tokens → Splits (run ++ text) (token :: tokens)

theorem nameCharPlain {c : Char} (name : isNameChar c = true) :
    isBlank c = false ∧ c ≠ '(' ∧ c ≠ ')' := by
  have apart : c ≠ '(' ∧ c ≠ ')' := by
    constructor
    · intro same
      exact absurd (same ▸ name) (by decide)
    · intro same
      exact absurd (same ▸ name) (by decide)
  refine ⟨?_, apart⟩
  cases blank : isBlank c with
  | false => rfl
  | true =>
    obtain ⟨_, plain, unmarked⟩ := blankOutsideWords blank
    simp only [List.mem_cons, not_or] at unmarked
    simp [isNameChar, plain, unmarked] at name

theorem spellsIff {word : List Char} {token : Token} :
    Spells word token ↔ Token.ofWord word = token := by
  constructor
  · intro spells
    cases spells with
    | operator listed =>
      simp only [spellings, List.mem_cons, List.not_mem_nil, or_false, Prod.mk.injEq] at listed
      rcases listed with ⟨same, rfl⟩ | ⟨same, rfl⟩ | ⟨same, rfl⟩
      · simp [Token.ofWord, same]
      · simp [Token.ofWord, same]
      · simp [Token.ofWord, same]
    | name free =>
      simp only [spellings, List.map_cons, List.map_nil, List.mem_cons, not_or] at free
      obtain ⟨noAnd, noOr, noNot, _⟩ := free
      simp_all [Token.ofWord]
  · intro same
    subst same
    unfold Token.ofWord
    dsimp only
    split
    · exact .operator (by simp_all [spellings])
    · split
      · exact .operator (by simp_all [spellings])
      · split
        · exact .operator (by simp_all [spellings])
        · exact .name (by simp_all [spellings])

theorem runEnds {run text : List Char} (names : ∀ c ∈ run, isNameChar c = true)
    (ends : ∀ c ∈ text.head?, isNameChar c = false) :
    (run ++ text).takeWhile isNameChar = run ∧ (run ++ text).dropWhile isNameChar = text := by
  rw [List.takeWhile_append_of_pos names, List.dropWhile_append_of_pos names]
  cases text with
  | nil => simp
  | cons c text => simp [ends c rfl]

theorem scanWord {offset : Nat} {run text : List Char} (filled : run ≠ [])
    (names : ∀ c ∈ run, isNameChar c = true) (ends : ∀ c ∈ text.head?, isNameChar c = false) :
    scan offset (run ++ text) =
      (scan (offset + run.length) text).map (⟨offset, .ofWord run⟩ :: ·) := by
  cases run with
  | nil => exact absurd rfl filled
  | cons c more =>
    have name := names c List.mem_cons_self
    obtain ⟨filledChar, notOpening, notClosing⟩ := nameCharPlain name
    obtain ⟨taken, left⟩ := runEnds (fun d inside => names d (List.mem_cons_of_mem c inside)) ends
    rw [List.cons_append, scan]
    simp only [filledChar, notOpening, notClosing, name, taken, left, if_true, if_false]
    rw [List.length_cons, Nat.add_assoc, Nat.add_comm 1]
    simp

theorem runNames {c : Char} (name : isNameChar c = true) (rest : List Char) :
    ∀ d ∈ c :: rest.takeWhile isNameChar, isNameChar d = true := by
  intro d inside
  rcases List.mem_cons.mp inside with rfl | inside
  · exact name
  · exact List.all_eq_true.mp List.all_takeWhile d inside

theorem runStops {rest : List Char} :
    ∀ d ∈ (rest.dropWhile isNameChar).head?, isNameChar d = false := by
  intro d first
  have := List.head?_dropWhile_not isNameChar rest
  simp_all

theorem scanSplits {offset : Nat} {text : List Char} {lexemes : List Lexeme}
    (scanned : scan offset text = .ok lexemes) : Splits text (lexemes.map (·.token)) := by
  fun_induction scan offset text generalizing lexemes with
  | case1 offset =>
    cases scanned
    exact .done
  | case2 offset c rest blank ih => exact .blank blank (ih scanned)
  | case3 offset rest _ ih =>
    obtain ⟨after, later, rfl⟩ := mapOk scanned
    exact .opening (ih later)
  | case4 offset rest _ _ ih =>
    obtain ⟨after, later, rfl⟩ := mapOk scanned
    exact .closing (ih later)
  | case5 offset c rest _ _ _ name more =>
    rename_i ih
    obtain ⟨after, later, rfl⟩ := mapOk scanned
    have split := Splits.word (List.cons_ne_nil _ _) (runNames name rest) runStops
      (spellsIff.mpr rfl) (ih later)
    rwa [List.cons_append, List.takeWhile_append_dropWhile] at split
  | case6 => cases scanned

theorem splitsScan {text : List Char} {tokens : List Token} (split : Splits text tokens)
    (offset : Nat) :
    ∃ lexemes, scan offset text = .ok lexemes ∧ lexemes.map (·.token) = tokens := by
  induction split generalizing offset with
  | done => exact ⟨[], by rw [scan], rfl⟩
  | @blank c text tokens blank _ ih =>
    obtain ⟨lexemes, scanned, same⟩ := ih (offset + c.utf8Size)
    exact ⟨lexemes, by rw [scan, if_pos blank, scanned], same⟩
  | opening _ ih =>
    obtain ⟨lexemes, scanned, same⟩ := ih (offset + 1)
    refine ⟨⟨offset, .opening⟩ :: lexemes, ?_, by rw [List.map_cons, same]⟩
    rw [scan, if_neg (by decide), if_pos rfl, scanned, Except.map]
  | closing _ ih =>
    obtain ⟨lexemes, scanned, same⟩ := ih (offset + 1)
    refine ⟨⟨offset, .closing⟩ :: lexemes, ?_, by rw [List.map_cons, same]⟩
    rw [scan, if_neg (by decide), if_neg (by decide), if_pos rfl, scanned, Except.map]
  | @word run text token tokens filled names ends spells _ ih =>
    obtain ⟨lexemes, scanned, same⟩ := ih (offset + run.length)
    refine ⟨⟨offset, token⟩ :: lexemes, ?_, by rw [List.map_cons, same]⟩
    rw [scanWord filled names ends, scanned, Except.map, spellsIff.mp spells]

end ConceptSpace.Formula

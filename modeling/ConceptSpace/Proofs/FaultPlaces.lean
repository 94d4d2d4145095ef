import ConceptSpace.Proofs.FormulaReading
import ConceptSpace.Proofs.SentencePrefixes
import ConceptSpace.Proofs.TokenPlaces

/-! Where a rejected text leaves the grammar.
A reader that finds a fault other than the limit finds it at the first lexeme that no sentence has there, or
at the end of what is a sentence's beginning only. -/
namespace ConceptSpace.Formula
open String

def Awaiting.Stops (state : Awaiting) (stop offset : Nat) : List Lexeme → Prop
  | [] => offset = stop ∧ state ≠ .operator 0
  | l :: _ => offset = l.offset ∧ state.next l.token = none

def Breaks (derives : List Token → Formula → Nat → Prop) (opened stop : Nat) (lexemes : List Lexeme)
    (offset : Nat) : Prop :=
  ∃ front after state, lexemes = front ++ after ∧
    (∃ rest e k, derives (front.map (·.token) ++ rest) e k) ∧
    Awaiting.after (.operand opened) (front.map (·.token)) = some state ∧ state.Stops stop offset after

def Faulty (derives : List Token → Formula → Nat → Prop) (opened stop : Nat) (lexemes : List Lexeme)
    (error : SyntaxError) : Prop :=
  (error.fault = .tooDeep ∧ ∃ l ∈ lexemes, l.offset = error.offset) ∨
    Breaks derives opened stop lexemes error.offset

section
variable {whole piece : List Token → Formula → Nat → Prop} {opened inner stop : Nat}
  {lexemes : List Lexeme} {error : SyntaxError}

theorem Faulty.behind (fault : Faulty piece inner stop lexemes error) (front : List Lexeme)
    (awaited : Awaiting.after (.operand opened) (front.map (·.token)) = some (.operand inner))
    (within : ∀ tokens e k, piece tokens e k →
      ∃ rest f m, whole (front.map (·.token) ++ (tokens ++ rest)) f m) :
    Faulty whole opened stop (front ++ lexemes) error := by
  rcases fault with ⟨deep, l, among, here⟩ | ⟨begun, after, state, rfl, ⟨rest, e, k, derived⟩, goes, stops⟩
  · exact .inl ⟨deep, l, List.mem_append_right front among, here⟩
  · obtain ⟨more, f, m, larger⟩ := within _ _ _ derived
    refine .inr ⟨front ++ begun, after, state, (List.append_assoc ..).symm, ⟨rest ++ more, f, m, ?_⟩, ?_, stops⟩
    · simpa using larger
    · rw [List.map_append, Awaiting.afterAppend, awaited, Option.bind_some, goes]

theorem chainFaulty {token : Token} {operator : Formula → Formula → Formula} {nesting offset : Nat}
    {after : List Lexeme} {left : Phrase} (before : Reads whole nesting lexemes left)
    (here : left.rest = ⟨offset, token⟩ :: after) (fault : Faulty piece opened stop after error)
    (awaited : ∀ tokens e k, whole tokens e k →
      Awaiting.after (.operand opened) tokens = some (.operator opened))
    (goes : (Awaiting.operator opened).next token = some (.operand opened))
    (more : ∀ front back e f k m, whole front e k → piece back f m →
      whole (front ++ token :: back) (operator e f) (max k m)) :
    Faulty whole opened stop lexemes error := by
  obtain ⟨front, k, split, derived, _⟩ := before.derived
  have lexed : lexemes = (front ++ [⟨offset, token⟩]) ++ after := by rw [split, here]; simp
  rw [lexed]
  apply fault.behind
  · rw [List.map_append, Awaiting.afterAppend, awaited _ _ _ derived]
    exact congrArg (Option.bind · some) goes
  · intro tokens e m also
    exact ⟨[], _, _, by simpa using more _ _ _ _ _ _ derived also⟩

theorem chainDeep {token : Token} {operator : Formula → Formula → Formula} {nesting offset : Nat}
    {after : List Lexeme} {left right : Phrase} (before : Reads whole nesting lexemes left)
    (here : left.rest = ⟨offset, token⟩ :: after) (failed : join offset operator left right = .error error) :
    Faulty whole opened stop lexemes error := by
  obtain ⟨front, k, split, _⟩ := before.derived
  unfold join at failed
  dsimp only at failed
  split at failed
  · cases failed
    exact .inl ⟨rfl, ⟨offset, token⟩, by simp [split, here], rfl⟩
  · cases failed

end

theorem unclosedBreaks {opened stop offset place : Nat} {front after : List Lexeme} {e : Formula} {k : Nat}
    (derived : Disjunction (front.map (·.token)) e k)
    (stops : (Awaiting.operator (opened + 1)).Stops stop place after) :
    Breaks Operand opened stop (⟨offset, .opening⟩ :: (front ++ after)) place :=
  ⟨⟨offset, .opening⟩ :: front, after, _, rfl, ⟨[.closing], e, _, .parens derived⟩,
    disjunctionAwaited (opened + 1) derived, stops⟩

theorem operandStuck {opened : Nat} {token : Token} (noName : ∀ word, token ≠ .name word)
    (noNot : token ≠ .not) (noOpening : token ≠ .opening) : (Awaiting.operand opened).next token = none := by
  cases token <;> simp_all [Awaiting.next]

theorem operatorStuck {opened : Nat} {token : Token} (loose : token ≠ .and ∧ token ≠ .or)
    (kept : opened = 0 ∨ token ≠ .closing) : (Awaiting.operator opened).next token = none := by
  cases token <;> simp_all [Awaiting.next]

section
variable {stop nesting n : Nat}

theorem conjunctsEnd {left p : { p : Phrase // p.rest.length < n }}
    (ok : conjuncts stop nesting n left = .ok p) : ∀ l ∈ p.val.rest.head?, l.token ≠ .and := by
  rw [conjuncts] at ok
  split at ok
  · rename_i offset after here
    split at ok
    · cases ok
    · rename_i right read
      split at ok
      · cases ok
      · rename_i both joined
        have shorter : both.val.rest.length < left.val.rest.length := by
          have := right.2
          rw [both.2, here, List.length_cons]
          omega
        exact conjunctsEnd ok
  · rename_i none
    cases ok
    intro l first same
    obtain ⟨tail, rest⟩ := List.head?_eq_some_iff.mp first
    cases l
    cases same
    exact none _ _ rest
termination_by left.val.rest.length

theorem conjunctionEnds {lexemes : List Lexeme} {p : { p : Phrase // p.rest.length < lexemes.length }}
    (ok : conjunction stop nesting lexemes = .ok p) : ∀ l ∈ p.val.rest.head?, l.token ≠ .and := by
  rw [conjunction] at ok
  split at ok
  · cases ok
  · exact conjunctsEnd ok

theorem disjunctsEnd {left p : { p : Phrase // p.rest.length < n }}
    (before : ∀ l ∈ left.val.rest.head?, l.token ≠ .and) (ok : disjuncts stop nesting n left = .ok p) :
    ∀ l ∈ p.val.rest.head?, l.token ≠ .and ∧ l.token ≠ .or := by
  rw [disjuncts] at ok
  split at ok
  · rename_i offset after here
    split at ok
    · cases ok
    · rename_i right read
      split at ok
      · cases ok
      · rename_i both joined
        have shorter : both.val.rest.length < left.val.rest.length := by
          have := right.2
          rw [both.2, here, List.length_cons]
          omega
        exact disjunctsEnd (by rw [both.2]; exact conjunctionEnds read) ok
  · rename_i none
    cases ok
    intro l first
    refine ⟨before l first, fun same => ?_⟩
    obtain ⟨tail, rest⟩ := List.head?_eq_some_iff.mp first
    cases l
    cases same
    exact none _ _ rest
termination_by left.val.rest.length

theorem disjunctionEnds {lexemes : List Lexeme} {p : { p : Phrase // p.rest.length < lexemes.length }}
    (ok : disjunction stop nesting lexemes = .ok p) :
    ∀ l ∈ p.val.rest.head?, l.token ≠ .and ∧ l.token ≠ .or := by
  rw [disjunction] at ok
  split at ok
  · cases ok
  · rename_i first started
    exact disjunctsEnd (conjunctionEnds started) ok

end

/- One theorem for each reader, by the readers' own measure; a loop is told with the phrase before it. -/
mutual

theorem disjunctionFaulty (opened : Nat) {stop nesting : Nat} {lexemes : List Lexeme}
    {error : SyntaxError} (failed : disjunction stop nesting lexemes = .error error) :
    Faulty Disjunction opened stop lexemes error := by
  rw [disjunction] at failed
  split at failed
  · rename_i fault started
    cases failed
    have fault := conjunctionFaulty opened started
    exact fault.behind [] rfl fun tokens e k derived => ⟨[], e, k, by simpa using .one derived⟩
  · rename_i first started
    have fewer := first.2
    have reads := conjunctionReads started
    obtain ⟨front, k, split, derived, kept⟩ := reads.derived
    exact disjunctsFaulty opened ⟨reads.depth, reads.shallow, front, k, split, .one derived, kept⟩ failed
termination_by (lexemes.length, 4)

theorem disjunctsFaulty (opened : Nat) {stop nesting : Nat} {lexemes : List Lexeme} {n : Nat}
    {left : { p : Phrase // p.rest.length < n }} {error : SyntaxError}
    (before : Reads Disjunction nesting lexemes left.val)
    (failed : disjuncts stop nesting n left = .error error) :
    Faulty Disjunction opened stop lexemes error := by
  rw [disjuncts] at failed
  split at failed
  · rename_i offset after here
    have fewer : after.length < left.val.rest.length := by simp [here]
    split at failed
    · rename_i fault read
      cases failed
      have inside := conjunctionFaulty opened read
      exact chainFaulty before here inside (fun _ _ _ => disjunctionAwaited opened) rfl
        fun _ _ _ _ _ _ => Disjunction.more
    · rename_i right read
      split at failed
      · rename_i fault joined
        cases failed
        exact chainDeep before here joined
      · rename_i both joined
        obtain ⟨shallow, same⟩ := joinOk joined
        have next := joinReads (fun _ _ => rfl) (fun _ _ _ _ _ _ => Disjunction.more) before here
          (conjunctionReads read) same shallow
        have shorter : both.val.rest.length < left.val.rest.length := by
          have := right.2
          rw [both.2]
          omega
        exact disjunctsFaulty opened next failed
  · cases failed
termination_by (left.val.rest.length, 3)

theorem conjunctionFaulty (opened : Nat) {stop nesting : Nat} {lexemes : List Lexeme}
    {error : SyntaxError} (failed : conjunction stop nesting lexemes = .error error) :
    Faulty Conjunction opened stop lexemes error := by
  rw [conjunction] at failed
  split at failed
  · rename_i fault started
    cases failed
    have fault := operandFaulty opened started
    exact fault.behind [] rfl fun tokens e k derived => ⟨[], e, k, by simpa using .one derived⟩
  · rename_i first started
    have fewer := first.2
    have reads := operandReads started
    obtain ⟨front, k, split, derived, kept⟩ := reads.derived
    exact conjunctsFaulty opened ⟨reads.depth, reads.shallow, front, k, split, .one derived, kept⟩ failed
termination_by (lexemes.length, 2)

theorem conjunctsFaulty (opened : Nat) {stop nesting : Nat} {lexemes : List Lexeme} {n : Nat}
    {left : { p : Phrase // p.rest.length < n }} {error : SyntaxError}
    (before : Reads Conjunction nesting lexemes left.val)
    (failed : conjuncts stop nesting n left = .error error) :
    Faulty Conjunction opened stop lexemes error := by
  rw [conjuncts] at failed
  split at failed
  · rename_i offset after here
    have fewer : after.length < left.val.rest.length := by simp [here]
    split at failed
    · rename_i fault read
      cases failed
      have inside := operandFaulty opened read
      exact chainFaulty before here inside (fun _ _ _ => conjunctionAwaited opened) rfl
        fun _ _ _ _ _ _ => Conjunction.more
    · rename_i right read
      split at failed
      · rename_i fault joined
        cases failed
        exact chainDeep before here joined
      · rename_i both joined
        obtain ⟨shallow, same⟩ := joinOk joined
        have next := joinReads (fun _ _ => rfl) (fun _ _ _ _ _ _ => Conjunction.more) before here
          (operandReads read) same shallow
        have shorter : both.val.rest.length < left.val.rest.length := by
          have := right.2
          rw [both.2]
          omega
        exact conjunctsFaulty opened next failed
  · cases failed
termination_by (left.val.rest.length, 1)

theorem operandFaulty (opened : Nat) {stop nesting : Nat} {lexemes : List Lexeme}
    {error : SyntaxError} (failed : operand stop nesting lexemes = .error error) :
    Faulty Operand opened stop lexemes error := by
  have operandNext : ∃ rest e k, Operand ([] ++ rest) e k := ⟨[.name "a"], _, _, .name "a"⟩
  rw [operand.eq_def] at failed
  split at failed
  · cases failed
    exact .inr ⟨[], [], _, rfl, operandNext, rfl, rfl, by simp⟩
  · cases failed
  · rename_i offset rest
    split at failed
    · cases failed
      exact .inl ⟨rfl, _, List.mem_cons_self, rfl⟩
    · split at failed
      · rename_i fault read
        cases failed
        have inside := operandFaulty opened read
        exact inside.behind [⟨offset, .not⟩] rfl fun tokens e k derived =>
          ⟨[], _, _, by simpa using Operand.not derived⟩
      · split at failed
        · cases failed
          exact .inl ⟨rfl, _, List.mem_cons_self, rfl⟩
        · cases failed
  · rename_i offset rest
    split at failed
    · cases failed
      exact .inl ⟨rfl, _, List.mem_cons_self, rfl⟩
    · split at failed
      · rename_i fault read
        cases failed
        have inside := disjunctionFaulty (opened + 1) read
        exact inside.behind [⟨offset, .opening⟩] rfl fun tokens e k derived =>
          ⟨[.closing], _, _, by simpa using Operand.parens derived⟩
      · rename_i inner read
        have reads := disjunctionReads read
        have ends := disjunctionEnds read
        obtain ⟨front, k, cut, derived, _⟩ := reads.derived
        rw [cut]
        split at failed
        · rename_i none
          cases failed
          rw [none]
          exact .inr (unclosedBreaks derived ⟨rfl, nofun⟩)
        · cases failed
        · rename_i position found after unclosed here
          cases failed
          rw [here] at ends ⊢
          exact .inr (unclosedBreaks derived ⟨rfl, operatorStuck (ends _ rfl) (.inr unclosed)⟩)
  · rename_i offset found rest noName noNot noOpening
    cases failed
    exact .inr ⟨[], _, _, rfl, operandNext, rfl, rfl, operandStuck noName noNot noOpening⟩
termination_by (lexemes.length, 0)

end

theorem lexemesFaulty {stop : Nat} {lexemes : List Lexeme} {error : SyntaxError} (filled : lexemes ≠ [])
    (failed : ofLexemes stop lexemes = .error error) : Faulty Disjunction 0 stop lexemes error := by
  rw [ofLexemes, if_neg (by simpa using filled)] at failed
  split at failed
  · rename_i fault read
    cases failed
    exact disjunctionFaulty 0 read
  · rename_i whole read
    have ends := disjunctionEnds read
    obtain ⟨front, k, cut, derived, _⟩ := (disjunctionReads read).derived
    have begun : ∃ rest e k, Disjunction (front.map (·.token) ++ rest) e k :=
      ⟨[], _, k, by simpa using derived⟩
    have stands := disjunctionAwaited 0 derived
    rw [cut]
    split at failed
    · cases failed
    all_goals
      rename_i here
      cases failed
      rw [here] at ends ⊢
      exact .inr ⟨front, _, _, rfl, begun, stands, rfl, operatorStuck (ends _ rfl) (.inl rfl)⟩

def BreaksOff (text : List Char) (tokens : List Token) (offset : Nat) : Prop :=
  ∃ before after front back, tokens = before ++ after ∧ Cut 0 text offset before after front back ∧
    Viable before ∧
    ((after = [] ∧ offset = utf8Len text ∧ ¬ Sentence before) ∨
      ∃ token rest, after = token :: rest ∧ ¬ Viable (before ++ [token]))

theorem breaksOff {text : List Char} {lexemes : List Lexeme} {offset : Nat}
    (scanned : scan 0 text = .ok lexemes) (breaks : Breaks Disjunction 0 (utf8Len text) lexemes offset) :
    BreaksOff text (lexemes.map (·.token)) offset := by
  obtain ⟨front, after, state, rfl, viable, stands, stops⟩ := breaks
  cases after with
  | nil =>
    obtain ⟨rfl, unfinished⟩ := stops
    rw [List.append_nil] at scanned ⊢
    have cut := @cutEnd 0 text _ (scanSplits scanned)
    rw [Nat.zero_add] at cut
    refine ⟨_, [], _, _, (List.append_nil _).symm, cut, viable, .inl ⟨rfl, rfl, fun sentence => ?_⟩⟩
    exact unfinished (Option.some.inj (stands.symm.trans (sentenceAwaited sentence)))
  | cons l after =>
    obtain ⟨rfl, stuck⟩ := stops
    obtain ⟨first, last, cut⟩ := scanPlaced scanned front l after rfl
    exact ⟨_, _, first, last, List.map_append, cut, viable,
      .inr ⟨l.token, after.map (·.token), rfl, stuckUnviable stands stuck⟩⟩

theorem textSize (text : String) : utf8Len text.toList = text.utf8ByteSize := by
  rw [← utf8ByteSize_ofList, ofList_toList]

theorem prefixValid {text : String} {front back : List Char} {offset : Nat}
    (whole : text.toList = front ++ back) (place : offset = utf8Len front) :
    offset ≤ text.utf8ByteSize ∧ Pos.Raw.IsValid text ⟨offset⟩ := by
  constructor
  · rw [← textSize, whole, utf8Len_append, place]
    exact Nat.le_add_right _ _
  · refine Pos.Raw.isValid_iff_exists_append.mpr ⟨ofList front, ofList back, ?_, ?_⟩
    · rw [← ofList_append, ← whole, ofList_toList]
    · rw [place, ← utf8ByteSize_ofList]
      rfl

theorem refusedBy {text : String} {error : SyntaxError} (refused : parse text = .error error) :
    scan 0 text.toList = .error error ∨ ∃ lexemes, scan 0 text.toList = .ok lexemes ∧
      ofLexemes text.utf8ByteSize lexemes = .error error := by
  unfold parse at refused
  split at refused
  · rename_i fault stopped
    cases refused
    exact .inl stopped
  · rename_i lexemes scanned
    exact .inr ⟨lexemes, scanned, refused⟩

theorem faultPlaced {text : String} {error : SyntaxError} (refused : parse text = .error error) :
    ∃ front back, text.toList = front ++ back ∧ error.offset = 0 + utf8Len front := by
  rcases refusedBy refused with stopped | ⟨lexemes, scanned, failed⟩
  · exact scanStops stopped
  · by_cases filled : lexemes = []
    · subst filled
      cases failed
      exact ⟨[], _, rfl, rfl⟩
    · rw [← textSize] at failed
      rcases lexemesFaulty filled failed with ⟨_, l, among, here⟩ | breaks
      · obtain ⟨before, after, split⟩ := List.append_of_mem among
        obtain ⟨front, back, cut⟩ := scanPlaced scanned before l after split
        exact ⟨front, back, cut.whole, here ▸ cut.place⟩
      · obtain ⟨_, _, front, back, _, cut, _⟩ := breaksOff scanned breaks
        exact ⟨front, back, cut.whole, cut.place⟩

/-- A rejected text has its fault at a character of it or at its end; and unless a limit is passed, that is
where it leaves the grammar. -/
theorem faultExact {text : String} {error : SyntaxError} (refused : parse text = .error error) :
    error.offset ≤ text.utf8ByteSize ∧ Pos.Raw.IsValid text ⟨error.offset⟩ ∧
    ∀ tokens, Splits text.toList tokens → tokens ≠ [] → error.fault ≠ .tooDeep →
      BreaksOff text.toList tokens error.offset := by
  obtain ⟨front, back, whole, place⟩ := faultPlaced refused
  obtain ⟨within, valid⟩ := prefixValid whole (place.trans (Nat.zero_add _))
  refine ⟨within, valid, ?_⟩
  intro tokens splits filled shallow
  obtain ⟨lexemes, scanned, rfl⟩ := splitsScan splits 0
  rcases refusedBy refused with stopped | ⟨same, also, failed⟩
  · cases scanned.symm.trans stopped
  · cases scanned.symm.trans also
    rw [← textSize] at failed
    rcases lexemesFaulty (by simpa using filled) failed with ⟨deep, _⟩ | breaks
    · exact absurd deep shallow
    · exact breaksOff scanned breaks

-- A blank character of three bytes stands before the token that does not fit.
theorem strayExact :
    parse "(a\u3000b)" = .error ⟨5, .closingExpected (.name "b")⟩ ∧
    Splits "(a\u3000b)".toList [.opening, .name "a", .name "b", .closing] ∧
    BreaksOff "(a\u3000b)".toList [.opening, .name "a", .name "b", .closing] 5 := by
  have scanned : scan 0 "(a\u3000b)".toList =
      .ok [⟨0, .opening⟩, ⟨1, .name "a"⟩, ⟨5, .name "b"⟩, ⟨6, .closing⟩] := by decide +kernel
  have refused : parse "(a\u3000b)" = .error ⟨5, .closingExpected (.name "b")⟩ := by
    rw [parse, scanned]
    simp [ofLexemes, disjunction, conjunction, operand, disjuncts, conjuncts, depthLimit]
  have splits := scanSplits scanned
  exact ⟨refused, splits, (faultExact refused).2.2 _ splits nofun nofun⟩

end ConceptSpace.Formula

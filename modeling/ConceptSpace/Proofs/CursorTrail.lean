import ConceptSpace.Proofs.ByteCursor
import ConceptSpace.Proofs.StandardRun

/-! The trail of the byte cursor.
Each place of a text is followed by one run, whose cursors rise and whose pieces are what the scan by
characters finds from there on; the hits are the lower case of those pieces, each where it is first met. -/
namespace ConceptSpace.Redactor
open Text
open String (utf8Len utf8Len_append)

theorem runUnique {find : Nat → Option Span} {text : List Char} {cursor : Nat} {hits : List String}
    {trail other : Trail} (one : Run find text cursor hits trail) (two : Run find text cursor hits other) :
    trail = other := by
  induction one generalizing other with
  | ends turns =>
    cases two with
    | ends => rfl
    | keeps turned => simp [turns] at turned
    | passes turned => simp [turns] at turned
  | keeps turns _ ih =>
    cases two with
    | ends turned => simp [turns] at turned
    | keeps turned later =>
      rw [turns] at turned
      cases turned
      rw [ih later]
    | passes turned => simp [turns] at turned
  | passes turns _ ih =>
    cases two with
    | ends turned => simp [turns] at turned
    | keeps turned => simp [turns] at turned
    | passes turned later =>
      rw [turns] at turned
      cases turned
      rw [ih later]

structure Rises (text before : List Char) (cursors : List Nat) : Prop where
  rising : cursors.Pairwise (· < ·)
  ahead : ∀ cursor ∈ cursors, utf8Len before ≤ cursor
  whole : ∀ cursor ∈ cursors, ∃ front back, text = front ++ back ∧ cursor = utf8Len front

theorem Rises.here {text before rest : List Char} (split : text = before ++ rest) :
    Rises text before [utf8Len before] := by
  refine ⟨List.pairwise_singleton _ _, ?_, ?_⟩
  · simp
  · simpa using ⟨before, ⟨rest, split⟩, rfl⟩

theorem Rises.cons {text before more rest : List Char} {cursors : List Nat} (grown : more ≠ [])
    (split : text = before ++ rest) (rises : Rises text (before ++ more) cursors) :
    Rises text before (utf8Len before :: cursors) := by
  have further : utf8Len before < utf8Len (before ++ more) := by
    have filled := mt String.utf8Len_eq_zero.mp grown
    rw [utf8Len_append]
    omega
  refine ⟨List.pairwise_cons.mpr ⟨?_, rises.rising⟩, ?_, ?_⟩
  · exact fun cursor listed => Nat.lt_of_lt_of_le further (rises.ahead cursor listed)
  · refine List.forall_mem_cons.mpr ⟨Nat.le_refl _, fun cursor listed => ?_⟩
    exact Nat.le_trans (Nat.le_of_lt further) (rises.ahead cursor listed)
  · exact List.forall_mem_cons.mpr ⟨⟨before, rest, split, rfl⟩, rises.whole⟩

structure Keeps (terms : List (List Char)) (text before rest : List Char) (pieces : List Piece) :
    Prop where
  holds : ∀ piece ∈ pieces, Holds terms text piece
  ahead : ∀ piece ∈ pieces, utf8Len before ≤ piece.span.start
  apart : pieces.Pairwise fun a b => a.span.stop ≤ b.span.start
  scanned : pieces.map Piece.text = scan terms before.getLast? 0 rest

theorem Keeps.further {terms : List (List Char)} {text before more back : List Char} {pieces : List Piece}
    (keeps : Keeps terms text (before ++ more) back pieces) :
    ∀ piece ∈ pieces, utf8Len before ≤ piece.span.start := by
  intro piece listed
  have start := keeps.ahead piece listed
  rw [utf8Len_append] at start
  omega

theorem shorterBehind {more back rest : List Char} (split : rest = more ++ back) (grown : more ≠ []) :
    back.length < rest.length := by
  have := List.length_pos_iff.mpr grown
  rw [split, List.length_append]
  omega

theorem runSound {terms : List (List Char)} {text : List Char} {find : Nat → Option Span}
    (filled : ∀ term ∈ terms, term ≠ []) (finds : Finds terms text find) (before rest : List Char)
    (split : text = before ++ rest) (hits : List String) :
    ∃ trail, Run find text (utf8Len before) hits trail ∧ Rises text before trail.cursors ∧
      Keeps terms text before rest trail.pieces ∧
      trail.hits = (trail.pieces.map Piece.hit).foldl keepNew hits := by
  cases stepTaken filled finds split with
  | ends turns scanned =>
    exact ⟨_, .ends turns, .here split, ⟨by simp, by simp, .nil, scanned.symm⟩, rfl⟩
  | @keeps piece more back turns same grown holds start stop scanned =>
    have fewer := shorterBehind same grown
    obtain ⟨trail, run, rises, keeps, collected⟩ := runSound filled finds (before ++ more) back
      (by rw [split, same, List.append_assoc]) (keepNew hits piece.hit)
    refine ⟨_, .keeps turns run, rises.cons grown split, ?_, by simpa using collected⟩
    refine ⟨List.forall_mem_cons.mpr ⟨holds, keeps.holds⟩, List.forall_mem_cons.mpr ⟨start, keeps.further⟩,
      List.pairwise_cons.mpr ⟨?_, keeps.apart⟩, ?_⟩
    · exact fun later listed => stop ▸ keeps.ahead later listed
    · rw [scanned, ← keeps.scanned, List.map_cons]
  | @passes more back turns same grown scanned =>
    have fewer := shorterBehind same grown
    obtain ⟨trail, run, rises, keeps, collected⟩ := runSound filled finds (before ++ more) back
      (by rw [split, same, List.append_assoc]) hits
    refine ⟨_, .passes turns run, rises.cons grown split, ?_, collected⟩
    exact ⟨keeps.holds, keeps.further, keeps.apart, keeps.scanned.trans scanned.symm⟩
termination_by rest.length

def seek (terms : List (List Char)) (before : List Char) : List Char → Option Span
  | [] => none
  | c :: rest =>
    match terms.find? (startsAlike · (c :: rest)) with
    | some term => some ⟨utf8Len before, utf8Len (before ++ (c :: rest).take term.length)⟩
    | none => seek terms (before ++ [c]) rest

def seekAt (terms : List (List Char)) (text : List Char) (cursor : Nat) : Option Span :=
  (cut? cursor text).bind fun parts => seek terms parts.1 parts.2

theorem unreadNil {terms : List (List Char)} (filled : ∀ term ∈ terms, term ≠ []) : Unread terms [] := by
  intro term listed
  by_contra reads
  exact filled term listed (startsAlikeNil (by simpa using reads))

theorem seekMisses {terms : List (List Char)} {before rest : List Char}
    (filled : ∀ term ∈ terms, term ≠ []) (missed : seek terms before rest = none) :
    ∀ front place, rest = front ++ place → Unread terms place := by
  induction rest generalizing before with
  | nil =>
    intro front place split
    rw [(List.append_eq_nil_iff.mp split.symm).2]
    exact unreadNil filled
  | cons c rest ih =>
    rw [seek] at missed
    cases found : terms.find? (startsAlike · (c :: rest)) with
    | some term => simp [found] at missed
    | none =>
      simp only [found] at missed
      intro front place split
      cases front with
      | nil =>
        intro term listed
        rw [← split.trans (List.nil_append place)]
        simpa using List.find?_eq_none.mp found term listed
      | cons d front => exact ih missed front place (List.cons.inj split).2

theorem seekFinds {terms : List (List Char)} {before rest : List Char} {span : Span}
    (found : seek terms before rest = some span) : Leftmost terms before rest span := by
  induction rest generalizing before with
  | nil => cases found
  | cons c rest ih =>
    rw [seek] at found
    cases first : terms.find? (startsAlike · (c :: rest)) with
    | some term =>
      simp only [first, Option.some.injEq] at found
      have reads := startsAlikeLength (by simpa using List.find?_some first)
      refine ⟨[], (c :: rest).take term.length, (c :: rest).drop term.length, by simp, ?_, ?_, term, ?_, ?_⟩
      · rw [List.append_nil, found]
      · intro front place _ shorter
        cases shorter
      · rwa [List.take_append_drop]
      · rw [List.length_take, Nat.min_eq_left reads]
    | none =>
      simp only [first] at found
      obtain ⟨pass, piece, after, rfl, place, unread, taken⟩ := ih found
      refine ⟨c :: pass, piece, after, rfl, by simpa using place, ?_, taken⟩
      intro front back split shorter
      cases front with
      | nil =>
        intro term listed
        rw [← split.trans (List.nil_append back)]
        simpa using List.find?_eq_none.mp first term listed
      | cons d front => exact unread front back (List.cons.inj split).2 (by simpa using shorter)

/-- Such a search exists for all terms and texts. -/
theorem seekAtFinds {terms : List (List Char)} {text : List Char} (filled : ∀ term ∈ terms, term ≠ []) :
    Finds terms text (seekAt terms text) := by
  refine ⟨fun before rest split missed => ?_, fun before rest span split found => ?_⟩
  · rw [seekAt, cutIff.mpr ⟨split, rfl⟩] at missed
    exact seekMisses filled missed
  · rw [seekAt, cutIff.mpr ⟨split, rfl⟩] at found
    exact seekFinds found

theorem hitsFound {r : Redactor} {text : String} {pieces : List Piece}
    (scanned : pieces.map Piece.text = scan r.ordered none 0 text.toList) :
    (pieces.map Piece.hit).foldl keepNew [] = r.findMatches text := by
  have lower (piece : Piece) : String.ofList (lowerChars piece.text) = piece.hit := by
    rw [Piece.hit, lowerCase, String.toList_ofList]
  rw [keepEach, findMatches, ← scanned, List.map_map]
  simp [Function.comp_def, lower]

/-- For every list of terms, every text and every search that finds the leftmost piece from a place on,
the loop takes one course: it ends, its cursors rise and cut no character, each piece it keeps reads
like a trimmed term and stands free, and its hits are those of the scan, each once and in order. -/
theorem cursorSafe (terms : List String) (text : String) (find : Nat → Option Span)
    (finds : Finds (ofTerms terms).ordered text.toList find) :
    ∃ trail, (∀ other, Searches (ofTerms terms) find text.toList other ↔ other = trail) ∧
      trail.hits = (ofTerms terms).findMatches text ∧
      trail.cursors.Pairwise (· < ·) ∧
      (∀ cursor ∈ trail.cursors, ∃ front back, text.toList = front ++ back ∧ cursor = utf8Len front) ∧
      (∀ piece ∈ trail.pieces, Holds (terms.map fun term => (trim term).toList) text.toList piece) ∧
      (trail.pieces.Pairwise fun a b => a.span.stop ≤ b.span.start) ∧
      FirstMet (trail.pieces.map Piece.hit) trail.hits := by
  cases active : (ofTerms terms).isActive with
  | false =>
    have unfound := Pipeline.idleFindsNothing active text
    refine ⟨⟨[], [], []⟩, fun other => ?_, unfound.symm, .nil, by simp, by simp, .nil, ?_⟩
    · simp [Searches, active]
    · exact firstMet []
  | true =>
    have filled (term : List Char) (listed : term ∈ (ofTerms terms).ordered) := orderedNonempty listed
    obtain ⟨trail, run, rises, keeps, collected⟩ := runSound filled finds [] text.toList rfl []
    refine ⟨trail, fun other => ?_, ?_, rises.rising, rises.whole, fun piece listed => ?_, keeps.apart,
      collected ▸ firstMet _⟩
    · rw [Searches, if_pos active]
      exact ⟨fun ran => runUnique ran run, fun same => same ▸ run⟩
    · rw [collected, hitsFound keeps.scanned]
    · obtain ⟨before, after, split, place, ⟨term, known, alike⟩, beside⟩ := keeps.holds piece listed
      obtain ⟨t, given, _, rfl⟩ := memOrdered.mp known
      exact ⟨before, after, split, place, ⟨_, List.mem_map_of_mem given, alike⟩, beside⟩

theorem cursorSafeBeyondAscii :
    ∃ trail, Searches (ofTerms [" kelvin", "é b", "b"])
        (seekAt (ofTerms [" kelvin", "é b", "b"]).ordered "\u212aelvin xé b".toList)
        "\u212aelvin xé b".toList trail ∧
      trail.hits = ["kelvin", "b"] := by
  obtain ⟨trail, course, hits, _⟩ := cursorSafe [" kelvin", "é b", "b"] "\u212aelvin xé b" _
    (seekAtFinds fun term listed => orderedNonempty listed)
  exact ⟨trail, (course trail).mpr rfl, hits.trans (by cbv)⟩

end ConceptSpace.Redactor

import ConceptSpace.Proofs.KeywordScan

/-! Texts with a mark on each character that was written over the text they come from.
A stretch without marks was carried over as it stood; what is written never makes it look more apart
from its neighbours than it was. -/
namespace ConceptSpace
open Redactor

abbrev MarkedText := List (Char × Bool)

namespace MarkedText

def kept (text : List Char) : MarkedText := text.map (·, false)

def written (text : List Char) : MarkedText := text.map (·, true)

def plain (t : MarkedText) : List Char := t.map Prod.fst

def Untouched (t : MarkedText) : Prop := ∀ x ∈ t, x.2 = false
instance (t : MarkedText) : Decidable (Untouched t) := by unfold Untouched; infer_instance

/-- Each untouched stretch stands in a source, with a boundary wherever it has one here. -/
def Carried (t : MarkedText) (sources : List (List Char)) : Prop :=
  ∀ before stretch after, t = before ++ (stretch ++ after) → stretch ≠ [] → Untouched stretch →
    ∃ source ∈ sources, ∃ front back, source = front ++ (plain stretch ++ back) ∧
      (isBoundary (plain before).getLast? = true → isBoundary front.getLast? = true) ∧
      (isBoundary (plain after).head? = true → isBoundary back.head? = true)

def Edged (text : List Char) : Prop :=
  isBoundary text.head? = false ∧ isBoundary text.getLast? = false
instance (text : List Char) : Decidable (Edged text) := by unfold Edged; infer_instance

inductive Rewrites : MarkedText → MarkedText → Prop where
  | done : Rewrites [] []
  | keep {t u : MarkedText} (x : Char × Bool) : Rewrites t u → Rewrites (x :: t) (x :: u)
  | put {t u : MarkedText} {soft : List Char} (removed : MarkedText) :
    Edged soft → Rewrites t u → Rewrites (removed ++ t) (written soft ++ u)

theorem plainAppend (t u : MarkedText) : plain (t ++ u) = plain t ++ plain u :=
  List.map_append

theorem plainKept (text : List Char) : plain (kept text) = text := by
  simp [plain, kept, Function.comp_def]

theorem plainWritten (text : List Char) : plain (written text) = text := by
  simp [plain, written, Function.comp_def]

theorem writtenTouched {text : List Char} {x : Char × Bool} (inside : x ∈ written text) :
    x.2 = true := by
  obtain ⟨c, _, rfl⟩ := List.mem_map.mp inside
  rfl

theorem carriedKept (text : List Char) : Carried (kept text) [text] := by
  intro before stretch after split _ _
  refine ⟨text, List.mem_singleton_self text, plain before, plain after, ?_, id, id⟩
  rw [← plainAppend, ← plainAppend, ← split, plainKept]

theorem carriedWritten (text : List Char) (sources : List (List Char)) :
    Carried (written text) sources := by
  intro before stretch after split filled untouched
  obtain ⟨x, inside⟩ := List.exists_mem_of_ne_nil stretch filled
  have marked := @writtenTouched text x (by simp [split, inside])
  simp [untouched x inside] at marked

theorem carriedAmong {t : MarkedText} {sources more : List (List Char)} (carried : Carried t sources)
    (among : ∀ source ∈ sources, source ∈ more) : Carried t more := by
  intro before stretch after split filled untouched
  obtain ⟨source, listed, here⟩ := carried before stretch after split filled untouched
  exact ⟨source, among source listed, here⟩

theorem carriedFront {t tail : MarkedText} {sources : List (List Char)}
    (carried : Carried (t ++ tail) sources) (apart : isBoundary (plain tail).head? = true) :
    Carried t sources := by
  intro before stretch after split filled untouched
  have whole : t ++ tail = before ++ (stretch ++ (after ++ tail)) := by
    rw [split, List.append_assoc, List.append_assoc]
  obtain ⟨source, listed, front, back, same, left, right⟩ :=
    carried before stretch (after ++ tail) whole filled untouched
  refine ⟨source, listed, front, back, same, left, ?_⟩
  intro ends
  apply right
  cases after with
  | nil => exact apart
  | cons x after => exact ends

theorem sharedHead {s t u v : MarkedText} (same : s ++ u = t ++ v) (first : s ≠ []) (second : t ≠ []) :
    ∃ x, x ∈ s ∧ x ∈ t := by
  cases s with
  | nil => exact absurd rfl first
  | cons x s =>
    cases t with
    | nil => exact absurd rfl second
    | cons y t =>
      obtain ⟨rfl, _⟩ := List.cons.inj same
      exact ⟨x, List.mem_cons_self, List.mem_cons_self⟩

theorem untouchedAside {a sep b before stretch after : MarkedText} (apart : sep ≠ [])
    (marked : ∀ x ∈ sep, x.2 = true) (filled : stretch ≠ []) (untouched : Untouched stretch)
    (split : a ++ (sep ++ b) = before ++ (stretch ++ after)) :
    (∃ more, a = before ++ (stretch ++ more) ∧ after = more ++ (sep ++ b)) ∨
      ∃ more, b = more ++ (stretch ++ after) ∧ before = a ++ (sep ++ more) := by
  have clash : ∀ x, x ∈ sep → x ∉ stretch := by
    intro x there here
    have := marked x there
    simp [untouched x here] at this
  rcases List.append_eq_append_iff.mp split with ⟨front, rfl, rest⟩ | ⟨back, rfl, rest⟩
  · rcases List.append_eq_append_iff.mp rest with ⟨more, rfl, tail⟩ | ⟨excess, rfl, tail⟩
    · exact .inr ⟨more, tail, rfl⟩
    · by_cases none : excess = []
      · subst none
        exact .inr ⟨[], tail.symm, by simp⟩
      · obtain ⟨x, here, there⟩ := sharedHead tail filled none
        exact absurd here (clash x (List.mem_append_right front there))
  · rcases List.append_eq_append_iff.mp rest with ⟨more, rfl, tail⟩ | ⟨excess, rfl, tail⟩
    · exact .inl ⟨more, rfl, tail⟩
    · by_cases none : excess = []
      · subst none
        exact .inl ⟨[], by simp, tail.symm⟩
      · obtain ⟨x, there, here⟩ := sharedHead tail apart none
        exact absurd (List.mem_append_right back here) (clash x there)

theorem carriedJoin {a sep b : MarkedText} {sources : List (List Char)} (first : Carried a sources)
    (second : Carried b sources) (apart : sep ≠ []) (marked : ∀ x ∈ sep, x.2 = true) :
    Carried (a ++ (sep ++ b)) sources := by
  intro before stretch after split filled untouched
  rcases untouchedAside apart marked filled untouched split with ⟨more, here, rfl⟩ | ⟨more, here, rfl⟩
  · obtain ⟨source, listed, front, back, same, left, right⟩ :=
      first before stretch more here filled untouched
    refine ⟨source, listed, front, back, same, left, ?_⟩
    intro ends
    apply right
    cases more with
    | nil => rfl
    | cons x more => exact ends
  · obtain ⟨source, listed, front, back, same, left, right⟩ :=
      second more stretch after here filled untouched
    refine ⟨source, listed, front, back, same, ?_, right⟩
    intro ends
    apply left
    rcases List.eq_nil_or_concat more with rfl | ⟨init, x, rfl⟩
    · rfl
    · simpa [plain] using ends

theorem edgedLast {soft : List Char} (edged : Edged soft) (other : Option Char) :
    soft.getLast?.or other = soft.getLast? := by
  cases last : soft.getLast? with
  | none =>
    have := edged.2
    rw [last] at this
    cases this
  | some c => rfl

theorem headKept {t u : MarkedText} (rewrites : Rewrites t u)
    (apart : isBoundary (plain u).head? = true) : isBoundary (plain t).head? = true := by
  cases rewrites with
  | done => exact apart
  | keep x rest => exact apart
  | @put t u soft removed edged rest =>
    cases soft with
    | nil => cases edged.1
    | cons c soft => cases edged.1.symm.trans apart

theorem stretchKept {t stretch after : MarkedText} (rewrites : Rewrites t (stretch ++ after))
    (untouched : Untouched stretch) : ∃ rest, t = stretch ++ rest ∧ Rewrites rest after := by
  induction stretch generalizing t with
  | nil => exact ⟨t, rfl, rewrites⟩
  | cons x stretch ih =>
    generalize whole : x :: stretch ++ after = u at rewrites
    cases rewrites with
    | done => cases whole
    | @keep t u y rest =>
      obtain ⟨rfl, rfl⟩ := List.cons.inj whole
      obtain ⟨more, rfl, later⟩ := ih rest (fun z inside => untouched z (List.mem_cons_of_mem x inside))
      exact ⟨more, rfl, later⟩
    | @put t u soft removed edged rest =>
      cases soft with
      | nil => cases edged.1
      | cons c soft =>
        obtain ⟨rfl, _⟩ := List.cons.inj whole
        cases untouched _ List.mem_cons_self

theorem placeKept {t before rest : MarkedText} (rewrites : Rewrites t (before ++ rest))
    (filled : rest ≠ []) (untouched : ∀ x ∈ rest.head?, x.2 = false) {p q : Option Char}
    (apart : isBoundary q = true → isBoundary p = true) :
    ∃ front back, t = front ++ back ∧ Rewrites back rest ∧
      (isBoundary ((plain before).getLast?.or q) = true →
        isBoundary ((plain front).getLast?.or p) = true) := by
  generalize whole : before ++ rest = u at rewrites
  induction rewrites generalizing before p q with
  | done => simp_all
  | @keep t u x later ih =>
    cases before with
    | nil =>
      obtain rfl : rest = x :: u := whole
      exact ⟨[], x :: t, rfl, .keep x later, apart⟩
    | cons y before =>
      obtain ⟨rfl, more⟩ := List.cons.inj whole
      obtain ⟨front, back, rfl, rewrites, beside⟩ := @ih before (some y.1) (some y.1) id more
      refine ⟨y :: front, back, rfl, rewrites, ?_⟩
      simpa [plain, List.getLast?_cons] using beside
  | @put t u soft removed edged later ih =>
    -- The rest starts untouched, so what is written here lies before the place.
    obtain ⟨more, rfl, tail⟩ : ∃ more, before = written soft ++ more ∧ more ++ rest = u := by
      rcases List.append_eq_append_iff.mp whole with ⟨excess, begun, rfl⟩ | ⟨more, same, tail⟩
      · cases excess with
        | nil => exact ⟨[], by simpa using begun.symm, rfl⟩
        | cons x excess =>
          have marked := writtenTouched (begun ▸ List.mem_append_right before List.mem_cons_self)
          simp [untouched x rfl] at marked
      · exact ⟨more, same, tail.symm⟩
    obtain ⟨front, back, rfl, rewrites, beside⟩ :=
      @ih more ((plain removed).getLast?.or p) soft.getLast? (by simp [edged.2]) tail
    refine ⟨removed ++ front, back, (List.append_assoc _ _ _).symm, rewrites, ?_⟩
    rw [plainAppend, plainAppend, List.getLast?_append, List.getLast?_append, plainWritten,
      Option.or_assoc, Option.or_assoc, edgedLast edged]
    exact beside

theorem carriedRewritten {t u : MarkedText} {sources : List (List Char)} (carried : Carried t sources)
    (rewrites : Rewrites t u) : Carried u sources := by
  intro before stretch after split filled untouched
  subst split
  have head : ∀ x ∈ (stretch ++ after).head?, x.2 = false := by
    intro x first
    cases stretch with
    | nil => exact absurd rfl filled
    | cons y stretch => exact untouched x (by simp_all)
  obtain ⟨start, rest, rfl, rewrites, leftApart⟩ :=
    @placeKept _ _ _ rewrites (by simp [filled]) head none none id
  obtain ⟨more, rfl, later⟩ := stretchKept rewrites untouched
  obtain ⟨source, listed, front, back, same, left, right⟩ := carried start stretch more rfl filled untouched
  refine ⟨source, listed, front, back, same, ?_, fun ends => right (headKept later ends)⟩
  intro begins
  exact left (by simpa using leftApart (by simpa using begins))

theorem untouchedStands {before rest : MarkedText} {sources : List (List Char)}
    (carried : Carried (before ++ rest) sources) {term : List Char} (filled : term ≠ [])
    (stands : Stands term (plain before).getLast? (plain rest))
    (untouched : Untouched (rest.take term.length)) :
    ∃ source ∈ sources, ∃ front back, source = front ++ back ∧ Stands term front.getLast? back := by
  obtain ⟨reads, begins, ends⟩ := stands
  have enough : term.length ≤ rest.length := by simpa [plain] using Text.startsAlikeLength reads
  have whole : plain rest = plain (rest.take term.length) ++ plain (rest.drop term.length) := by
    rw [← plainAppend, List.take_append_drop]
  have size : (plain (rest.take term.length)).length = term.length := by
    simp [plain, List.length_take, enough]
  have some : rest.take term.length ≠ [] := by
    intro none
    rw [none] at size
    exact filled (List.eq_nil_of_length_eq_zero size.symm)
  obtain ⟨source, listed, front, back, same, left, right⟩ :=
    carried before (rest.take term.length) (rest.drop term.length)
      (by rw [List.take_append_drop]) some untouched
  refine ⟨source, listed, front, _, same, ?_, left begins, ?_⟩
  · rw [whole, Text.startsAlikeFront (Nat.le_of_eq size.symm)] at reads
    rw [Text.startsAlikeFront (Nat.le_of_eq size.symm)]
    exact reads
  · rw [List.drop_append_of_le_length (Nat.le_of_eq size.symm), List.drop_of_length_le (Nat.le_of_eq size)]
    apply right
    simpa [plain, List.map_drop] using ends

end MarkedText

end ConceptSpace

import Mathlib.Data.List.Forall2
import ConceptSpace.Proofs.Verdict
import ConceptSpace.Proofs.WholeWords

/-! The case of ASCII letters and what is blocked.
Folding, the kinds of characters and their sizes are the same for a letter and its small form, so a term
is found in a text exactly where their small forms are, and the verdict of the standard chain, which the
terms found decide, cannot be changed by case. -/
namespace ConceptSpace

namespace Text

def lowered (text : List Char) : List Char := text.map Char.toLower

def loweredText (text : String) : String := String.ofList (lowered text.toList)

def SameButCase (a b : String) : Prop := lowered a.toList = lowered b.toList
instance (a b) : Decidable (SameButCase a b) := by
  unfold SameButCase; infer_instance

theorem sameButCaseIff {a b : String} : SameButCase a b ↔ loweredText a = loweredText b := by
  rw [SameButCase, loweredText, loweredText, String.ofList_inj]

def capital (place : Nat) : Char := Char.ofNat ('A'.toNat + place)

theorem capitalOrKept (c : Char) : (∃ place < 26, c = capital place) ∨ c.toLower = c := by
  unfold Char.toLower
  split
  · rename_i between
    have first : 'A'.toNat ≤ c.toNat := UInt32.le_iff_toNat_le.mp between.1
    have last : c.toNat ≤ 'Z'.toNat := UInt32.le_iff_toNat_le.mp between.2
    have : 'Z'.toNat = 'A'.toNat + 25 := rfl
    refine .inl ⟨c.toNat - 'A'.toNat, by omega, ?_⟩
    rw [capital, Nat.add_sub_cancel' first, Char.ofNat_toNat]
  · exact .inr rfl

theorem blindAscii {α : Type} {f : Char → α}
    (blind : ∀ place < 26, f (capital place).toLower = f (capital place)) (c : Char) :
    f c.toLower = f c := by
  rcases capitalOrKept c with ⟨place, listed, rfl⟩ | kept
  · exact blind place listed
  · rw [kept]

theorem capitalPlain : ∀ place < 26, (capital place).toNat < 128 := by decide

theorem foldBlind : foldCase ∘ Char.toLower = foldCase := funext (blindAscii (by decide))

theorem alphanumericBlind : isAlphanumeric ∘ Char.toLower = isAlphanumeric :=
  funext (blindAscii (by decide))

theorem blankBlind : isBlank ∘ Char.toLower = isBlank := funext (blindAscii (by decide +kernel))

theorem casedBlind : isCased ∘ Char.toLower = isCased := funext (blindAscii (by decide +kernel))

theorem ignorableBlind : isCaseIgnorable ∘ Char.toLower = isCaseIgnorable :=
  funext (blindAscii (by decide +kernel))

theorem sizeBlind (c : Char) : c.toLower.utf8Size = c.utf8Size :=
  blindAscii (f := Char.utf8Size) (by decide) c

theorem plainBlind (c : Char) : decide (c.toLower.toNat < 128) = decide (c.toNat < 128) :=
  blindAscii (f := fun c => decide (c.toNat < 128)) (by decide) c

theorem lowerTwice (c : Char) : c.toLower.toLower = c.toLower :=
  blindAscii (f := Char.toLower) (by decide) c

theorem loweredSize (text : List Char) : String.utf8Len (lowered text) = String.utf8Len text := by
  induction text with
  | nil => rfl
  | cons c rest ih => simpa [lowered, String.utf8Len_cons, sizeBlind] using ih

theorem startsCasedLowered (text : List Char) : startsCased (lowered text) = startsCased text := by
  rw [startsCased, lowered, List.dropWhile_map, ignorableBlind, startsCased]
  cases text.dropWhile isCaseIgnorable with
  | nil => rfl
  | cons c rest => exact congrFun casedBlind c

theorem lowerAtLowered (before : List Char) (c : Char) (after : List Char) :
    lowerAt (lowered before) c.toLower (lowered after) = lowerAt before c after := by
  by_cases plain : c.toNat < 128
  · have still : c.toLower.toNat < 128 := by simpa [plain] using plainBlind c
    rw [lowerAt, lowerAt, if_pos still, if_pos plain, lowerTwice]
  · have kept : c.toLower = c := by
      refine (capitalOrKept c).resolve_left fun listed => ?_
      obtain ⟨place, small, rfl⟩ := listed
      exact plain (capitalPlain place small)
    rw [kept, lowerAt, lowerAt, startsCasedLowered, startsCasedLowered]

theorem lowerFromLowered (before text : List Char) :
    lowerFrom (lowered before) (lowered text) = lowerFrom before text := by
  induction text generalizing before with
  | nil => rfl
  | cons c rest ih =>
    have here := lowerAtLowered before c rest
    have later := ih (c :: before)
    simp only [lowered, List.map_cons, lowerFrom] at here later ⊢
    rw [here, later]

theorem lowerCharsLowered (text : List Char) : lowerChars (lowered text) = lowerChars text :=
  lowerFromLowered [] text

theorem trimCharsLowered (text : List Char) : trimChars (lowered text) = lowered (trimChars text) := by
  simp only [trimChars, trimStartChars, trimEndChars, lowered, List.dropWhile_map, blankBlind,
    ← List.map_reverse]

theorem trimLowered (text : String) : trim (loweredText text) = loweredText (trim text) := by
  simp [trim, loweredText, trimCharsLowered]

theorem isEmptyLowered (text : String) : (loweredText text).isEmpty = text.isEmpty := by
  rw [Bool.eq_iff_iff, String.isEmpty_iff, String.isEmpty_iff, ← String.toList_eq_nil_iff,
    ← String.toList_eq_nil_iff]
  simp [loweredText, lowered]

theorem bytesLowered (text : String) : (loweredText text).utf8ByteSize = text.utf8ByteSize := by
  rw [loweredText, String.utf8ByteSize_ofList, loweredSize, ← String.utf8ByteSize_ofList, String.ofList_toList]

theorem startsAlikeLowered (phrase text : List Char) :
    startsAlike (lowered phrase) (lowered text) = startsAlike phrase text := by
  rw [Bool.eq_iff_iff, startsAlikeIff, startsAlikeIff, lowered, lowered, List.map_map, List.map_map,
    foldBlind]

end Text

namespace Redactor
open Text

theorem boundaryLowered (neighbour : Option Char) :
    isBoundary (neighbour.map Char.toLower) = isBoundary neighbour := by
  cases neighbour with
  | none => rfl
  | some c => exact congrArg not (congrFun alphanumericBlind c)

theorem soughtLowered (terms : List (List Char)) (place : List Char) :
    (terms.map lowered).find? (fun term => startsAlike term (lowered place)) =
      (terms.find? fun term => startsAlike term place).map lowered := by
  rw [List.find?_map]
  congr 2
  exact funext fun term => startsAlikeLowered term place

theorem takenLowered (term place : List Char) :
    (lowered place).take (lowered term).length = lowered (place.take term.length) := by
  rw [lowered, lowered, List.length_map, ← List.map_take, lowered]

theorem afterLowered (term place : List Char) :
    isBoundary ((lowered place).drop (lowered term).length).head? =
      isBoundary (place.drop term.length).head? := by
  rw [lowered, lowered, List.length_map, ← List.map_drop, List.head?_map, boundaryLowered]

theorem scanLowered (terms : List (List Char)) (before : Option Char) (skip : Nat) (text : List Char) :
    scan (terms.map lowered) (before.map Char.toLower) skip (lowered text) =
      (scan terms before skip text).map lowered := by
  induction text generalizing before skip with
  | nil => simp [scan, lowered]
  | cons c rest ih =>
    have later := ih (some c)
    cases skip with
    | succ skip => exact later skip
    | zero =>
      have sought := soughtLowered terms (c :: rest)
      have after (term : List Char) := afterLowered term (c :: rest)
      have taken (term : List Char) := takenLowered term (c :: rest)
      change scan _ _ 0 (c.toLower :: lowered rest) = _
      rw [show lowered (c :: rest) = c.toLower :: lowered rest from rfl] at sought after taken
      rw [scan, scan, sought]
      cases terms.find? fun term => startsAlike term (c :: rest) with
      | none => exact later 0
      | some term =>
        simp only [Option.map_some, boundaryLowered, after, taken]
        split
        · have size : (lowered term).length = term.length := List.length_map _
          rw [List.map_cons, ← later, size, Option.map_some]
        · exact later 0

theorem ofTermsLowered (terms : List String) :
    ofTerms (terms.map loweredText) = ⟨(ofTerms terms).terms.map loweredText⟩ := by
  have trimmed : (terms.map loweredText).map trim = (terms.map trim).map loweredText := by
    simp only [List.map_map, Function.comp_def, trimLowered]
  simp only [ofTerms, trimmed, List.filter_map, Function.comp_def, isEmptyLowered]

theorem orderedLowered (r : Redactor) :
    ordered ⟨r.terms.map loweredText⟩ = r.ordered.map lowered := by
  have sorted := List.map_mergeSort (f := loweredText) (l := r.terms)
    (r := fun a b => decide (b.utf8ByteSize ≤ a.utf8ByteSize)) (s := fun a b =>
      decide (b.utf8ByteSize ≤ a.utf8ByteSize)) (by simp [bytesLowered])
  rw [ordered, ordered, ← sorted]
  simp [loweredText]

theorem findMatchesLowered (terms : List String) (text : String) :
    (ofTerms (terms.map loweredText)).findMatches (loweredText text) = (ofTerms terms).findMatches text := by
  have scanned := scanLowered (ofTerms terms).ordered none 0 text.toList
  rw [findMatches, findMatches, ofTermsLowered, orderedLowered, loweredText, String.toList_ofList]
  rw [Option.map_none] at scanned
  rw [scanned, List.map_map]
  congr 2
  exact funext fun hit => congrArg String.ofList (lowerCharsLowered hit)

theorem findMatchesCaseless {terms others : List String} {text other : String}
    (alike : List.Forall₂ SameButCase terms others) (same : SameButCase text other) :
    (ofTerms terms).findMatches text = (ofTerms others).findMatches other := by
  have listed : terms.map loweredText = others.map loweredText := by
    rw [← List.forall₂_eq_eq_eq, List.forall₂_map_left_iff, List.forall₂_map_right_iff]
    exact alike.imp fun _ _ => sameButCaseIff.mp
  rw [← findMatchesLowered terms, ← findMatchesLowered others, listed, sameButCaseIff.mp same]

end Redactor

open Text

theorem Text.SameButCase.refl (text : String) : SameButCase text text := rfl

theorem Text.SameButCase.append {a b c d : String} (front : SameButCase a b) (back : SameButCase c d) :
    SameButCase (a ++ c) (b ++ d) := by
  unfold SameButCase lowered at *
  rw [String.toList_append, String.toList_append, List.map_append, List.map_append, front, back]

structure Circumstances.SameButCase (c d : Circumstances) : Prop where
  matched : Option.Rel Text.SameButCase c.bestId d.bestId
  metric : c.metric = d.metric
  provenance : c.provenance = d.provenance
  trace : c.trace = d.trace

structure Narrative.SameButCase (n m : Narrative) : Prop where
  intent : Text.SameButCase n.intent m.intent
  growth : Text.SameButCase n.growth m.growth

def MissionProfile.SameButCase (p q : MissionProfile) : Prop :=
  List.Forall₂ Text.SameButCase p.keywords q.keywords

theorem namedCaseless {id other : Option String} (same : Option.Rel Text.SameButCase id other)
    (absent : String) : Text.SameButCase (id.getD absent) (other.getD absent) := by
  cases same with
  | some both => exact both
  | none => exact .refl _

theorem attributionCaseless {c d : Circumstances} (same : c.SameButCase d) :
    Text.SameButCase (attribution c) (attribution d) := by
  have named := namedCaseless same.matched "none"
  unfold attribution
  rw [same.metric, same.provenance, same.trace]
  refine .append (.append (.append (.append ?_ named) ?_) ?_) ?_
  all_goals exact .refl _

namespace Pipeline
open Redactor

theorem textsCaseless {n m : Narrative} (same : n.SameButCase m) :
    List.Forall₂ Text.SameButCase [n.intent, n.growth] [m.intent, m.growth] :=
  .cons same.intent (.cons same.growth .nil)

theorem foundCaseless {terms others texts written : List String}
    (alike : List.Forall₂ Text.SameButCase terms others)
    (same : List.Forall₂ Text.SameButCase texts written) :
    (∃ text ∈ texts, (ofTerms terms).findMatches text ≠ []) ↔
      ∃ text ∈ written, (ofTerms others).findMatches text ≠ [] := by
  induction same with
  | nil => simp
  | cons here _ ih => simp [findMatchesCaseless alike here, ih]

theorem forbiddenCaseless {terms others : List String} {n m : Narrative}
    (alike : List.Forall₂ Text.SameButCase terms others) (same : n.SameButCase m) :
    Forbidden terms n ↔ Forbidden others m :=
  foundCaseless alike (textsCaseless same)

theorem confidentialCaseless {mission other : Option MissionProfile} {c d : Circumstances}
    {n m : Narrative} (profiles : Option.Rel MissionProfile.SameButCase mission other)
    (told : c.SameButCase d) (same : n.SameButCase m) :
    Confidential mission c n ↔ Confidential other d m := by
  rw [← confidentialStops, ← confidentialStops, gatekeeperStops, gatekeeperStops]
  cases profiles with
  | none => simp
  | some alike =>
    have texts := List.Forall₂.cons same.intent (.cons same.growth (.cons (attributionCaseless told) .nil))
    simpa using foundCaseless alike texts

theorem statusCaseless {s t : PipelineSettings} {mission other : Option MissionProfile}
    {c d : Circumstances} {n m : Narrative}
    (terms : List.Forall₂ Text.SameButCase s.ethicsTerms t.ethicsTerms)
    (profiles : Option.Rel MissionProfile.SameButCase mission other)
    (told : c.SameButCase d) (same : n.SameButCase m) :
    ((standard s mission).run c n).status = ((standard t other).run d m).status := by
  have forbid := forbiddenCaseless terms same
  have confide := confidentialCaseless profiles told same
  by_cases forbidden : Forbidden s.ethicsTerms n
  · rw [(forbiddenBlocks s forbidden).status, (forbiddenBlocks t (forbid.mp forbidden)).status]
  · have allowed : ¬ Forbidden t.ethicsTerms m := mt forbid.mpr forbidden
    by_cases confidential : Confidential mission c n
    · rw [(confidentialBlocks s forbidden confidential).status,
        (confidentialBlocks t allowed (confide.mp confidential)).status]
    · rw [(unblockedHeard s forbidden confidential).status,
        (unblockedHeard t allowed (mt confide.mpr confidential)).status]

/-- Terms and texts that differ in the case of ASCII letters give the same matches, and with them the
same status; markers, thresholds, scores and histories may differ as they like. -/
theorem caseUnread :
    (∀ (terms others : List String) (text other : String),
      List.Forall₂ Text.SameButCase terms others → Text.SameButCase text other →
      (ofTerms terms).findMatches text = (ofTerms others).findMatches other) ∧
    (∀ (s t : PipelineSettings) (mission other : Option MissionProfile) (c d : Circumstances)
      (n m : Narrative), List.Forall₂ Text.SameButCase s.ethicsTerms t.ethicsTerms →
      Option.Rel MissionProfile.SameButCase mission other → c.SameButCase d → n.SameButCase m →
      ((standard s mission).run c n).status = ((standard t other).run d m).status) :=
  ⟨fun _ _ _ _ => findMatchesCaseless, fun _ _ _ _ _ _ _ _ => statusCaseless⟩

def huedMatch : Circumstances := ⟨some "HUE-7", 1, .cosine, ∅, [], ∅, []⟩

theorem caseUnreadOnce :
    (ofTerms [" Dark Hue", "hueſ", "É-Hue"]).findMatches "a DARK hue, hueS é-hUE" =
      (ofTerms [" dARK hUE", "HUEſ", "É-hue"]).findMatches "A dark HUE, HUEs é-Hue" ∧
    (ofTerms [" Dark Hue", "hueſ", "É-Hue"]).findMatches "a DARK hue, hueS é-hUE" =
      ["dark hue", "hues", "é-hue"] ∧
    ((standard {} (some ⟨["Hue-7"]⟩)).run { huedMatch with bestId := some "hue-7" } ⟨"A", "B", []⟩).status =
      .blocked "publication_gatekeeper" := by
  have terms : List.Forall₂ Text.SameButCase [" Dark Hue", "hueſ", "É-Hue"]
      [" dARK hUE", "HUEſ", "É-hue"] := .cons (by cbv) (.cons (by cbv) (.cons (by cbv) .nil))
  have found := caseUnread.1 _ _ "a DARK hue, hueS é-hUE" "A dark HUE, HUEs é-Hue" terms (by cbv)
  have same := caseUnread.2 {} {} (some ⟨["Hue-7"]⟩) (some ⟨["hUE-7"]⟩)
    { huedMatch with bestId := some "hue-7" } huedMatch ⟨"A", "B", []⟩ ⟨"a", "b", []⟩
    (List.forall₂_same.mpr fun _ _ => rfl) (.some (.cons (by cbv) .nil))
    ⟨.some (by cbv), rfl, rfl, rfl⟩ ⟨by cbv, by cbv⟩
  have clear : ∀ text ∈ ["a", "b"], (ofTerms defaultEthicsTerms).findMatches text = [] := by
    simp only [List.forall_mem_cons]
    exact ⟨by cbv, by cbv, by simp⟩
  have allowed : ¬ Forbidden defaultEthicsTerms ⟨"a", "b", []⟩ := by
    intro forbidden
    obtain ⟨text, listed, hits⟩ := forbidden
    exact hits (clear text listed)
  have told : attribution huedMatch = "Sources: extractors [none]; rule inferences 0; " ++
      "world-model inferences 0; logical rules 0; matched HUE-7 (cosine)." := by decide
  have named : (ofTerms ["hUE-7"]).findMatches (attribution huedMatch) = ["hue-7"] := by
    rw [told]
    cbv
  have hits : (ofTerms ["hUE-7"]).findMatches (attribution huedMatch) ≠ [] := by simp [named]
  have confidential : Confidential (some ⟨["hUE-7"]⟩) huedMatch ⟨"a", "b", []⟩ :=
    ⟨_, rfl, matchesFilled hits, attribution huedMatch, by simp, hits⟩
  have blocked := confidentialBlocks {} allowed confidential
  exact ⟨found, by cbv, same.trans blocked.status⟩

end Pipeline

end ConceptSpace

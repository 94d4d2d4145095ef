import ConceptSpace.Proofs.BlankTexts
import ConceptSpace.Proofs.Places
import ConceptSpace.Proofs.UsedSlots

/-! What a registry keeps of the files it is gathered from: a slot for each definition with an id, a
formula for each rule that can be read, and a fault for all that is passed over. Nothing that is passed
over shifts a slot or shows in what is reasoned. -/
namespace ConceptSpace

open scoped Relator

theorem nonblankIff {written : Option String} {text : String} :
    nonblank written = some text ↔ written = some text ∧ Text.trim text ≠ "" := by
  rw [nonblank, Option.filter_eq_some_iff, Ne, Text.trimEmpty, Bool.not_eq_true, Bool.not_eq_true']

def Taken (written : Option String) (default value : String) : Prop :=
  (written = some value ∧ Text.trim value ≠ "") ∨
    (∀ text, written = some text → Text.trim text = "") ∧ value = default

theorem nonblankTaken (written : Option String) (default : String) :
    Taken written default ((nonblank written).getD default) := by
  cases kept : nonblank written with
  | some text => exact .inl (nonblankIff.mp kept)
  | none =>
    refine .inr ⟨fun text here => ?_, rfl⟩
    by_contra filled
    rw [nonblankIff.mpr ⟨here, filled⟩] at kept
    cases kept

namespace DimensionDef

def formula? (d : DimensionDef) : Option Formula :=
  d.ruleText.bind fun text => (Formula.parse text).toOption

def dimension (d : DimensionDef) : Dimension := { d.slot with formula := d.formula? }

def dimension? (d : DimensionDef) : Option Dimension := if d.key.isEmpty then none else some d.dimension

def fault? (d : DimensionDef) : Option Fault :=
  if d.key.isEmpty then some .blankDimension
  else d.ruleText.bind fun text =>
    match Formula.parse text with
    | .ok _ => none
    | .error e => some (.formula e)

variable {d : DimensionDef} {slot : Slot} {dimension : Dimension} {fault : Fault}

theorem ruleTextIff {text : String} :
    d.ruleText = some text ↔ text ≠ "" ∧ ∃ raw, d.rule = some raw ∧ Text.trim raw = text := by
  rw [ruleText, Option.map_eq_some_iff]
  constructor
  · intro found
    obtain ⟨raw, kept, rfl⟩ := found
    exact ⟨(nonblankIff.mp kept).2, raw, (nonblankIff.mp kept).1, rfl⟩
  · intro found
    obtain ⟨filled, raw, here, rfl⟩ := found
    exact ⟨raw, nonblankIff.mpr ⟨here, filled⟩, rfl⟩

structure Fills (d : DimensionDef) (slot : Slot) : Prop where
  id : slot.id = Text.trim d.id
  displayName : Taken d.name slot.id slot.displayName
  layer : Taken d.layer defaultLayer slot.layer
  rule : ∀ text, slot.rule = some text ↔ text ≠ "" ∧ ∃ raw, d.rule = some raw ∧ Text.trim raw = text
  weight : slot.weight = if d.weight.isFinite then d.weight else 1

theorem slotFills (d : DimensionDef) : d.Fills d.slot where
  id := rfl
  displayName := nonblankTaken d.name d.key
  layer := nonblankTaken d.layer defaultLayer
  rule _ := ruleTextIff
  weight := rfl

theorem formulaIff {e : Formula} :
    d.formula? = some e ↔ ∃ text, d.ruleText = some text ∧ Formula.parse text = .ok e := by
  rw [formula?, Option.bind_eq_some_iff]
  refine exists_congr fun text => and_congr_right fun _ => ?_
  cases Formula.parse text <;> simp [Except.toOption]

theorem dimensionIff : d.dimension? = some dimension ↔ Text.trim d.id ≠ "" ∧ d.dimension = dimension := by
  rw [dimension?, key]
  by_cases blank : Text.trim d.id = ""
  · simp [blank]
  · simp [blank]

theorem dimensionNone : d.dimension? = none ↔ Text.trim d.id = "" := by
  simp [Option.eq_none_iff_forall_ne_some, dimensionIff]

inductive Rejects (d : DimensionDef) : Fault → Prop
  | blank : Text.trim d.id = "" → Rejects d .blankDimension
  | rule {raw : String} {error : Formula.SyntaxError} : Text.trim d.id ≠ "" → d.rule = some raw →
    Text.trim raw ≠ "" → Formula.parse (Text.trim raw) = .error error → Rejects d (.formula error)

theorem Rejects.kind (rejected : d.Rejects fault) :
    fault.kind = if Text.trim d.id = "" then .config else .parse := by
  cases rejected with
  | blank blank => rw [if_pos blank]; rfl
  | rule filled _ _ _ => rw [if_neg filled]; rfl

theorem faultIff : d.fault? = some fault ↔ d.Rejects fault := by
  rw [fault?, key]
  by_cases blank : Text.trim d.id = ""
  · rw [if_pos (String.isEmpty_iff.mpr blank), Option.some_inj]
    constructor
    · rintro rfl
      exact .blank blank
    · intro rejected
      cases rejected with
      | blank _ => rfl
      | rule filled _ _ _ => exact absurd blank filled
  · rw [if_neg (mt String.isEmpty_iff.mp blank), Option.bind_eq_some_iff]
    constructor
    · intro found
      obtain ⟨text, written, refused⟩ := found
      obtain ⟨filled, raw, here, rfl⟩ := ruleTextIff.mp written
      cases read : Formula.parse (Text.trim raw) with
      | ok e => simp [read] at refused
      | error e =>
        simp only [read, Option.some.injEq] at refused
        exact refused ▸ .rule blank here filled read
    · intro rejected
      cases rejected with
      | blank also => exact absurd also blank
      | @rule raw error _ here filled refused =>
        refine ⟨Text.trim raw, ruleTextIff.mpr ⟨filled, raw, here, rfl⟩, ?_⟩
        rw [refused]

inductive Mended (d : DimensionDef) : DimensionDef → Prop
  | kept : Mended d d
  | unruled {raw : String} {error : Formula.SyntaxError} : d.rule = some raw →
    Formula.parse (Text.trim raw) = .error error → Mended d { d with rule := none }

theorem Mended.sameUse {other : DimensionDef} (mended : d.Mended other) :
    Option.Rel SameUse d.dimension? other.dimension? := by
  have alike : other.key = d.key ∧ SameUse d.dimension other.dimension := by
    cases mended with
    | kept => exact ⟨rfl, rfl, rfl⟩
    | @unruled raw error here refused =>
      refine ⟨rfl, rfl, ?_⟩
      have unread : d.formula? = none := by
        refine Option.eq_none_iff_forall_ne_some.mpr fun e read => ?_
        obtain ⟨text, written, parsed⟩ := formulaIff.mp read
        obtain ⟨_, other, also, rfl⟩ := ruleTextIff.mp written
        cases Option.some.inj (here.symm.trans also)
        rw [refused] at parsed
        cases parsed
      exact unread
  rw [dimension?, dimension?, alike.1]
  split
  · exact .none
  · exact .some alike.2

end DimensionDef

namespace Registry

inductive MendedFile : Except Fault (List DimensionDef) → Except Fault (List DimensionDef) → Prop
  | unread {fault : Fault} : MendedFile (.error fault) (.error fault)
  | read {defs others : List DimensionDef} : List.Forall₂ DimensionDef.Mended defs others →
    MendedFile (.ok defs) (.ok others)

variable (contents : List (Except Fault (List DimensionDef)))

def definitions : List DimensionDef := contents.flatMap fun content => content.toOption.getD []

def DefinedAt (p : Nat × Nat) (d : DimensionDef) : Prop :=
  ∃ defs, contents[p.1]? = some (.ok defs) ∧ defs[p.2]? = some d

def Unread (i : Nat) (fault : Fault) : Prop := contents[i]? = some (.error fault)

def placedDefinitions : List ((Nat × Nat) × DimensionDef) :=
  contents.zipIdx.flatMap fun content =>
    (content.1.toOption.getD []).zipIdx.map fun d => ((content.2, d.2), d.1)

theorem definitionsOrdered :
    (placedDefinitions contents).Pairwise fun a b => Prod.Lex (· < ·) (· < ·) a.1 b.1 := by
  rw [placedDefinitions, List.pairwise_flatMap]
  constructor
  · intro content _
    rw [List.pairwise_map]
    exact (zipIdxOrdered _).imp fun less => .right _ less
  · refine (zipIdxOrdered contents).imp fun less a fromA b fromB => ?_
    obtain ⟨_, _, rfl⟩ := List.mem_map.mp fromA
    obtain ⟨_, _, rfl⟩ := List.mem_map.mp fromB
    exact .left _ _ less

theorem memDefinitions {p : Nat × Nat} {d : DimensionDef} :
    (p, d) ∈ placedDefinitions contents ↔ DefinedAt contents p d := by
  rw [placedDefinitions, List.mem_flatMap]
  constructor
  · intro listed
    obtain ⟨⟨content, i⟩, among, listed⟩ := listed
    obtain ⟨⟨d, j⟩, defined, same⟩ := List.mem_map.mp listed
    cases same
    rw [List.mem_zipIdx_iff_getElem?] at among defined
    cases content with
    | error fault => cases defined
    | ok defs => exact ⟨defs, among, defined⟩
  · intro defined
    obtain ⟨defs, here, there⟩ := defined
    exact ⟨(.ok defs, p.1), List.mem_zipIdx_iff_getElem?.mpr here,
      List.mem_map.mpr ⟨(d, p.2), List.mem_zipIdx_iff_getElem?.mpr there, rfl⟩⟩

theorem unplaced : (placedDefinitions contents).map Prod.snd = definitions contents := by
  have whole : definitions contents =
      (contents.zipIdx.map Prod.fst).flatMap fun content => content.toOption.getD [] := by
    rw [List.zipIdx_map_fst, definitions]
  rw [whole, placedDefinitions, List.map_flatMap, List.flatMap_map]
  simp [Function.comp_def]

theorem memDefinition {d : DimensionDef} : d ∈ definitions contents ↔ ∃ p, DefinedAt contents p d := by
  rw [← unplaced, List.mem_map]
  simp [memDefinitions]

theorem definitionReports {γ : Type} (f : DimensionDef → Option γ) :
    Reports (Prod.Lex (· < ·) (· < ·)) (fun p => ∃ d, DefinedAt contents p d ∧ f d ≠ none)
      (fun p c => ∃ d, DefinedAt contents p d ∧ f d = some c) ((definitions contents).filterMap f) := by
  have reports := filterMapReports (definitionsOrdered contents) f
  simp only [memDefinitions] at reports
  rwa [← unplaced, List.filterMap_map]

theorem entered (d : DimensionDef) (r : Registry) :
    (enter d r).dimensions = d.dimension?.toList ++ r.dimensions ∧
      (enter d r).warnings = d.fault?.toList ++ r.warnings := by
  rw [enter, DimensionDef.dimension?, DimensionDef.fault?]
  split
  · exact ⟨rfl, rfl⟩
  · have slotted (formula : Option Formula) : (r.cons d.slot formula).dimensions =
        { d.slot with formula } :: r.dimensions := rfl
    rw [DimensionDef.dimension, DimensionDef.formula?]
    cases d.ruleText with
    | none => exact ⟨slotted none, rfl⟩
    | some text =>
      rw [Option.map_some, Option.bind_some, Option.bind_some]
      cases Formula.parse text with
      | ok f => exact ⟨slotted (some f), rfl⟩
      | error e => exact ⟨slotted none, rfl⟩

theorem enteredAll (defs : List DimensionDef) :
    (defs.foldr enter empty).dimensions = defs.filterMap DimensionDef.dimension? ∧
      (defs.foldr enter empty).warnings = defs.filterMap DimensionDef.fault? := by
  induction defs with
  | nil => exact ⟨rfl, rfl⟩
  | cons d defs ih =>
    obtain ⟨dimensions, warnings⟩ := entered d (defs.foldr enter empty)
    rw [List.foldr_cons, dimensions, warnings, ih.1, ih.2, List.filterMap_cons, List.filterMap_cons]
    constructor
    · cases d.dimension? <;> rfl
    · cases d.fault? <;> rfl

theorem sameContents {r q : Registry} (dimensions : r.dimensions = q.dimensions)
    (warnings : r.warnings = q.warnings) : r = q := by
  have slots : r.slots = q.slots := by rw [← dimensionSlots, dimensions, dimensionSlots]
  have rules : r.rules = q.rules := by rw [← dimensionRules, dimensions, dimensionRules]
  cases r
  cases q
  cases slots
  cases rules
  cases warnings
  rfl

theorem unfilled {r : Registry} : r.slots.isEmpty = true ↔ r.dimensions = [] := by
  rw [← dimensionSlots, List.isEmpty_iff, List.map_eq_nil_iff]

theorem ofFilesFails {fault : Fault} : ofFiles contents = .error fault ↔
    fault = .noDimensions ∧ (definitions contents).filterMap DimensionDef.dimension? = [] := by
  rw [ofFiles, ofDefinitions, ← definitions, ← (enteredAll _).1, ← unfilled]
  by_cases empty : ((definitions contents).foldr enter empty).slots.isEmpty = true
  · simp only [empty, if_true]
    exact ⟨fun failed => ⟨(Except.error.inj failed).symm, trivial⟩, fun failed => failed.1 ▸ rfl⟩
  · simp only [if_neg empty]
    exact ⟨nofun, fun failed => absurd failed.2 empty⟩

theorem ofFilesSucceeds {registry : Registry} : ofFiles contents = .ok registry ↔
    registry.dimensions ≠ [] ∧
    registry.dimensions = (definitions contents).filterMap DimensionDef.dimension? ∧
    registry.warnings =
      contents.filterMap Fault.of? ++ (definitions contents).filterMap DimensionDef.fault? := by
  obtain ⟨dimensions, warnings⟩ := enteredAll (definitions contents)
  rw [ofFiles, ofDefinitions, ← definitions, ← dimensions, ← warnings]
  by_cases empty : ((definitions contents).foldr enter empty).slots.isEmpty = true
  · simp only [if_pos empty]
    refine ⟨nofun, fun gathered => absurd (unfilled.mp empty) ?_⟩
    exact gathered.2.1 ▸ gathered.1
  · simp only [if_neg empty]
    constructor
    · intro gathered
      cases Except.ok.inj gathered
      exact ⟨mt unfilled.mpr empty, rfl, rfl⟩
    · intro gathered
      exact congrArg Except.ok (sameContents gathered.2.1.symm gathered.2.2.symm)

structure Gathered (registry : Registry) : Prop where
  slots : Reports (Prod.Lex (· < ·) (· < ·))
    (fun p => ∃ d, DefinedAt contents p d ∧ Text.trim d.id ≠ "")
    (fun p slot => ∃ d, DefinedAt contents p d ∧ d.Fills slot) registry.slots
  formulas : ∀ i e, registry.formula? i = some e ↔
    ∃ slot text, registry.slots[i]? = some slot ∧ slot.rule = some text ∧ Formula.parse text = .ok e
  warnings : ∃ unread rejected, registry.warnings = unread ++ rejected ∧
    Reports (· < ·) (fun i => ∃ fault, Unread contents i fault) (Unread contents) unread ∧
    Reports (Prod.Lex (· < ·) (· < ·)) (fun p => ∃ d, DefinedAt contents p d ∧ ∃ fault, d.Rejects fault)
      (fun p fault => ∃ d, DefinedAt contents p d ∧ d.Rejects fault ∧
        fault.kind = if Text.trim d.id = "" then .config else .parse) rejected

theorem unreadReports : Reports (· < ·) (fun i => ∃ fault, Unread contents i fault) (Unread contents)
    (contents.filterMap Fault.of?) := by
  refine (listReports contents Fault.of?).congr (fun i => ?_) fun i fault told => ?_
  · constructor
    · intro reported
      obtain ⟨content, here, unread⟩ := reported
      cases content with
      | ok defs => exact absurd rfl unread
      | error fault => exact ⟨fault, here⟩
    · intro reported
      obtain ⟨fault, here⟩ := reported
      exact ⟨.error fault, here, nofun⟩
  · obtain ⟨content, here, unread⟩ := told
    cases content with
    | ok defs => cases unread
    | error other =>
      cases unread
      exact here

theorem slotReports : Reports (Prod.Lex (· < ·) (· < ·))
    (fun p => ∃ d, DefinedAt contents p d ∧ Text.trim d.id ≠ "")
    (fun p slot => ∃ d, DefinedAt contents p d ∧ d.Fills slot)
    (((definitions contents).filterMap DimensionDef.dimension?).map Dimension.toSlot) := by
  rw [List.map_filterMap]
  refine (definitionReports contents _).congr (fun p => ?_) fun p slot told => ?_
  · refine exists_congr fun d => and_congr_right fun _ => ?_
    rw [Ne, Option.map_eq_none_iff, DimensionDef.dimensionNone]
  · obtain ⟨d, defined, kept⟩ := told
    obtain ⟨dimension, made, rfl⟩ := Option.map_eq_some_iff.mp kept
    exact ⟨d, defined, (DimensionDef.dimensionIff.mp made).2 ▸ d.slotFills⟩

theorem rejectReports : Reports (Prod.Lex (· < ·) (· < ·))
    (fun p => ∃ d, DefinedAt contents p d ∧ ∃ fault, d.Rejects fault)
    (fun p fault => ∃ d, DefinedAt contents p d ∧ d.Rejects fault ∧
      fault.kind = if Text.trim d.id = "" then .config else .parse)
    ((definitions contents).filterMap DimensionDef.fault?) := by
  refine (definitionReports contents DimensionDef.fault?).congr (fun p => ?_) fun p fault told => ?_
  · simp only [Option.ne_none_iff_exists', DimensionDef.faultIff]
  · obtain ⟨d, defined, reported⟩ := told
    have rejected := DimensionDef.faultIff.mp reported
    exact ⟨d, defined, rejected, rejected.kind⟩

variable {contents} {registry : Registry}

theorem filesGathered (ok : ofFiles contents = .ok registry) : Gathered contents registry := by
  obtain ⟨_, dimensions, warnings⟩ := (ofFilesSucceeds contents).mp ok
  have slots : registry.slots = _ := registry.dimensionSlots.symm.trans (congrArg _ dimensions)
  refine ⟨slots ▸ slotReports contents, fun i e => ?_,
    ⟨_, _, warnings, unreadReports contents, rejectReports contents⟩⟩
  rw [formulaAt, ← dimensionSlots, List.getElem?_map]
  cases here : registry.dimensions[i]? with
  | none => simp
  | some dimension =>
    have listed := dimensions ▸ List.mem_of_getElem? here
    obtain ⟨d, _, kept⟩ := List.mem_filterMap.mp listed
    obtain ⟨_, rfl⟩ := DimensionDef.dimensionIff.mp kept
    rw [Option.bind_some, Option.map_some]
    refine DimensionDef.formulaIff.trans ⟨fun read => ?_, fun read => ?_⟩
    · obtain ⟨text, written, parsed⟩ := read
      exact ⟨_, text, rfl, written, parsed⟩
    · obtain ⟨_, text, same, written, parsed⟩ := read
      cases same
      exact ⟨text, written, parsed⟩

theorem mendedDimensions {others : List (Except Fault (List DimensionDef))}
    (mended : List.Forall₂ MendedFile contents others) :
    List.Forall₂ SameUse ((definitions contents).filterMap DimensionDef.dimension?)
      ((definitions others).filterMap DimensionDef.dimension?) := by
  have alike : List.Forall₂ DimensionDef.Mended (definitions contents) (definitions others) := by
    refine List.rel_flatMap mended fun _ _ file => ?_
    cases file with
    | unread => exact .nil
    | read defs => exact defs
  have dimensions : (DimensionDef.Mended ⇒ Option.Rel SameUse) DimensionDef.dimension?
      DimensionDef.dimension? := fun _ _ => DimensionDef.Mended.sameUse
  exact List.rel_filterMap dimensions alike

theorem mendedReasonsAlike {others : List (Except Fault (List DimensionDef))}
    (mended : List.Forall₂ MendedFile contents others) (ok : ofFiles contents = .ok registry) :
    ∃ other, ofFiles others = .ok other ∧ ∀ (World : Type) [WorldModel World] (reasoner : Reasoner)
      (knowledge : KnowledgeOver World) (outputs : List ExtractorOutput),
        ReasonedVector.ofOutputs reasoner { knowledge with registry } outputs =
          ReasonedVector.ofOutputs reasoner { knowledge with registry := other } outputs := by
  obtain ⟨filled, dimensions, _⟩ := (ofFilesSucceeds contents).mp ok
  have used := mendedDimensions mended
  rw [← dimensions] at used
  cases again : ofFiles others with
  | error fault =>
    rw [((ofFilesFails others).mp again).2] at used
    exact absurd (List.forall₂_nil_right_iff.mp used) filled
  | ok other =>
    refine ⟨other, rfl, fun World _ => ReasonedVector.sameReasoned ?_⟩
    rw [((ofFilesSucceeds others).mp again).2.1]
    exact used

/-- Slots stay aligned with their definitions, and what is bad stays where it is. -/
theorem filesKeptInOrder (contents : List (Except Fault (List DimensionDef))) :
    (∀ fault, ofFiles contents = .error fault ↔
      fault = .noDimensions ∧ ∀ p d, DefinedAt contents p d → Text.trim d.id = "") ∧
    ∀ registry, ofFiles contents = .ok registry → Gathered contents registry ∧
      ∀ others, List.Forall₂ MendedFile contents others → ∃ other, ofFiles others = .ok other ∧
        ∀ (World : Type) [WorldModel World] (reasoner : Reasoner) (knowledge : KnowledgeOver World)
          (outputs : List ExtractorOutput),
          ReasonedVector.ofOutputs reasoner { knowledge with registry } outputs =
            ReasonedVector.ofOutputs reasoner { knowledge with registry := other } outputs := by
  refine ⟨fun fault => ?_, fun registry ok => ⟨filesGathered ok, fun others mended =>
    mendedReasonsAlike mended ok⟩⟩
  rw [ofFilesFails]
  refine and_congr_right fun _ => ?_
  simp only [List.filterMap_eq_nil_iff, memDefinition, DimensionDef.dimensionNone, forall_exists_index]
  exact forall_comm

def brokenDefinition : DimensionDef := { id := " hue ", rule := some "(tint " }

def brokenSlot : Slot := ⟨"hue", "hue", "general", some "(tint", 1⟩

theorem brokenDefined : Formula.parse "(tint" = .error ⟨5, .closingMissing⟩ ∧
    brokenDefinition.dimension? = some { brokenSlot with formula := none } ∧
    brokenDefinition.fault? = some (.formula ⟨5, .closingMissing⟩) := by
  have scanned : Formula.scan 0 "(tint".toList = .ok [⟨0, .opening⟩, ⟨1, .name "tint"⟩] := by decide +kernel
  have size : "(tint".utf8ByteSize = 5 := by decide
  have refused : Formula.parse "(tint" = .error ⟨5, .closingMissing⟩ := by
    rw [Formula.parse, scanned, size]
    simp [Formula.ofLexemes, Formula.disjunction, Formula.conjunction, Formula.operand, Formula.disjuncts,
      Formula.conjuncts, Formula.depthLimit]
  have named : Text.trim brokenDefinition.id ≠ "" := by decide
  have trimmed : Text.trim "(tint " = "(tint" := rfl
  have unread : brokenDefinition.formula? = none := by
    have rule : brokenDefinition.ruleText = some "(tint" := rfl
    rw [DimensionDef.formula?, rule, Option.bind_some, refused]
    rfl
  have made : brokenDefinition.dimension = { brokenSlot with formula := none } := by
    rw [DimensionDef.dimension, unread]
    rfl
  refine ⟨refused, DimensionDef.dimensionIff.mpr ⟨named, made⟩, DimensionDef.faultIff.mpr ?_⟩
  exact .rule named rfl (by rw [trimmed]; decide) (by rw [trimmed]; exact refused)

def patchy (hue : DimensionDef) : List (Except Fault (List DimensionDef)) :=
  [.error (.file "gone.json" .missing), .ok [{ id := " " }, hue, { id := "tint" }]]

def patchyRegistry : Registry where
  slots := [brokenSlot, ⟨"tint", "tint", "general", none, 1⟩]
  rules := [none, none]
  warnings := [.file "gone.json" .missing, .blankDimension, .formula ⟨5, .closingMissing⟩]
  aligned := rfl

theorem patchyGathered : ofFiles (patchy brokenDefinition) = .ok patchyRegistry := by
  obtain ⟨_, dimension, fault⟩ := brokenDefined
  have defined : definitions (patchy brokenDefinition) =
      [{ id := " " }, brokenDefinition, { id := "tint" }] := rfl
  have blank : DimensionDef.dimension? { id := " " } = none := rfl
  have unread : (patchy brokenDefinition).filterMap Fault.of? = [.file "gone.json" .missing] := rfl
  have reported : DimensionDef.fault? { id := " " } = some .blankDimension := rfl
  refine (ofFilesSucceeds _).mpr ⟨nofun, ?_, ?_⟩
  · rw [defined, List.filterMap_cons_none blank, List.filterMap_cons_some dimension]
    rfl
  · rw [unread, defined, List.filterMap_cons_some reported, List.filterMap_cons_some fault]
    rfl

theorem patchyKept : ofFiles (patchy brokenDefinition) = .ok patchyRegistry ∧
    Gathered (patchy brokenDefinition) patchyRegistry ∧
    ∃ other, ofFiles (patchy { brokenDefinition with rule := none }) = .ok other ∧
      ∀ (World : Type) [WorldModel World] (reasoner : Reasoner) (knowledge : KnowledgeOver World)
        (outputs : List ExtractorOutput),
        ReasonedVector.ofOutputs reasoner { knowledge with registry := patchyRegistry } outputs =
          ReasonedVector.ofOutputs reasoner { knowledge with registry := other } outputs := by
  have kept := (filesKeptInOrder (patchy brokenDefinition)).2 patchyRegistry patchyGathered
  have mended : List.Forall₂ DimensionDef.Mended [{ id := " " }, brokenDefinition, { id := "tint" }]
      [{ id := " " }, { brokenDefinition with rule := none }, { id := "tint" }] :=
    .cons .kept (.cons (.unruled rfl brokenDefined.1) (.cons .kept .nil))
  exact ⟨patchyGathered, kept.1, kept.2 _ (.cons .unread (.cons (.read mended) .nil))⟩

end Registry

end ConceptSpace

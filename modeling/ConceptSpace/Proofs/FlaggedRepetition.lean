import ConceptSpace.Proofs.SharedWords
import ConceptSpace.Proofs.UnblockedPast
import ConceptSpace.Proofs.Verdict

/-! A growth text that repeats an earlier one is flagged.
The tracker warns exactly when some remembered growth text is more similar than the threshold. What a run
records is the growth text that comes to the tracker, and neither the history nor the time has a part in
it, so a request that is analysed again meets its own record as long as that is remembered. -/
namespace ConceptSpace
open Text ValueOrder

theorem laterAbove {novelty best x : Float} (defined : ∃ i, i ∈ rank best.toModel.unpack) :
    novelty < (if best < x then x else best) ↔ novelty < best ∨ novelty < x := by
  obtain ⟨i, ranked⟩ := defined
  split
  · rename_i rises
    refine ⟨.inr, fun either => either.elim (fun below => ?_) id⟩
    obtain ⟨k, rankK, j, rankJ, less⟩ := lessRank.mp below
    obtain ⟨j', rankJ', l, rankL, more⟩ := lessRank.mp rises
    cases Option.some.inj (rankJ.symm.trans rankJ')
    exact lessRank.mpr ⟨k, rankK, l, rankL, less.trans more⟩
  · rename_i stays
    refine ⟨.inl, fun either => either.elim id fun below => ?_⟩
    obtain ⟨k, rankK, j, rankJ, less⟩ := lessRank.mp below
    have most : j ≤ i := by
      by_contra greater
      exact stays (lessRank.mpr ⟨i, ranked, j, rankJ, not_le.mp greater⟩)
    exact lessRank.mpr ⟨k, rankK, i, ranked, less.trans_le most⟩

theorem foldAbove {novelty best : Float} (defined : ∃ i, i ∈ rank best.toModel.unpack) (xs : List Float) :
    novelty < xs.foldl (fun best x => if best < x then x else best) best ↔
      novelty < best ∨ ∃ x ∈ xs, novelty < x := by
  induction xs generalizing best with
  | nil => simp
  | cons x xs ih =>
    have next : ∃ i, i ∈ rank (if best < x then x else best).toModel.unpack := by
      split
      · rename_i rises
        obtain ⟨_, _, j, ranked, _⟩ := lessRank.mp rises
        exact ⟨j, ranked⟩
      · exact defined
    rw [List.foldl_cons, ih next, laterAbove defined]
    simp [or_assoc]

theorem greatestAbove {novelty : Float} (xs : List Float) :
    novelty < greatest xs ↔ novelty < 0 ∨ ∃ x ∈ xs, novelty < x :=
  foldAbove ⟨_, rfl⟩ xs

theorem belowPlus {novelty x : Float} (below : novelty < 0) (plus : Plus x.toModel.unpack) : novelty < x := by
  obtain ⟨k, rankK, j, rankJ, less⟩ := lessRank.mp below
  obtain ⟨i, rankI, least⟩ := plusRank plus
  cases Option.some.inj (rankJ.symm.trans (show rank (0 : Float).toModel.unpack = _ from rfl))
  exact lessRank.mpr ⟨k, rankK, i, rankI, less.trans_le least⟩

section tracker
variable {novelty : Float} {c : Circumstances} {n : Narrative}

theorem trackerWarns : (∃ note, ((growthTracker novelty).apply c n).2 = .warn note) ↔
    c.history ≠ [] ∧ novelty < greatest (c.history.map fun r => similarity n.growth r.growth) := by
  unfold growthTracker
  dsimp only
  split
  · rename_i empty
    simp [List.isEmpty_iff.mp empty]
  · rename_i filled
    rw [List.isEmpty_iff] at filled
    split
    · rename_i above
      exact iff_of_true ⟨_, rfl⟩ ⟨filled, above⟩
    · rename_i within
      refine iff_of_false (fun warned => ?_) (fun both => within both.2)
      obtain ⟨note, warns⟩ := warned
      cases warns

theorem trackerWarnsAbove (held : Addressable n.growth) (remembered : ∀ r ∈ c.history, Addressable r.growth) :
    (∃ note, ((growthTracker novelty).apply c n).2 = .warn note) ↔
      ∃ r ∈ c.history, novelty < similarity n.growth r.growth := by
  rw [trackerWarns, greatestAbove]
  constructor
  · rintro ⟨filled, below | ⟨x, listed, above⟩⟩
    · obtain ⟨r, rest, past⟩ := List.exists_cons_of_ne_nil filled
      have recorded : r ∈ c.history := past ▸ List.mem_cons_self
      exact ⟨r, recorded, belowPlus below (similarityPlus held (remembered r recorded))⟩
    · obtain ⟨r, recorded, rfl⟩ := List.mem_map.mp listed
      exact ⟨r, recorded, above⟩
  · rintro ⟨r, recorded, above⟩
    exact ⟨List.ne_nil_of_mem recorded, .inr ⟨_, List.mem_map_of_mem recorded, above⟩⟩

end tracker

namespace Pipeline
variable {s : PipelineSettings} {mission : Option MissionProfile} {c : Circumstances} {n : Narrative}

theorem trackerReads (passed : ((standard s mission).run c n).status = .passed) :
    (arriving c (standard s mission).stages n 6).growth = ((standard s mission).run c n).narrative.growth := by
  have ends : ((standard s mission).run c n).narrative = [growthTracker s.novelty,
      anomalyMonitor s.anomalyThreshold s.anomalySamples].foldl (after c)
        (arriving c (standard s mission).stages n 6) := by
    rw [run, passedNarrative passed, arriving, ← List.foldl_append]
    rfl
  rw [ends, List.foldl_cons, List.foldl_cons, List.foldl_nil, (keepsTexts (anomalyKeeps _ _)).2,
    (keepsTexts (growthKeeps _)).2]

theorem repetitionWarned (passed : ((standard s mission).run c n).status = .passed)
    (below : s.novelty < 1) {r : NarrativeRecord} (recorded : r ∈ c.history)
    (repeats : r.growth = ((standard s mission).run c n).narrative.growth) (held : Addressable r.growth) :
    ∃ warning ∈ ((standard s mission).run c n).warnings, Warned "growth_tracker" warning := by
  have reads := trackerReads passed
  have alike : similarity (arriving c (standard s mission).stages n 6).growth r.growth = 1 := by
    rw [reads, ← repeats]
    exact similaritySame held held fun _ => Iff.rfl
  obtain ⟨note, warns⟩ := trackerWarns.mpr ⟨List.ne_nil_of_mem recorded,
    (greatestAbove _).mpr (.inr ⟨_, List.mem_map_of_mem recorded, alike.symm ▸ below⟩)⟩
  refine ⟨"growth_tracker" ++ ": " ++ note, ?_, note, rfl⟩
  rw [run, passedWhole passed]
  refine List.mem_filterMap.mpr ⟨(growthTracker s.novelty, 6), ?_, ?_⟩
  · exact List.mem_zipIdx_iff_getElem?.mpr rfl
  · rw [warns]
    rfl

end Pipeline

theorem Draft.finishPassed {d : Draft} {h : List NarrativeRecord}
    (unblocked : (d.finish (.ok h)).status ≠ .blocked) :
    (d.pipeline.run (d.circumstances h) d.narrative).status = .passed := by
  cases ended : (d.pipeline.run (d.circumstances h) d.narrative).status with
  | passed => rfl
  | blocked name => exact absurd (Draft.finishBlocked ended) unblocked

theorem Draft.finishGrowth {d : Draft} {s : PipelineSettings} {mission : Option MissionProfile}
    (standard : d.pipeline = .standard s mission) {h : List NarrativeRecord}
    (unblocked : (d.finish (.ok h)).status ≠ .blocked) :
    (d.finish (.ok h)).growth = (Tone.soften d.narrative.growth).1 ∨
      (d.finish (.ok h)).growth = hedged (Tone.soften d.narrative.growth).1 := by
  have passed := Draft.finishPassed unblocked
  change (d.pipeline.run (d.circumstances h) d.narrative).narrative.growth = _ ∨
    (d.pipeline.run (d.circumstances h) d.narrative).narrative.growth = _
  rw [standard] at passed ⊢
  exact (Pipeline.standardTexts passed).2

theorem Draft.finishWarned {d : Draft} {s : PipelineSettings} {mission : Option MissionProfile}
    (standard : d.pipeline = .standard s mission) {h : List NarrativeRecord}
    (unblocked : (d.finish (.ok h)).status ≠ .blocked) (below : s.novelty < 1) {r : NarrativeRecord}
    (recorded : r ∈ h) (repeats : r.growth = (d.finish (.ok h)).growth) (held : Addressable r.growth) :
    ∃ warning ∈ (d.finish (.ok h)).warnings, Pipeline.Warned "growth_tracker" warning := by
  have passed := Draft.finishPassed unblocked
  change r.growth = (d.pipeline.run (d.circumstances h) d.narrative).narrative.growth at repeats
  rw [standard] at passed repeats
  obtain ⟨warning, listed, warns⟩ :=
    Pipeline.repetitionWarned (c := d.circumstances h) passed below recorded repeats held
  refine ⟨warning, List.mem_append_right _ ?_, warns⟩
  rwa [standard]

theorem newestReach {answer : Answer} {before after : List Answer} {width : Nat}
    (unblocked : answer.unblocked = true) (few : (after.filter Answer.unblocked).length < width) :
    answer.record ∈ remembered width (before ++ answer :: after) := by
  obtain ⟨k, room⟩ := Nat.exists_eq_add_of_lt few
  refine List.mem_map_of_mem ?_
  rw [List.filter_append, List.filter_cons_of_pos unblocked, List.reverse_append, List.reverse_cons,
    List.append_assoc, List.take_append, List.mem_append]
  right
  rw [List.length_reverse, room, show (after.filter Answer.unblocked).length + k + 1 -
    (after.filter Answer.unblocked).length = k + 1 by omega]
  simp

namespace Engine

def asked (calls : List (Moment × AnalysisRequest)) : List (Moment × Action) :=
  calls.map fun call => (call.1, .analyze call.2)

theorem askedKeeps (e : Engine) (calls : List (Moment × AnalysisRequest)) :
    (e.session (asked calls)).1.Configured e ∧ (e.session (asked calls)).1.knowledge = e.knowledge := by
  induction calls generalizing e with
  | nil => exact ⟨⟨rfl, rfl, rfl⟩, rfl⟩
  | cons call calls ih =>
    obtain ⟨made, knowledge, _⟩ := e.keepOnly call.1 ((e.start call.2).finish e.recent)
    obtain ⟨later, kept⟩ := ih (e.analyze call.1 call.2).1
    exact ⟨later.trans made, kept.trans knowledge⟩

theorem againTold {e s : Engine} {answers : List Answer} (kept : e.Remembers answers s) (first again : Moment)
    (request : AnalysisRequest) (between : List (Moment × AnalysisRequest)) :
    (∃ h, (s.analyze first request).2 = (s.start request).finish (.ok h)) ∧
    (((s.analyze first request).1.session (asked between)).1.analyze again request).2 =
      (s.start request).finish (.ok (remembered e.settings.historyWindow
        (answers ++ ⟨first, (s.analyze first request).2⟩ ::
          ((s.analyze first request).1.session (asked between)).2))) := by
  have analysed : e.Remembers (answers ++ [⟨first, (s.analyze first request).2⟩])
      (s.analyze first request).1 := actRemembers kept first (.analyze request)
  have later := sessionRemembers analysed (asked between)
  have shown := remembersRecent later
  obtain ⟨_, w, window, _⟩ := kept
  obtain ⟨_, v, windowAgain, _⟩ := later
  obtain ⟨configured, knowledge, _⟩ := s.keepOnly first ((s.start request).finish s.recent)
  obtain ⟨configuredAgain, knowledgeAgain⟩ := askedKeeps (s.analyze first request).1 between
  have same : ((s.analyze first request).1.session (asked between)).1.start request = s.start request := by
    rw [(configuredAgain.trans configured).start, knowledgeAgain.trans knowledge]
    rfl
  refine ⟨⟨_, (windowAnalyze window first request).1⟩, ?_⟩
  rw [recent, windowAgain, History.recent] at shown
  rw [(windowAnalyze windowAgain again request).1, same, Except.ok.inj shown, List.append_assoc,
    List.singleton_append]

theorem askedAgain {e s : Engine} {answers : List Answer} (kept : e.Remembers answers s)
    (below : s.pipeline.novelty < 1) (first again : Moment) (request : AnalysisRequest)
    (between : List (Moment × AnalysisRequest))
    (unblocked : (s.analyze first request).2.status ≠ .blocked)
    (held : Addressable (s.analyze first request).2.growth)
    (few : (((s.analyze first request).1.session (asked between)).2.filter Answer.unblocked).length <
      e.settings.historyWindow) :
    ∃ warning ∈ (((s.analyze first request).1.session (asked between)).1.analyze again request).2.warnings,
      Pipeline.Warned "growth_tracker" warning := by
  obtain ⟨⟨h, answered⟩, told⟩ := againTold kept first again request between
  have standard := s.startPipeline request
  have alike (h' : List NarrativeRecord) :
      (s.analyze first request).2.Alike ((s.start request).finish (.ok h')) := by
    rw [answered]
    exact Draft.finishAlike standard (.ok h) (.ok h')
  let answer : Answer := ⟨first, (s.analyze first request).2⟩
  have shown : answer.unblocked = true := by simpa [Answer.unblocked, answer] using unblocked
  have reached := @newestReach answer answers _ _ shown few
  rw [told]
  refine Draft.finishWarned standard ?_ below reached (alike _).growth held
  rw [← (alike _).status]
  exact unblocked

def lone : Engine := .ofKnowledge .empty { pipeline := { ethicsTerms := [] } }
  { Service.hueEngine.knowledge with library := [] }

theorem loneTold : (lone.start { outputs := [] }).narrative.growth =
    "Shared: none. Only in query: none. Only in match: none." := by
  unfold start Draft.start
  dsimp only
  rw [show lone.knowledge.library = [] from rfl, Matcher.bestNone _ rfl]
  rfl

theorem loneOpen (moment : Moment) (request : AnalysisRequest) :
    (lone.analyze moment request).2.status = .noMatch :=
  unstockedUnmatched rfl rfl rfl (by rfl) moment request

theorem loneHeld (moment : Moment) : Addressable (lone.analyze moment { outputs := [] }).2.growth := by
  have unblocked : (lone.analyze moment { outputs := [] }).2.status ≠ .blocked := by
    rw [loneOpen]
    decide
  have soft : (Tone.soften "Shared: none. Only in query: none. Only in match: none.").1 =
      "Shared: none. Only in query: none. Only in match: none." := by cbv
  rw [(windowAnalyze rfl moment { outputs := [] }).1] at unblocked ⊢
  have texts := Draft.finishGrowth (startPipeline _ _) unblocked
  rw [loneTold, soft] at texts
  rcases texts with kept | hedged
  · rw [kept]
    decide
  · rw [hedged]
    decide

end Engine

end ConceptSpace

import ConceptSpace.Text.Blank
import ConceptSpace.Text.CaseFolding
import ConceptSpace.Text.LowerCase
import ConceptSpace.Text.Letters
import ConceptSpace.Text.Quoted
import ConceptSpace.Decimal.Binary
import ConceptSpace.Decimal.Places
import ConceptSpace.Decimal.Shortest
import ConceptSpace.Decimal.Reading
import ConceptSpace.Document.Basic
import ConceptSpace.Document.Json
import ConceptSpace.Document.JsonText
import ConceptSpace.Decimal.Scaled
import ConceptSpace.Formula.Parse
import ConceptSpace.Fault
import ConceptSpace.Registry
import ConceptSpace.FeatureVector
import ConceptSpace.Rulebase
import ConceptSpace.ConceptGraph
import ConceptSpace.Library
import ConceptSpace.Reasoning.Chaining
import ConceptSpace.Reasoning.DimensionRules
import ConceptSpace.Similarity.Ranking
import ConceptSpace.Narrative.Pipeline
import ConceptSpace.History.Store
import ConceptSpace.Narrator
import ConceptSpace.FileTree
import ConceptSpace.Definition.Decode
import ConceptSpace.Document.Yaml.Reading
import ConceptSpace.Document.Toml.Read
import ConceptSpace.Settings.Environment
import ConceptSpace.Engine
import ConceptSpace.Handler.Shell
import ConceptSpace.Chat.Narrator
import ConceptSpace.Document.Toml.Write
import ConceptSpace.Main
import ConceptSpace.Proofs.AlikeTexts
import ConceptSpace.Proofs.KeywordScan
import ConceptSpace.Proofs.ContextTruths
import ConceptSpace.Proofs.KeptFirst
import ConceptSpace.Proofs.LeastModel
import ConceptSpace.Proofs.BlankTexts
import ConceptSpace.Proofs.TokenSplit
import ConceptSpace.Proofs.FormulaGrammar
import ConceptSpace.Proofs.FormulaReading
import ConceptSpace.Proofs.StageRun
import ConceptSpace.Proofs.StandardRun
import ConceptSpace.Proofs.MarkedText
import ConceptSpace.Proofs.PublishedTexts
import ConceptSpace.Proofs.RaisedSlots
import ConceptSpace.Proofs.FormulaText
import ConceptSpace.Proofs.FormulaRefusal
import ConceptSpace.Proofs.TextReadBack
import ConceptSpace.Proofs.PublishedTerms
import ConceptSpace.Proofs.HistoryBlind
import ConceptSpace.Proofs.Interleaving
import ConceptSpace.Proofs.Derivation
import ConceptSpace.Proofs.ValueOrder
import ConceptSpace.Proofs.MoreKnowledge
import ConceptSpace.Proofs.ExplainedTrace
import ConceptSpace.Proofs.ShortCircuit
import ConceptSpace.Proofs.UnreadLog
import ConceptSpace.Proofs.Verdict
import ConceptSpace.Proofs.Session
import ConceptSpace.Proofs.BestMatch
import ConceptSpace.Proofs.UnblockedPast
import ConceptSpace.Proofs.Fallback
import ConceptSpace.Proofs.Renewal
import ConceptSpace.Proofs.PaddedDigits
import ConceptSpace.Proofs.ArchiveEntries
import ConceptSpace.Proofs.TwoStores
import ConceptSpace.Proofs.Recorders
import ConceptSpace.Proofs.NewestKept
import ConceptSpace.Proofs.SharedIds
import ConceptSpace.Proofs.PassLimit
import ConceptSpace.Proofs.Additions
import ConceptSpace.Proofs.Places
import ConceptSpace.Proofs.RankedEntries
import ConceptSpace.Proofs.RankedOrder
import ConceptSpace.Proofs.MergedObservations
import ConceptSpace.Proofs.NearTies
import ConceptSpace.Proofs.UndefinedScores
import ConceptSpace.Proofs.NewestRecords
import ConceptSpace.Proofs.ConsistentReports
import ConceptSpace.Proofs.CanonicalText
import ConceptSpace.Proofs.LookingBack
import ConceptSpace.Proofs.TokenPlaces
import ConceptSpace.Proofs.FaultPlaces
import ConceptSpace.Proofs.GatheredSlots
import ConceptSpace.Proofs.AddedConcepts
import ConceptSpace.Proofs.LoadedParts
import ConceptSpace.Proofs.KeptRules
import ConceptSpace.Proofs.FileWarnings
import ConceptSpace.Proofs.WholeWords
import ConceptSpace.Proofs.SettledTexts
import ConceptSpace.Proofs.CountRatios
import ConceptSpace.Proofs.SharedWords
import ConceptSpace.Proofs.FlaggedRepetition
import ConceptSpace.Proofs.ByteCursor
import ConceptSpace.Proofs.CursorTrail
import ConceptSpace.Proofs.LetterCase
import ConceptSpace.Proofs.FormulaFootprint
import ConceptSpace.Proofs.Resumption
import ConceptSpace.Proofs.HistogramDistance
import ConceptSpace.Proofs.LayerBalance

import NarrativePlayer.Document.Settings
import NarrativePlayer.Document.StoryText
import NarrativePlayer.Main
import NarrativePlayer.Session.Description
import NarrativePlayer.Proofs.Session.Effects
import NarrativePlayer.Proofs.Session.Obedience
import NarrativePlayer.Proofs.Session.Course
import NarrativePlayer.Proofs.Session.Activities
import NarrativePlayer.Proofs.Session.SequenceOrder
import NarrativePlayer.Proofs.Session.Supersession
import NarrativePlayer.Proofs.Session.AwaitedInteraction
import NarrativePlayer.Proofs.Review.Soundness
import NarrativePlayer.Proofs.Review.Findings
import NarrativePlayer.Proofs.Session.SceneMoves
import NarrativePlayer.Proofs.Review.Variables
import NarrativePlayer.Proofs.Session.ShownTexts
import NarrativePlayer.Proofs.Review.Prompts
import NarrativePlayer.Proofs.Review.DeadEnds
import NarrativePlayer.Proofs.Session.SequentialTelling
import NarrativePlayer.Proofs.Session.WatchedLines
import NarrativePlayer.Proofs.Session.SettledChains
import NarrativePlayer.Proofs.Session.Recital
import NarrativePlayer.Proofs.Session.History
import NarrativePlayer.Proofs.Session.Tenure
import NarrativePlayer.Proofs.Session.PrintedBlocks
import NarrativePlayer.Proofs.Session.BlockPace
import NarrativePlayer.Proofs.Session.MirroredSteps
import NarrativePlayer.Proofs.Session.RousedActivities
import NarrativePlayer.Proofs.Session.PastActivities
import NarrativePlayer.Proofs.Session.AttainedStates
import NarrativePlayer.Proofs.Session.Renewal
import NarrativePlayer.Proofs.Session.RefusedCommands
import NarrativePlayer.Proofs.Session.EndedSession
import NarrativePlayer.Proofs.Session.Announcements
import NarrativePlayer.Proofs.Session.Widgets
import NarrativePlayer.Proofs.Session.TruthfulReports
import NarrativePlayer.Proofs.Session.RestartLeftovers
import NarrativePlayer.Proofs.Session.ForgottenSequence
import NarrativePlayer.Proofs.Session.AbandonedWait
import NarrativePlayer.Proofs.Session.WaitTermination
import NarrativePlayer.Proofs.Player.PlayTermination
import NarrativePlayer.Proofs.Session.ShadowedDeclarations
import NarrativePlayer.Proofs.Review.Compatibility
import NarrativePlayer.Proofs.Document.RoundTrip
import NarrativePlayer.Proofs.Document.Indifference
import NarrativePlayer.Proofs.Template.Occurrences
import NarrativePlayer.Proofs.Player.UnheardPace
import NarrativePlayer.Proofs.Player.AnswerPrompts
import NarrativePlayer.Proofs.Player.ChosenOptions
import NarrativePlayer.Proofs.Session.AnswerJudgement
import NarrativePlayer.Proofs.Review.Closure
import NarrativePlayer.Proofs.Review.ErrorCount

import OnePersonLab.Evolution.EvaluationBar
import OnePersonLab.Evolution.ActivationSafety
import OnePersonLab.Evolution.ReceiptUse
import OnePersonLab.Evolution.Settlement
import OnePersonLab.Contract.CanonicalForm
import OnePersonLab.Stage.StageRunReview
import OnePersonLab.Evolution.TamperEvidence
import OnePersonLab.Stage.RunGuarantees
import OnePersonLab.Stage.RecoveryEvidence
import OnePersonLab.Release.RoundTrip
import OnePersonLab.Release.UnknownOutcomes
import OnePersonLab.Evolution.RetrySafety
import OnePersonLab.Evolution.StoreGuarantees
import OnePersonLab.Release.EventFeed
import OnePersonLab.Release.OperationWindows
import OnePersonLab.Evidence.WorkItemUpdates
import OnePersonLab.Attempt.CreationRuns
import OnePersonLab.Attempt.Absorption
import OnePersonLab.Transport.LastingObjects
import OnePersonLab.Session.SessionLedger
import OnePersonLab.Queue.LatestOutcome
import OnePersonLab.Queue.HistoryRetention
import OnePersonLab.Package.ArchiveAgreement
import OnePersonLab.Update.LockRecovery
import OnePersonLab.Update.VerifiedRuntime
import OnePersonLab.Stage.ReviewReachability
import OnePersonLab.Attempt.ActivityHistory
import OnePersonLab.Artifact.PngVerdicts
import OnePersonLab.Knowledge.ContextAgreement
import OnePersonLab.Knowledge.RecallExactness
import OnePersonLab.PackageHost.CompositionOrder
import OnePersonLab.Evidence.ProvenanceReadBack
import OnePersonLab.Evidence.WorkItemFold
import OnePersonLab.Stage.ReadModelInfluence
import OnePersonLab.Attempt.RouteSanitizing
import OnePersonLab.Stage.DependencyDepthOrder
import OnePersonLab.Evidence.EvidenceReceipts
import OnePersonLab.Update.GenerationIdentity
import OnePersonLab.Package.PackBundleChecks
import OnePersonLab.Closure.CallReports

import Aegis.Lifecycle.Shared
import Aegis.Lifecycle.Reconciliation
import Aegis.Lifecycle.Recovering
import Aegis.Lifecycle.Witnessed
import Aegis.Effects.ForwardRecovery
import Aegis.Effects.RollbackFence
import Aegis.Effects.ReceiptChain
import Aegis.Effects.ExactlyOnce
import Aegis.Effects.Freshness
import Aegis.Agentic.SerialChain
import Aegis.Agentic.MessageChain
import Aegis.Agentic.Ceilings
import Aegis.Agentic.Attenuation
import Aegis.Assurance.Evolution
import Aegis.Assurance.Coverage
import Aegis.Assurance.Waivers
import Aegis.Assurance.FindingChain
import Aegis.Assurance.FeedbackChain
import Aegis.Assurance.Agreement
import Aegis.Serving.TelemetryChain
import Aegis.Incidents.NeverForks
import Aegis.Incidents.Approved
import Aegis.Incidents.Intake
import Aegis.Registry.Transparency
import Aegis.Architecture.PathsExact
import Aegis.Architecture.PrivilegeReach
import Aegis.Architecture.SinkReach
import Aegis.Inference.BatchStart
import Aegis.Detection.ArrivalOrder
import Aegis.Agentic.IncidentScope
import Aegis.Agentic.ApprovalReview
import Aegis.Agentic.ArtifactResults
import Aegis.Effects.TrustedKeys
import Aegis.Effects.RejectedMutation
import Aegis.Inference.HonestScheduler
import Aegis.Inference.StreamChain
import Aegis.Platform.FencedCredentials
import Aegis.Platform.KeyVersions
import Aegis.Memory.Undisturbed
import Aegis.Training.HoldoutChain
import Aegis.Effects.Bootstrap
import Aegis.Effects.ReviewSafety
import Aegis.Approvals.Binding
import Aegis.Approvals.Expiry
import Aegis.Agentic.WorkspaceContents
import Aegis.Detection.ReplaySuppression
import Aegis.Inference.EffectiveCancellation
import Aegis.Architecture.HoldsMeansSafe
import Aegis.Checkpoints.LaunderedWrites
import Aegis.Checkpoints.InterruptedPut
import Aegis.Checkpoints.KeyMigration
import Aegis.Checkpoints.Fingerprints
import Aegis.Agentic.SensitivePaths
import Aegis.Agentic.TrustLaundering
import Aegis.Agentic.ApprovalReuse
import Aegis.Agentic.DelegatedCharges
import Aegis.Registry.KeyLifecycle
import Aegis.Registry.PackageClosure
import Aegis.Incidents.IntakeRoot
import Aegis.Agentic.PinnedDigests
import Aegis.Agentic.FaithfulObservations
import Aegis.Agentic.PlanMutations
import Aegis.Agentic.ObservationUpstreams
import Aegis.Agentic.TerminationBoundary
import Aegis.Training.DatasetBinding
import Aegis.Training.Quarantine
import Aegis.Memory.NewestNotes
import Aegis.Checkpoints.Listing
import Aegis.Assurance.ToleratedRegressions
import Aegis.Assurance.MaskedExceptions
import Aegis.Platform.EvidenceLeaks
import Aegis.Checkpoints.Envelope
import Aegis.Agent.BoundedLoop

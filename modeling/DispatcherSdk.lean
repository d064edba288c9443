import DispatcherSdk.ExecutionKernel.ManagedRuns
import DispatcherSdk.Orchestrator.ControlAuthorization
import DispatcherSdk.Orchestrator.HandOff
import DispatcherSdk.Orchestrator.NotificationRuns
import DispatcherSdk.Orchestrator.CrossStoreFence
import DispatcherSdk.Orchestrator.ReopenRuns
import DispatcherSdk.ExecutionKernel.LifecycleReceiptRuns
import DispatcherSdk.Orchestrator.RevisionContentRuns
import DispatcherSdk.Observability.StallDispositions
import DispatcherSdk.Orchestrator.LeaseTakeoverRuns
import DispatcherSdk.Application.BudgetHistory
import DispatcherSdk.Orchestrator.ProjectionConsumerRuns
import DispatcherSdk.ExecutionKernel.SandboxRuns
import DispatcherSdk.ExecutionKernel.ChildOrphans
import DispatcherSdk.Provenance.DisposalRuns
import DispatcherSdk.Snapshots.Authenticity
import DispatcherSdk.Orchestrator.AcceptancePerAttempt
import DispatcherSdk.Orchestrator.PausePreparation
import DispatcherSdk.Content.Soundness
import DispatcherSdk.ExecutionKernel.PauseRounds
import DispatcherSdk.Orchestrator.RevisionPreview
import DispatcherSdk.ExecutionKernel.ClockFloors
import DispatcherSdk.Orchestrator.TaskGraph

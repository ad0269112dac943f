import AiOffice.AgentClientIntegrations.ClaudeBridge.RoundTrip
import AiOffice.AgentClientIntegrations.ProjectSkill
import AiOffice.Application.AgentKnowledge.ManageKnowledgeAdmission.Interleaving
import AiOffice.Application.Capability.EvaluateActionPolicy
import AiOffice.Application.Capability.Truthfulness
import AiOffice.Application.Coordination.PlanningSnapshot.Readiness
import AiOffice.Application.DomainPack.ManageProjectDefinitions.Runs
import AiOffice.Application.DomainPack.ReconcileProjectPackUpgrade.Applied
import AiOffice.Application.DomainPack.ResolveProjectConfiguration.Capabilities
import AiOffice.Application.DomainPack.VerifiedPackClosure
import AiOffice.Application.ExecuteAgentRun.Survival
import AiOffice.Application.ManageGlobalMemory
import AiOffice.Application.Pipeline.Cancellation
import AiOffice.Application.Pipeline.CompletedWork
import AiOffice.Application.Pipeline.Isolation
import AiOffice.Application.Pipeline.OrchestratePipelineStage.Redelivery
import AiOffice.Application.Pipeline.StartInterleaving
import AiOffice.Application.ProjectLifecycle.InstallReport
import AiOffice.Application.ProjectPortability.FormatVersion
import AiOffice.Application.ProjectPortability.PortableTasks.Acceptance
import AiOffice.Application.Queries.ActivityPaging
import AiOffice.Application.Queries.OperationalQueryService
import AiOffice.Application.Queue.DispatchJobOutbox.Delivery
import AiOffice.Application.ReadModels.TaskGraphProjection.DependencyChain
import AiOffice.Application.ReconcileTasks.MissingPrerequisites
import AiOffice.Application.ReconcileTasks.Suggestions
import AiOffice.Application.RunContextAssembler
import AiOffice.Application.WorkerAgentExecutor.Stores
import AiOffice.Connector.FilesystemConstraints.Meet
import AiOffice.Connector.FilesystemReads.Listing
import AiOffice.Connector.FilesystemReads.Search
import AiOffice.Dashboard.TaskGraph
import AiOffice.Dashboard.TaskRelationships
import AiOffice.Domain.ProjectHandover
import AiOffice.LlmGateway.Envelope
import AiOffice.LlmGateway.ModelRoutingConfiguration.Closure
import AiOffice.Skills.CheckpointStore.DirectoryName
import AiOffice.Skills.CheckpointStore.Pruning
import AiOffice.Skills.CheckpointStore.Runs
import AiOffice.Storage.AgentRuntime.Linearizability
import AiOffice.Storage.Cost.Charging
import AiOffice.Storage.Cost.Pricing
import AiOffice.Storage.ExecutionHistory
import AiOffice.Storage.OperationalRead.LeaseAnomalies
import AiOffice.Storage.PipelineTables.Saving
import AiOffice.Storage.ProjectState.Lineage

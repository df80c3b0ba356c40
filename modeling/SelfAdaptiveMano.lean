import SelfAdaptiveMano.Library.Dict
import SelfAdaptiveMano.Library.Hoare
import SelfAdaptiveMano.Library.Intervals
import SelfAdaptiveMano.Library.Machine
import SelfAdaptiveMano.Library.Python
import SelfAdaptiveMano.Library.Log
import SelfAdaptiveMano.Base.Command
import SelfAdaptiveMano.Base.Request
import SelfAdaptiveMano.Mediator.Promises
import SelfAdaptiveMano.Mediator.Store
import SelfAdaptiveMano.Mediator.Delivery
import SelfAdaptiveMano.Orchestration.Rejection
import SelfAdaptiveMano.Orchestration.Deletion
import SelfAdaptiveMano.Orchestration.SfciList
import SelfAdaptiveMano.Orchestration.Batch
import SelfAdaptiveMano.VnfController.LastUser
import SelfAdaptiveMano.VnfController.Retry
import SelfAdaptiveMano.Sff.ServicePath
import SelfAdaptiveMano.Ufrr.WildcardCompression
import SelfAdaptiveMano.P4.Installed
import SelfAdaptiveMano.Simulator.SfcDeletion
import SelfAdaptiveMano.Sff.Deletion
import SelfAdaptiveMano.Sff.StageAddress
import SelfAdaptiveMano.Regulator.DetectionNotices
import SelfAdaptiveMano.Regulator.RetryCount
import SelfAdaptiveMano.Regulator.ScalingTasks
import SelfAdaptiveMano.Regulator.RequestPlaces
import SelfAdaptiveMano.Regulator.WaitingTasks
import SelfAdaptiveMano.Regulator.LastTask
import SelfAdaptiveMano.Regulator.RecoveryCounts
import SelfAdaptiveMano.Classifier.InstalledSfcis
import SelfAdaptiveMano.Classifier.MatchGates
import SelfAdaptiveMano.Dispatcher.SubZones
import SelfAdaptiveMano.Dispatcher.AssignmentRuns
import SelfAdaptiveMano.Mapping.PathIDs
import SelfAdaptiveMano.Mapping.FilledPaths
import SelfAdaptiveMano.Mapping.CapacityRows
import SelfAdaptiveMano.Mapping.RepairedPaths
import SelfAdaptiveMano.Mapping.Capacities
import SelfAdaptiveMano.Mapping.AllocateResource
import SelfAdaptiveMano.VnfController.Deployments
import SelfAdaptiveMano.Ryu.SwitchOver
import SelfAdaptiveMano.Regulator.AffectedSFCIs
import SelfAdaptiveMano.Regulator.ScalingDecisions
import SelfAdaptiveMano.Orchestration.PruneDib
import SelfAdaptiveMano.Sff.Initialisation
import SelfAdaptiveMano.Sff.Installed
import SelfAdaptiveMano.VnfController.Coalescing
import SelfAdaptiveMano.Sff.IdentifierRoundTrip
import SelfAdaptiveMano.Sff.Runs
import SelfAdaptiveMano.Mapping.PartialLP
import SelfAdaptiveMano.Mapping.DeLoop
import SelfAdaptiveMano.Mapping.LinkPaths
import SelfAdaptiveMano.Mapping.LinkFailures
import SelfAdaptiveMano.Mapping.RestartedStages
import SelfAdaptiveMano.Mapping.ByPasses
import SelfAdaptiveMano.Mapping.RandomizedRounding
import SelfAdaptiveMano.Ryu.UfrrPaths
import SelfAdaptiveMano.VnfController.SpecificBlocks
import SelfAdaptiveMano.Classifier.GateNumbers
import SelfAdaptiveMano.Sff.NextHops
import SelfAdaptiveMano.Regulator.TargetNumber
import SelfAdaptiveMano.Measurement.SfciReports
import SelfAdaptiveMano.Mapping.P4Usage
import SelfAdaptiveMano.Mapping.ServerChoices
import SelfAdaptiveMano.Simulator.ServerReports
import SelfAdaptiveMano.Base.Acl
import SelfAdaptiveMano.P4.MonitorStatus
import SelfAdaptiveMano.Dispatcher.RoundRobin
import SelfAdaptiveMano.Mapping.ReversedPaths
import SelfAdaptiveMano.Sff.StageServers
import SelfAdaptiveMano.Ryu.ShortestPathTree
import SelfAdaptiveMano.Orchestration.Management
import SelfAdaptiveMano.Mapping.ILPModel
import SelfAdaptiveMano.Base.MessageAgent

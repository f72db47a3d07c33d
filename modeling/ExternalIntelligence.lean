import ExternalIntelligence.LockExclusion
import ExternalIntelligence.IncidentNotifications
import ExternalIntelligence.HostPartition
import ExternalIntelligence.EnqueueReplay
import ExternalIntelligence.ExactlyOnce
import ExternalIntelligence.LeaseFencing
import ExternalIntelligence.EmergencyRecovery
import ExternalIntelligence.AppendRead
import ExternalIntelligence.ReplayAgreement
import ExternalIntelligence.ApplicationProof
import ExternalIntelligence.ReceiptMerge
import ExternalIntelligence.BudgetConservation
import ExternalIntelligence.OrganizerHolds
import ExternalIntelligence.VersionConstraints
import ExternalIntelligence.MergedHits
import ExternalIntelligence.CloseoutFairness
import ExternalIntelligence.TeamPayloadAgreement
import ExternalIntelligence.LifecycleStorage
import ExternalIntelligence.ExposureScopes
import ExternalIntelligence.ReplayOrder
import ExternalIntelligence.InheritanceGate
import ExternalIntelligence.SetupChanges
import ExternalIntelligence.SetupSettled
import ExternalIntelligence.SetupNotices
import ExternalIntelligence.ManagedBlocks
import ExternalIntelligence.EvidenceIndependence
import ExternalIntelligence.InspectionCoverage
import ExternalIntelligence.SyncStaging
import ExternalIntelligence.RankingOrder
import ExternalIntelligence.QueueHistory
import ExternalIntelligence.GateYes
import ExternalIntelligence.UserText
import ExternalIntelligence.JournalGrowth
import ExternalIntelligence.RankedHits
import ExternalIntelligence.CatalogCharges

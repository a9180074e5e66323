import SafeAgents.Enforcement.LegacyEviction
import SafeAgents.Enforcement.Budget
import SafeAgents.Approval.Recorded
import SafeAgents.Approval.OnePermit
import SafeAgents.Grants.LedgerClock
import SafeAgents.Grants.TermDiscipline
import SafeAgents.Delegation.TreePool
import SafeAgents.Audit.FileSink
import SafeAgents.Runtime.Completeness
import SafeAgents.Enforcement.CounterKeys
import SafeAgents.Runtime.LowWaterMark
import SafeAgents.Runtime.Replay
import SafeAgents.Grants.StandingSource
import SafeAgents.Approval.StoredIntents
import SafeAgents.Grants.View
import SafeAgents.Grants.RowBinding
import SafeAgents.Enforcement.Agreement
import SafeAgents.Grants.LapseAudit
import SafeAgents.Grants.DemotionPasses
import SafeAgents.Grants.StandingAgreement
import SafeAgents.Channels.Lineage
import SafeAgents.Channels.Admission
import SafeAgents.Channels.Refusals
import SafeAgents.Channels.DedupeRace
import SafeAgents.Mcp.Discovery
import SafeAgents.Channels.SignedFields
import SafeAgents.Grants.StandingCache
import SafeAgents.Mcp.Render
import SafeAgents.Mcp.BulkReview
import SafeAgents.Mcp.AuditSoundness
import SafeAgents.Pdp.Strictness
import SafeAgents.Runtime.RefreshMinting
import SafeAgents.Grants.RecordOrder
import SafeAgents.Runtime.CallStamp
import SafeAgents.Enforcement.CounterWindow
import SafeAgents.Enforcement.Outstanding
import SafeAgents.Approval.QueueAlarm
import SafeAgents.Gateway.JsonHook
import SafeAgents.Gateway.JsonReaders
import SafeAgents.Gateway.Events
import SafeAgents.Runtime.InputAge
import SafeAgents.Watcher.Campaign
import SafeAgents.Watcher.CampaignRunner
import SafeAgents.Channels.Drain
import SafeAgents.Runtime.Warrant
import SafeAgents.Runtime.TaintCut
import SafeAgents.Gateway.Surface

import Lune.Lib.SqliteText
import Lune.Store.Models
import Lune.Store.Routability
import Lune.Store.ModelSets
import Lune.Store.Cache
import Lune.Store.PoolCounts
import Lune.Store.CacheSystem
import Lune.Store.CacheFreshness
import Lune.Store.FailedLoads
import Lune.Lib.GoJson
import Lune.Lib.Programs
import Lune.Lib.Races
import Lune.Lib.HttpHeader
import Lune.Store.Accounts
import Lune.Store.Columns
import Lune.Store.Access
import Lune.Store.SchedulerMapping
import Lune.Router.Resolve
import Lune.Health.Binding
import Lune.Health.Quota
import Lune.Health.QuotaEvidence
import Lune.Health.Refresh
import Lune.Health.ModelRequest
import Lune.Health.Resolution
import Lune.Health.OlderFile
import Lune.Health.RefreshCalls
import Lune.Health.CredentialRace
import Lune.Gateway.Body
import Lune.Gateway.Classify
import Lune.Gateway.Proxy
import Lune.Gateway.Stream
import Lune.Gateway.Actions
import Lune.Gateway.Handler
import Lune.Gateway.Run
import Lune.Gateway.Answers
import Lune.Gateway.Isolation
import Lune.Gateway.Records
import Lune.Gateway.ProbeFrame
import Lune.Gateway.StreamClass
import Lune.Gateway.Breaker
import Lune.Gateway.Truncation
import Lune.Gateway.Pinning
import Lune.Gateway.Verdicts
import Lune.Gateway.ErrorGrace
import Lune.Health.Recovery
import Lune.Health.ModelRefresh
import Lune.Admin.Import
import Lune.Admin.AccessHistory
import Lune.Admin.Relogin
import Lune.Admin.Reimport
import Lune.Store.LogFolding
import Lune.Store.UsageCounts
import Lune.Store.Attribution
import Lune.Store.TokenMigration
import Lune.Store.TokenRevocation
import Lune.Store.ConfigImport
import Lune.Store.Retention
import Lune.Store.PoolDeletion
import Lune.Lib.JsonText
import Lune.Store.FreshImport
import Lune.Admin.ConfigTransfer
import Lune.Lib.GoFloat
import Lune.Admin.SettingRanges
import Lune.Lib.ReusedKeys
import Lune.Gateway.StaleWork
import Lune.Notify.Retry
import Lune.Notify.Backoff
import Lune.Notify.Dedup
import Lune.Lib.Scripts
import Lune.Lib.LetterCase
import Lune.Lib.GoStruct
import Lune.Cpa.AuthFile
import Lune.Admin.Vault
import Lune.Admin.VaultSteps
import Lune.Admin.AccountKeys
import Lune.Admin.Rollback
import Lune.Admin.SecondSteps
import Lune.Admin.UploadFailures
import Lune.Admin.Toggling
import Lune.Lib.StagedScan
import Lune.Lib.Cascades
import Lune.Router.Selection
import Lune.Router.Trace
import Lune.Router.Refusals
import Lune.Gateway.PassThrough
import Lune.Gateway.Framing
import Lune.Gateway.Replay
import Lune.Health.AuthLookup
import Lune.Store.SubscriptionBackfill
import Lune.Store.UsageListing
import Lune.Admin.BatchPreview
import Lune.Lib.JsonEncode
import Lune.Gateway.RouteTrace
import Lune.Gateway.Envelope
import Lune.Lib.RegexEnds
import Lune.Lib.RegexSplit
import Lune.Lib.RegexSearch
import Lune.Store.Redaction
import Lune.Store.MemberOrder
import Lune.Store.Credentials
import Lune.Cpa.Sessions
import Lune.Admin.LoginRuns
import Lune.Admin.LoginOutcomes
import Lune.Lib.WorkPool
import Lune.Lib.Noninterference
import Lune.Gateway.AccountWork
import Lune.Health.CheckPass
import Lune.Admin.TokenUpdate
import Lune.Notify.Numbering
import Lune.Lib.Utf8
import Lune.Gateway.TextCuts
import Lune.Lib.Keyset
import Lune.Notify.DeliveryPages
import Lune.Store.Operations
import Lune.Lib.Throttle
import Lune.HttpServer.AccessLog
import Lune.Lib.JsonIndent
import Lune.Cpa.AuthFileText
import Lune.Admin.AuthStore
import Lune.Lib.Restarts
import Lune.Lib.SqlFile
import Lune.Store.Schema
import Lune.Store.SchemaUpgrade
import Lune.Store.UpgradeBounds
import Lune.Store.UpgradeTokens
import Lune.Store.UpgradeKept

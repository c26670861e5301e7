import ShellHub.APIKeyRanks
import ShellHub.APIKeyRevocation
import ShellHub.APIKeys
import ShellHub.AccessPolicies
import ShellHub.AccountWrites
import ShellHub.Accounts
import ShellHub.ActingIdentity
import ShellHub.AdapterStreams
import ShellHub.AddressTexts
import ShellHub.Addresses
import ShellHub.AgentLoops
import ShellHub.AgentStreams
import ShellHub.ApprovalSlots
import ShellHub.Banners
import ShellHub.CachedTokens
import ShellHub.Caches
import ShellHub.CallbackTokens
import ShellHub.ClosedSessions
import ShellHub.ConnectionTable
import ShellHub.Connections
import ShellHub.DeviceCleanup
import ShellHub.DeviceCounters
import ShellHub.DeviceDebts
import ShellHub.DeviceLedger
import ShellHub.DeviceStatuses
import ShellHub.Devices
import ShellHub.EndpointHosts
import ShellHub.Enrollment
import ShellHub.EnrollmentRules
import ShellHub.Envelopes
import ShellHub.EventQueues
import ShellHub.FilteredRows
import ShellHub.Filters
import ShellHub.Fleet
import ShellHub.ForgedHeaders
import ShellHub.Handshakes
import ShellHub.Heartbeats
import ShellHub.Identities
import ShellHub.Interleavings
import ShellHub.JsonDecoding
import ShellHub.JsonTexts
import ShellHub.JsonValues
import ShellHub.KeyUsage
import ShellHub.LetterCase
import ShellHub.ListedFilters
import ShellHub.Listeners
import ShellHub.LoginAttempts
import ShellHub.LoginLockout
import ShellHub.LoginRecords
import ShellHub.Logins
import ShellHub.MemberRoutes
import ShellHub.NamespaceEdits
import ShellHub.NamespaceRoutes
import ShellHub.Namespaces
import ShellHub.Negotiations
import ShellHub.OfferedKeys
import ShellHub.PickedUpConnections
import ShellHub.PortForwarding
import ShellHub.Presence
import ShellHub.Programs
import ShellHub.RecoveryEmails
import ShellHub.RemovalMarks
import ShellHub.RequestBinding
import ShellHub.RequestTypes
import ShellHub.Retention
import ShellHub.ReverseDials
import ShellHub.Roles
import ShellHub.Runes
import ShellHub.Scanners
import ShellHub.Sequences
import ShellHub.SessionChannels
import ShellHub.Sessions
import ShellHub.Setups
import ShellHub.SourceAddresses
import ShellHub.StuckRecordings
import ShellHub.Tables
import ShellHub.TagDeletion
import ShellHub.TagIsolation
import ShellHub.TagServices
import ShellHub.TagStore
import ShellHub.Tags
import ShellHub.TerminalInput
import ShellHub.TerminalOutput
import ShellHub.TextCuts
import ShellHub.TunnelClosing
import ShellHub.UtmpFiles
import ShellHub.VaultSessions
import ShellHub.Vaults
import ShellHub.WebHandoffs
import ShellHub.WebTerminals

import Lehen.Program
import Lehen.Ascending
import Lehen.JsonText
import Lehen.Storage
import Lehen.Registry
import Lehen.Secrets
import Lehen.OAuth
import Lehen.AuditService
import Lehen.SiamService
import Lehen.SourceAdapter
import Lehen.ConnectionsService
import Lehen.IntegrationsService
import Lehen.Requests
import Lehen.Schedule
import Lehen.Footprint
import Lehen.Granting
import Lehen.Uniqueness
import Lehen.ConnectionIds
import Lehen.Administration
import Lehen.Consistency
import Lehen.Refreshing
import Lehen.Wiping
import Lehen.Rotation
import Lehen.Renewal
import Lehen.Withdrawal
import Lehen.Balance
import Lehen.Keeping
import Lehen.Mirroring
import Lehen.Clearing
import Lehen.Cardinality
import Lehen.Disabling
import Lehen.Remapping
import Lehen.LlmService
import Lehen.Overwriting
import Lehen.Editing
import Lehen.Configuring
import Lehen.Blindness
import Lehen.MeService
import Lehen.Responding
import Lehen.Disclosing
import Lehen.Offering
import Lehen.Numbering
import Lehen.Replying
import Lehen.Ending
import Lehen.Visibility
import Lehen.Shuffling
import Lehen.Retrieval
import Lehen.Query
import Lehen.Binding
import Lehen.Replaying
import Lehen.Conforming
import Lehen.Twinning
import Lehen.Entries
import Lehen.AdminCalls
import Lehen.Masking
import Lehen.Concealing
import Lehen.InstanceSecrets
import Lehen.LlmSecrets
import Lehen.Secrecy
import Lehen.Trail
import Lehen.History
import Lehen.Drafting
import Lehen.Chronicle
import Lehen.IdentityProvider
import Lehen.Jose
import Lehen.AuthState
import Lehen.Jwks
import Lehen.Jwt
import Lehen.LocalAdminService
import Lehen.Dependencies
import Lehen.Verification
import Lehen.Admission
import Lehen.Laying
import Lehen.Requiring
import Lehen.Composing
import Lehen.EdgeState
import Lehen.EdgeHub
import Lehen.Pkce
import Lehen.EdgeApp
import Lehen.Routing
import Lehen.Flows
import Lehen.Redeeming
import Lehen.LocalCalls
import Lehen.Throttling
import Lehen.LocalLogins
import Lehen.Guessing
import Lehen.CacheTurns
import Lehen.CacheCalls
import Lehen.Windows
import Lehen.Freshness
import Lehen.TokenCalls
import Lehen.Inserting
import Lehen.SingleAdmin
import Lehen.AutoDisable
import Lehen.Selecting
import Lehen.Contents
import Lehen.Deleting
import Lehen.StateWindow
import Lehen.Normalizing
import Lehen.KeySets
import Lehen.Delivery
import Lehen.Splitting
import Lehen.Patching
import Lehen.Markers
import Lehen.SecretViews
import Lehen.Comparing
import Lehen.Reconnecting
import Lehen.Sliding
import Lehen.Limiting
import Lehen.Envelopes
import Lehen.Bootstrap
import Lehen.Rebooting
import Lehen.Enduring
import Lehen.Turns
import Lehen.SignIn
import Lehen.Tabs
import Lehen.Columns
import Lehen.Calendar
import Lehen.Timestamps
import Lehen.Paging
import Lehen.Listing
import Lehen.Summing
import Lehen.Routes
import Lehen.LlmPane
import Lehen.Saving
import Lehen.Acting
import Lehen.Admitting
import Lehen.Answering
import Lehen.Attribution
import Lehen.SetupRealm
import Lehen.Provisioning

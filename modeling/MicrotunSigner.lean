import MicrotunSigner.Lib.Base64
import MicrotunSigner.Lib.Clock
import MicrotunSigner.Lib.Decimal
import MicrotunSigner.Lib.Expiry
import MicrotunSigner.Lib.Fresh
import MicrotunSigner.Lib.Map
import MicrotunSigner.Lib.Permits
import MicrotunSigner.Lib.Prog
import MicrotunSigner.Lib.Rank
import MicrotunSigner.Lib.Refine
import MicrotunSigner.Lib.Result
import MicrotunSigner.Lib.SingleUse
import MicrotunSigner.Lib.Sys
import MicrotunSigner.Lib.Text
import MicrotunSigner.Lib.UrlPath
import MicrotunSigner.Lib.Window
import MicrotunSigner.Lib.World
import MicrotunSigner.Http
import MicrotunSigner.Config
import MicrotunSigner.Config.Accepted
import MicrotunSigner.Authorization
import MicrotunSigner.Auth.Identity
import MicrotunSigner.Auth.Actions
import MicrotunSigner.Auth.Resolve
import MicrotunSigner.Auth.Session
import MicrotunSigner.Auth.Replay
import MicrotunSigner.Auth.SeenJtis
import MicrotunSigner.Auth.SessionHistory
import MicrotunSigner.Auth.Device
import MicrotunSigner.Auth.DeviceTrace
import MicrotunSigner.Auth.DeviceReplay
import MicrotunSigner.Auth.DeviceGuards
import MicrotunSigner.Auth.DeviceRuns
import MicrotunSigner.Auth.DeviceErrors
import MicrotunSigner.Auth.DeviceOrigin
import MicrotunSigner.Auth.Jwks
import MicrotunSigner.Auth.JwksSteps
import MicrotunSigner.Auth.JwksRuns
import MicrotunSigner.Auth.JwksOrigin
import MicrotunSigner.Key.Store
import MicrotunSigner.Key.Keyrings
import MicrotunSigner.Key.Unlock
import MicrotunSigner.Key.UnlockInv
import MicrotunSigner.Key.UnlockCalls
import MicrotunSigner.Key.UnlockRuns
import MicrotunSigner.Key.UnlockFailures
import MicrotunSigner.Key.Origin
import MicrotunSigner.Key.Atomic
import MicrotunSigner.Key.AtomicSteps
import MicrotunSigner.Key.ProtectedFile
import MicrotunSigner.Key.ProtectedReads
import MicrotunSigner.Key.Protection
import MicrotunSigner.Api.Audit
import MicrotunSigner.Api.Limiter
import MicrotunSigner.Api.LimiterRuns
import MicrotunSigner.Api.Sign
import MicrotunSigner.Api.UnlockKeyring
import MicrotunSigner.Api.Admin
import MicrotunSigner.Api.AdminRuns
import MicrotunSigner.Api.AdminAtomic
import MicrotunSigner.Api.AdminProgress
import MicrotunSigner.Api.AdminAudit
import MicrotunSigner.Api.AdminOrigin
import MicrotunSigner.Api.AdminAnswers
import MicrotunSigner.Api.AdminSocket
import MicrotunSigner.Api.AdminSocketRuns
import MicrotunSigner.Api.Server
import MicrotunSigner.Api.ServerSteps
import MicrotunSigner.Api.ServerBounds
import MicrotunSigner.Api.ServerSafety
import MicrotunSigner.Client.Endpoint
import MicrotunSigner.Client.SessionCache
import MicrotunSigner.Client.Sign
import MicrotunSigner.Client.SignRuns
import MicrotunSigner.Client.Unlock
import MicrotunSigner.Client.UnlockRuns

import Gatehouse.Api.Router
import Gatehouse.Proofs.Base64
import Gatehouse.Proofs.Identifier
import Gatehouse.Service.Sweep
import Gatehouse.Settings.Application
import Gatehouse.SortedSet.Client
import Gatehouse.SortedSet.Location
import Gatehouse.Sql.Engine
import Gatehouse.Sql.Location
import Gatehouse.Sql.Store
import Gatehouse.Store.Tables
import Gatehouse.Proofs.Signing
import Gatehouse.Proofs.SlidingWindow
import Gatehouse.Proofs.Validation
import Gatehouse.Proofs.Run
import Gatehouse.Proofs.Rotation
import Gatehouse.Proofs.SingleUse
import Gatehouse.Proofs.Issuing
import Gatehouse.Proofs.Ownership
import Gatehouse.Proofs.Atomicity
import Gatehouse.Proofs.Agreement
import Gatehouse.Proofs.UserAgreement
import Gatehouse.Proofs.Contention
import Gatehouse.Proofs.Sweeping
import Gatehouse.Proofs.CurrentPassword
import Gatehouse.Proofs.Integrity
import Gatehouse.Proofs.Isolation
import Gatehouse.Proofs.Enumeration
import Gatehouse.Proofs.Authorization
import Gatehouse.Proofs.Keyspace
import Gatehouse.Proofs.LiveWindows
import Gatehouse.Proofs.FailOpen
import Gatehouse.Proofs.LimiterBounds
import Gatehouse.Proofs.BehindLimiter
import Gatehouse.Proofs.ClientAddress
import Gatehouse.Proofs.PublicRoutes
import Gatehouse.Proofs.RetryAfter
import Gatehouse.Proofs.HashingSettings
import Gatehouse.Proofs.PasswordVerifying
import Gatehouse.Proofs.Lifetimes
import Gatehouse.Proofs.EmailGrammar
import Gatehouse.Proofs.Pairs
import Gatehouse.Proofs.PasswordChange
import Gatehouse.Proofs.Registering

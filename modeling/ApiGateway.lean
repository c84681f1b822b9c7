import ApiGateway.Command.Run
import ApiGateway.Discovery.Fixed
import ApiGateway.Discovery.Schedule
import ApiGateway.Gateway.Pipeline
import ApiGateway.Log.Setup
import ApiGateway.Main
import ApiGateway.Proxy.Transport
import ApiGateway.Registry.Resolver
import ApiGateway.Settings.Load
import ApiGateway.Settings.Validation
import ApiGateway.Shutdown
import ApiGateway.Proofs.Limiter.Bounds
import ApiGateway.Proofs.Limiter.Conforming
import ApiGateway.Proofs.Limiter.Eviction
import ApiGateway.Proofs.Limiter.Identity
import ApiGateway.Proofs.Limiter.Rate
import ApiGateway.Proofs.Limiter.Refusal
import ApiGateway.Proofs.Limiter.Retention
import ApiGateway.Proofs.Limiter.Waiting
import ApiGateway.Proofs.Gateway.Accounting
import ApiGateway.Proofs.Gateway.Admission
import ApiGateway.Proofs.Gateway.Answers
import ApiGateway.Proofs.Gateway.Bearer
import ApiGateway.Proofs.Gateway.Cardinality
import ApiGateway.Proofs.Gateway.Chain
import ApiGateway.Proofs.Gateway.Correlation
import ApiGateway.Proofs.Gateway.Credential
import ApiGateway.Proofs.Gateway.Isolation
import ApiGateway.Proofs.Gateway.Setup
import ApiGateway.Proofs.Gateway.Transparency
import ApiGateway.Proofs.Discovery.Timetable
import ApiGateway.Proofs.Registry.Address
import ApiGateway.Proofs.Registry.Optional
import ApiGateway.Proofs.Registry.Selection
import ApiGateway.Proofs.Proxy.Seams
import ApiGateway.Proofs.Settings.Layering
import ApiGateway.Proofs.Settings.Problems
import ApiGateway.Proofs.Shutdown.Settling
import ApiGateway.Proofs.Settings.Listener

import KubeShard.Aggregation.Specification
import KubeShard.Apishard.Finalizers
import KubeShard.Apishard.Footprint
import KubeShard.Apishard.Injection
import KubeShard.Apishard.Leftovers
import KubeShard.Apishard.Order
import KubeShard.Apishard.Orphans
import KubeShard.Apishard.Ownership
import KubeShard.Apishard.Password
import KubeShard.Apishard.Ready
import KubeShard.Apishard.Received
import KubeShard.Apishard.Simulation
import KubeShard.Apishard.Succeeded
import KubeShard.Apishard.Backend
import KubeShard.Apishard.Connection
import KubeShard.Apishard.Fresh
import KubeShard.Apishard.Dials
import KubeShard.Apishard.Triggers
import KubeShard.Apishard.Truthful
import KubeShard.Apishard.Volumes
import KubeShard.Generate.Matrix
import KubeShard.Generate.Overrides
import KubeShard.Generate.Report
import KubeShard.Generate.Script
import KubeShard.Namespacesync.Converge
import KubeShard.Rewriting
import KubeShard.Secondary.Fingerprint
import KubeShard.Webhooksync.Mirror
import KubeShard.Webhooksync.Stale
import KubeShard.Webhooksync.Sync
import KubeShard.Namespacesync.Labels
import KubeShard.Predicate.Readiness
import KubeShard.Quiescence
import KubeShard.Namespacesync.Loop
import KubeShard.Webhooksync.Loop
import KubeShard.Apishard.Fleet
import KubeShard.Apishard.Loop

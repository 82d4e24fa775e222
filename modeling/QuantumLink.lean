import QuantumLink.RegistryV2.Replay
import QuantumLink.RegistryV2.Limits
import QuantumLink.RegistryV2.Failures
import QuantumLink.Session.Agreement
import QuantumLink.Frame.Channel
import QuantumLink.Packet.Delivery
import QuantumLink.Packet.Metrics
import QuantumLink.Carrier.Bounded
import QuantumLink.Carrier.Delivery
import QuantumLink.Carrier.Listener
import QuantumLink.Relay.Payload
import QuantumLink.Relay.Cleanup
import QuantumLink.Relay.Revocation
import QuantumLink.Relay.Quota
import QuantumLink.Relay.RateLimit
import QuantumLink.Rendezvous.Store
import QuantumLink.Mesh.Statements
import QuantumLink.Mesh.Rollback
import QuantumLink.Mesh.Candidates
import QuantumLink.PeerStore.Rotation
import QuantumLink.Ice.Integrity
import QuantumLink.Planes.Selection
import QuantumLink.Planes.Conservation
import QuantumLink.Transport.Disorder
import QuantumLink.Transport.Backoff
import QuantumLink.Transport.Counters
import QuantumLink.Publication.Sequence
import QuantumLink.Publication.Access
import QuantumLink.Network.Filter
import QuantumLink.Network.Ownership
import QuantumLink.Invites.Revocation
import QuantumLink.Network.GameProcess
import QuantumLink.Windows.FilterPlan
import QuantumLink.Windows.Lifecycle
import QuantumLink.Windows.StrictStart
import QuantumLink.Windows.Lines
import QuantumLink.Agent.Actions
import QuantumLink.MacOs.Readiness

import Multipath.Candidates
import Multipath.Flow
import Multipath.Topology.Build
import Multipath.Addressing.Plan
import Multipath.Arbiter.Install
import Multipath.Arbiter.Static
import Multipath.Network
import Multipath.Json.Forms
import Multipath.Proofs.Folds
import Multipath.Proofs.Topology.Graph
import Multipath.Proofs.Topology.Faults
import Multipath.Proofs.Topology.OnePass
import Multipath.Proofs.Topology.Views
import Multipath.Proofs.Distance.Stopover
import Multipath.Proofs.Distance.Hops
import Multipath.Proofs.Distance.Rounds
import Multipath.Proofs.Distance.Shortest
import Multipath.Proofs.Candidates.Descent
import Multipath.Proofs.Candidates.ShortestPaths
import Multipath.Proofs.Candidates.Disconnected
import Multipath.Proofs.Addressing.LinkAddress
import Multipath.Proofs.Addressing.Numbering
import Multipath.Proofs.Addressing.Ownership
import Multipath.Proofs.Addressing.Slots
import Multipath.Proofs.Addressing.Ranks
import Multipath.Proofs.Addressing.Capacity
import Multipath.Proofs.Addressing.AnyPlan
import Multipath.Proofs.Candidates.EdgeByEdge
import Multipath.Proofs.Candidates.ExactLists
import Multipath.Proofs.Arbiter.Links
import Multipath.Proofs.Arbiter.NeighborRanks
import Multipath.Proofs.Arbiter.Decide
import Multipath.Proofs.Arbiter.Installed
import Multipath.Proofs.Arbiter.Installation
import Multipath.Proofs.Router.Operations
import Multipath.Proofs.Router.Setup
import Multipath.Proofs.Network.Hop
import Multipath.Proofs.Network.Delivery
import Multipath.Proofs.Network.Walk
import Multipath.Proofs.Network.Send
import Multipath.Proofs.Network.Pairing
import Multipath.Proofs.Flow.Mixing
import Multipath.Proofs.Flow.OneToOne
import Multipath.Proofs.Flow.Layout
import Multipath.Proofs.Flow.Spread
import Multipath.Proofs.Flow.Sensitivity
import Multipath.Proofs.Arbiter.FlowOnly
import Multipath.Proofs.Arbiter.Verdict
import Multipath.Proofs.Network.Sticky
import Multipath.Proofs.Arbiter.AnyPolicy
import Multipath.Proofs.Arbiter.TableText
import Multipath.Proofs.Network.LocalDelivery
import Multipath.Proofs.Router.History
import Multipath.Proofs.Router.InputOutput
import Multipath.Proofs.Router.LocalAddresses
import Multipath.Proofs.Router.OneByOne
import Multipath.Proofs.Json.DottedText
import Multipath.Proofs.Json.Forms

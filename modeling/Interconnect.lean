import Interconnect.Main
import Interconnect.Files
import Interconnect.Proofs.Levels
import Interconnect.Proofs.Places
import Interconnect.Proofs.LinkTables
import Interconnect.Proofs.Wiring
import Interconnect.Proofs.Calls
import Interconnect.Proofs.BuiltTrees
import Interconnect.Proofs.PerfectTree
import Interconnect.Proofs.Connections
import Interconnect.Proofs.RoutingTables
import Interconnect.Proofs.Delivery
import Interconnect.Proofs.Validation
import Interconnect.Proofs.Assembly
import Interconnect.Proofs.Generation
import Interconnect.Proofs.ByteOrder
import Interconnect.Proofs.PortTables
import Interconnect.Proofs.BuilderLinks
import Interconnect.Proofs.Handles
import Interconnect.Proofs.Histories
import Interconnect.Proofs.Acceptance
import Interconnect.Proofs.InPlace
import Interconnect.Proofs.Lifecycle
import Interconnect.Proofs.Netlists
import Interconnect.Proofs.Subtrees
import Interconnect.Proofs.Flooding
import Interconnect.Proofs.Digits
import Interconnect.Proofs.LatencyTexts
import Interconnect.Proofs.LatencyDisplay
import Interconnect.Proofs.ShapeTexts
import Interconnect.Proofs.Numbering
import Interconnect.Proofs.Balance
import Interconnect.Proofs.Clashes
import Interconnect.Proofs.LinkNames
import Interconnect.Proofs.Paths
import Interconnect.Proofs.Overrides
import Interconnect.Proofs.NextPorts
import Interconnect.Proofs.Queries
import Interconnect.Proofs.RouterNames
import Interconnect.Proofs.Serialization

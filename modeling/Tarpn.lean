import Tarpn.Dict
import Tarpn.Bytes
import Tarpn.Ax25
import Tarpn.Netrom.Packet
import Tarpn.Netrom.Nodes
import Tarpn.Netrom.Routing
import Tarpn.Netrom.Network
import Tarpn.Ax25.Datalink
import Tarpn.Datalink.Protocol
import Tarpn.Netrom.RoutingRuns
import Tarpn.Network.Heapq
import Tarpn.Network.PriorityQueue
import Tarpn.Netrom.NodeRuns
import Tarpn.Netrom.Mesh
import Tarpn.Datalink.Driver
import Tarpn.Netrom.DirectRoutes
import Tarpn.Datalink.Pipeline
import Tarpn.Netrom.NodesLayout

import RosbridgeFleet.GoBasics
import RosbridgeFleet.RegistryModel
import RosbridgeFleet.RegistryInvariants
import RosbridgeFleet.BridgeModel
import RosbridgeFleet.HubModel
import RosbridgeFleet.HubInvariants
import RosbridgeFleet.LinkCmdVel
import RosbridgeFleet.LinkLifecycle
import RosbridgeFleet.LinkService
import RosbridgeFleet.ServiceWrappers
import RosbridgeFleet.LinkTopics
import RosbridgeFleet.LinkTF
import RosbridgeFleet.LockDiscipline
import RosbridgeFleet.RobotCallbacks
import RosbridgeFleet.NavPoints
import RosbridgeFleet.MapCanvas
import RosbridgeFleet.Graphs
import RosbridgeFleet.Teleop
import RosbridgeFleet.DrivePath
import RosbridgeFleet.BrowserSocket
import RosbridgeFleet.NavApi
import RosbridgeFleet.RobotApi
import RosbridgeFleet.MapList

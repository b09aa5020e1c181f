import BxpCore.LittleEndian
import BxpCore.LengthPrefix
import BxpCore.Machine
import BxpCore.CapnpStruct
import BxpCore.CapnpWire
import BxpCore.Protocol
import BxpCore.Connection
import BxpCore.Server
import BxpCore.Client
import BxpCore.Framing
import BxpCore.Oversized
import BxpCore.Limits
import BxpCore.Router
import BxpCore.ServeLoop
import BxpCore.Session
import BxpCore.Accept
import BxpCore.DataStream
import BxpCore.Dispatch
import BxpCore.HandlerRun
import BxpCore.Answers
import BxpCore.ControlStream
import BxpCore.Allocation
import BxpCore.Link
import BxpCore.Disconnect
import BxpCore.Service
import BxpCore.Listener
import BxpCore.Tasks
import BxpCore.Transfer
import BxpCore.PlaneOrder
import BxpCore.Uploads

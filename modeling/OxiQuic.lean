import OxiQuic.Connection.Nonces
import OxiQuic.Connection.ControlLoss
import OxiQuic.Connection.Datagrams
import OxiQuic.Connection.Signals
import OxiQuic.Connection.HandshakeStream
import OxiQuic.Connection.ReceiveCredit
import OxiQuic.Connection.ReceiveLoop
import OxiQuic.Connection.Replay
import OxiQuic.Recovery.AckRanges
import OxiQuic.Connection.Gating
import OxiQuic.Connection.CidUse
import OxiQuic.Connection.CidPeers
import OxiQuic.Connection.Parameters
import OxiQuic.Connection.Announcements
import OxiQuic.Connection.StreamGrants
import OxiQuic.Connection.Alarms
import OxiQuic.Connection.Inlets
import OxiQuic.Endpoint.Accept
import OxiQuic.Endpoint.Resets
import OxiQuic.Endpoint.Server
import OxiQuic.Endpoint.Paths
import OxiQuic.Stream.FinalSize
import OxiQuic.Wire.PacketNumber
import OxiQuic.Connection.KeyRequests
import OxiQuic.Congestion.Growth
import OxiQuic.Connection.LossBound
import OxiQuic.Recovery.RttBounds
import OxiQuic.Congestion.Rounds
import OxiQuic.H3.Pool
import OxiQuic.Wire.Unprotected

import RsNetty.Verify.DecodeErrors
import RsNetty.Verify.DelimiterBasedFrame
import RsNetty.Verify.Http.Framing
import RsNetty.Verify.Http.Numerals
import RsNetty.Verify.Http.Pending
import RsNetty.Verify.Http.Response
import RsNetty.Verify.Http.RoundTrip
import RsNetty.Verify.LengthFieldPrepender
import RsNetty.Verify.Line
import RsNetty.Verify.Mqtt.Encode
import RsNetty.Verify.Mqtt.Framing
import RsNetty.Verify.Mqtt.Reader
import RsNetty.Verify.Tcp.Acks
import RsNetty.Verify.Tcp.FailedWrite
import RsNetty.Verify.Tcp.Lifecycle
import RsNetty.Verify.Tcp.Outbound
import RsNetty.Verify.Tcp.Segmentation
import RsNetty.Verify.Tcp.Stats
import RsNetty.Verify.Udp.Peers
import RsNetty.Verify.Udp.Truncation
import RsNetty.Verify.WebSocket.Canonical
import RsNetty.Verify.WebSocket.Discipline
import RsNetty.Verify.WebSocket.Handshake
import RsNetty.Verify.WebSocket.Upgrade
import RsNetty.Verify.Shutdown
import RsNetty.Verify.Client
import RsNetty.Verify.Tcp.Deadlock
import RsNetty.Verify.Tcp.Progress
import RsNetty.Verify.DelimiterSplitting
import RsNetty.Verify.Mqtt.VariableInteger
import RsNetty.Verify.Pipeline
import RsNetty.Verify.Udp.Exchange
import RsNetty.Verify.Udp.Acks
import RsNetty.Verify.Udp.Lifecycle
import RsNetty.Verify.Tcp.Exchange
import RsNetty.Verify.Json
import RsNetty.Verify.Http.Clients

import WsGateway.Foundation.Outcome
import WsGateway.Foundation.Bytes
import WsGateway.Foundation.Padding
import WsGateway.Foundation.Text
import WsGateway.Foundation.Indexed
import WsGateway.Foundation.Transition
import WsGateway.Foundation.Records
import WsGateway.Foundation.NestedMap
import WsGateway.Protocol.Header
import WsGateway.Protocol.Identifier
import WsGateway.Protocol.WireFormat
import WsGateway.Protocol.RoundTrip
import WsGateway.Protocol.Refusal
import WsGateway.Sdk.Python
import WsGateway.Sdk.JavaScript
import WsGateway.Sdk.Agreement
import WsGateway.Sdk.Refusals
import WsGateway.Sdk.EncodeRefusals
import WsGateway.Routing.Channel
import WsGateway.Routing.Receiver
import WsGateway.Routing.Histories
import WsGateway.Routing.Registry
import WsGateway.Routing.Router
import WsGateway.Routing.Isolation
import WsGateway.Gateway.State
import WsGateway.Gateway.Steps
import WsGateway.Gateway.Lifecycle
import WsGateway.Gateway.Delivery
import WsGateway.Gateway.Once
import WsGateway.Gateway.Commands
import WsGateway.Gateway.Disconnect
import WsGateway.Gateway.Priority
import WsGateway.Gateway.Admission
import WsGateway.Gateway.Leaks
import WsGateway.Gateway.Atomic
import WsGateway.Gateway.Heartbeat
import WsGateway.Gateway.Pings
import WsGateway.Gateway.Effects
import WsGateway.Gateway.Coverage
import WsGateway.Gateway.Progress
import WsGateway.Gateway.Shutdown
import WsGateway.Gateway.Budget
import WsGateway.Gateway.Channels
import WsGateway.Gateway.Revocation
import WsGateway.Gateway.Rooms
import WsGateway.Gateway.Metrics
import WsGateway.Gateway.Clocked
import WsGateway.Gateway.Recovery
import WsGateway.Sdk.EndToEnd

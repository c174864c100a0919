import Roammand.Library.Run
import Roammand.Library.UInt
import Roammand.Library.Except
import Roammand.Library.Bytes
import Roammand.Library.Protobuf
import Roammand.Library.Fallible
import Roammand.Protocol.Messages
import Roammand.Protocol.Codec
import Roammand.Protocol.Transcript
import Roammand.Protocol.TranscriptPorts
import Roammand.Protocol.Signaling
import Roammand.Bridge.Lease
import Roammand.Bridge.Framing
import Roammand.Bridge.EventDelivery
import Roammand.Host.GrantStore
import Roammand.Host.Authorization
import Roammand.Host.StoreAgreement
import Roammand.Host.SessionAuth
import Roammand.Host.Sessions
import Roammand.Host.Revocation
import Roammand.Host.PeerSession
import Roammand.Host.RemoteSession
import Roammand.Host.InputGating
import Roammand.Client.SessionAuthenticator
import Roammand.Protocol.Pairing
import Roammand.Protocol.SignalingService
import Roammand.Host.PairingCrypto
import Roammand.Host.Signaling
import Roammand.Host.Pairing
import Roammand.Host.PairingEffects
import Roammand.Host.PairingDelivery
import Roammand.Host.PairingInvariant
import Roammand.Host.PairingNonces
import Roammand.Host.PairingGrants
import Roammand.Host.PairingCreates
import Roammand.Host.PairingSnapshot
import Roammand.Host.Runtime
import Roammand.Host.SignalingEffects
import Roammand.Host.RuntimeFrames
import Roammand.Host.PairingAgreement
import Roammand.Host.SessionConsistency
import Roammand.Host.PressedInput
import Roammand.Host.InputSequence
import Roammand.Host.RoutedEnvelopes
import Roammand.Host.ReconnectGenerations
import Roammand.Host.EnvelopeAtomicity
import Roammand.Client.InputSender
import Roammand.Protocol.PrivilegedBridge
import Roammand.Bridge.Broker
import Roammand.Bridge.BrokerMediation
import Roammand.Bridge.RouteAgreement
import Roammand.Bridge.PeerProxy
import Roammand.Bridge.PermissionAgreement
import Roammand.Bridge.ControllerNames
import Roammand.Client.GestureMachine
import Roammand.Client.GestureBalance
import Roammand.Client.DesktopPointer
import Roammand.Library.Heap
import Roammand.Server.RendezvousStore
import Roammand.Server.ExpiryHeap
import Roammand.Server.StoreInvariant
import Roammand.Server.StoreConservation
import Roammand.Server.ClosureNotices
import Roammand.Server.Isolation
import Roammand.Client.PairingCancellation
import Roammand.Library.Windows
import Roammand.Server.ByteAccounting
import Roammand.Server.InboundTraffic
import Roammand.Bridge.Authentication
import Roammand.Bridge.LeaseErrors
import Roammand.Bridge.RenewCadence
import Roammand.Bridge.RouteActions
import Roammand.Client.DesktopPairingCode
import Roammand.Client.InputQueue
import Roammand.Client.InputRelease
import Roammand.Client.KeyboardBalance
import Roammand.Client.QrPairingUri
import Roammand.Client.TrustedHosts
import Roammand.Host.BridgeStatus
import Roammand.Library.Incremental
import Roammand.Protocol.Framing
import Roammand.Client.SignalingLink
import Roammand.Host.LocalIpc
import Roammand.Host.LocalService
import Roammand.Client.ReconnectRuns
import Roammand.Host.GenerationRuns
import Roammand.Client.SessionHandshake

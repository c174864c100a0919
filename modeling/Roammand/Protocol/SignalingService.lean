import Roammand.Protocol.Pairing
import Roammand.Protocol.Signaling

/-!
# Frames of the signaling service

The frames between a device and the signaling service: registration, heartbeats,
session relays and the operations on a pairing rendezvous.  Enumerations are numbers
on the wire and are read on receipt.

Main results:

- Definitions `SignalingClientFrame` and `SignalingServerFrame`.
-/

namespace Roammand

namespace Protocol

open Library

/-- The longest frame of the service. -/
def maxSignalingServiceFrameBytes : Nat := 263168

/-- Length of a desktop pairing code. -/
def desktopPairingCodeBytes : Nat := 8

/-- The wire value of a rendezvous kind. -/
def PairingRendezvousKind.toInt32 : PairingRendezvousKind → Int32
  | .unspecified => 0
  | .qr => 1
  | .desktopCode => 2

variable (value : Int32)

/-- The rendezvous kind of a wire value. -/
def PairingRendezvousKind.ofInt32? : Option PairingRendezvousKind :=
  [.unspecified, .qr, .desktopCode].find? fun kind : PairingRendezvousKind =>
    kind.toInt32 = value

/-- The wire value of a completion. -/
def PairingRendezvousCompletion.toInt32 : PairingRendezvousCompletion → Int32
  | .unspecified => 0
  | .succeeded => 1
  | .rejected => 2
  | .expired => 3
  | .disconnected => 4

/-- The completion of a wire value. -/
def PairingRendezvousCompletion.ofInt32? : Option PairingRendezvousCompletion :=
  [.unspecified, .succeeded, .rejected, .expired, .disconnected].find?
    fun completion : PairingRendezvousCompletion => completion.toInt32 = value

/-! ## Frames -/

/-- What a device asks of the service. -/
inductive SignalingClientPayload where
  | register (deviceId : Bytes)
  | heartbeat
  | presenceQuery (deviceId : Bytes)
  | createRendezvous (rendezvousId : Bytes) (kind : Int32) (pairingCode : String)
  | joinRendezvousById (rendezvousId : Bytes)
  | joinRendezvousByCode (pairingCode : String)
  | relayPairing (rendezvousId opaqueEnvelope : Bytes)
  | completeRendezvous (rendezvousId : Bytes) (completion : Int32)
  | relaySession (recipientDeviceId opaqueEnvelope : Bytes)

/-- A frame of a device. -/
structure SignalingClientFrame where
  protocolVersion : Option ProtocolVersion
  requestId : String
  payload : Option SignalingClientPayload

/-- What the service sends. -/
inductive SignalingServerPayload where
  | registered (deviceId : Bytes) (presenceExpiresAtUnixMs : UInt64)
  | heartbeatAcknowledged (serverTimeUnixMs presenceExpiresAtUnixMs : UInt64)
  | presenceResult (deviceId : Bytes) (online : Bool)
  | rendezvousCreated (rendezvousId : Bytes) (kind : Int32) (expiresAtUnixMs : UInt64)
  | rendezvousJoined (rendezvousId peerDeviceId : Bytes) (expiresAtUnixMs : UInt64)
  | routedPairing (rendezvousId senderDeviceId opaqueEnvelope : Bytes)
  | rendezvousClosed (rendezvousId : Bytes) (completion : Int32)
  | routedSession (senderDeviceId opaqueEnvelope : Bytes)
  | error (code : Int32) (retryable : Bool) (requestId : String)
  deriving DecidableEq

/-- A frame of the service. -/
structure SignalingServerFrame where
  protocolVersion : Option ProtocolVersion
  requestId : String
  payload : Option SignalingServerPayload
  deriving DecidableEq

end Protocol

end Roammand

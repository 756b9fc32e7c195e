import RunenNet.Foundation.Exact
import RunenNet.Quic.Control
import RunenNet.Quic.Wire

/-!
# Settings

The limits a host configures, how they are validated, and the SETTINGS body in which a side tells
the other its role and its limits.
-/

namespace RunenNet

open Foundation

def maxSettingsBodyBytes : Nat := 1 + 4 * 8

def minNegotiationOfferBodyBytes : Nat := 1 + 32 + 1 + 1

def quicMaxStreamCount : Nat := 1 <<< 60

def quicMinUdpPayload : Nat := 1200

def quicMaxUdpPayload : Nat := 65527

/-! ### Endpoint resources -/

/-- `VarInt::from_u64` and `IdleTimeout::try_from` of the transport. An integer that is admitted
keeps its value. -/
structure TransportIntegers where
  varInt : Nat → Option Nat
  idleTimeout : Nat → Option Nat
  varInt_value : ∀ value v, varInt value = some v → v = value

/-- The idle timeout is in nanoseconds. -/
structure EndpointResourceLimits where
  maxConnections : Nat
  maxActiveIncomingFlows : Nat
  udpPayloadCeiling : Nat
  streamReceiveWindow : Nat
  connectionReceiveWindow : Nat
  sendWindow : Nat
  cryptoBufferBytes : Nat
  datagramReceiveBufferBytes : Nat
  datagramSendBufferBytes : Nat
  maxIdleTimeout : Nat
  deriving DecidableEq, Repr

inductive EndpointResourceError where
  | zeroConnections
  | zeroIncomingFlows
  | incomingFlowsExceedQuicStreamLimit
  | udpPayloadBelowMinimum
  | udpPayloadAboveMaximum
  | zeroStreamReceiveWindow
  | streamReceiveWindowOutOfRange
  | zeroConnectionReceiveWindow
  | connectionReceiveWindowOutOfRange
  | connectionReceiveWindowBelowStream
  | zeroSendWindow
  | zeroCryptoBuffer
  | zeroDatagramReceiveBuffer
  | datagramReceiveBufferBelowUdpCeiling
  | zeroDatagramSendBuffer
  | datagramSendBufferBelowUdpCeiling
  | zeroIdleTimeout
  | idleTimeoutOutOfRange
  deriving DecidableEq, Repr

/-- Resources are only built by `EndpointResourceLimits.validate`, which bounds the flows. -/
structure ValidatedEndpointResources where
  maxConnections : Nat
  maxActiveIncomingFlows : Nat
  udpPayloadCeiling : Nat
  streamReceiveWindow : Nat
  connectionReceiveWindow : Nat
  sendWindow : Nat
  cryptoBufferBytes : Nat
  datagramReceiveBufferBytes : Nat
  datagramSendBufferBytes : Nat
  maxIdleTimeout : Nat
  flows : 0 < maxActiveIncomingFlows ∧ maxActiveIncomingFlows ≤ quicMaxStreamCount

/-- The checks of `EndpointResourceLimits.validate` after the one of the flows. -/
def EndpointResourceLimits.validateBuffers (t : TransportIntegers) (l : EndpointResourceLimits) :
    Except EndpointResourceError (Nat × Nat × Nat) :=
  if l.udpPayloadCeiling < quicMinUdpPayload then .error .udpPayloadBelowMinimum
  else if l.udpPayloadCeiling > quicMaxUdpPayload then .error .udpPayloadAboveMaximum
  else if l.streamReceiveWindow = 0 then .error .zeroStreamReceiveWindow
  else match t.varInt l.streamReceiveWindow with
    | none => .error .streamReceiveWindowOutOfRange
    | some streamReceiveWindow =>
      if l.connectionReceiveWindow = 0 then .error .zeroConnectionReceiveWindow
      else if l.connectionReceiveWindow < l.streamReceiveWindow then
        .error .connectionReceiveWindowBelowStream
      else match t.varInt l.connectionReceiveWindow with
        | none => .error .connectionReceiveWindowOutOfRange
        | some connectionReceiveWindow =>
          if l.sendWindow = 0 then .error .zeroSendWindow
          else if l.cryptoBufferBytes = 0 then .error .zeroCryptoBuffer
          else if l.datagramReceiveBufferBytes = 0 then .error .zeroDatagramReceiveBuffer
          else if l.datagramReceiveBufferBytes < l.udpPayloadCeiling then
            .error .datagramReceiveBufferBelowUdpCeiling
          else if l.datagramSendBufferBytes = 0 then .error .zeroDatagramSendBuffer
          else if l.datagramSendBufferBytes < l.udpPayloadCeiling then
            .error .datagramSendBufferBelowUdpCeiling
          else if l.maxIdleTimeout = 0 then .error .zeroIdleTimeout
          else match t.idleTimeout l.maxIdleTimeout with
            | none => .error .idleTimeoutOutOfRange
            | some maxIdleTimeout =>
              .ok (streamReceiveWindow, connectionReceiveWindow, maxIdleTimeout)

def EndpointResourceLimits.validate (t : TransportIntegers) (l : EndpointResourceLimits) :
    Except EndpointResourceError ValidatedEndpointResources :=
  if l.maxConnections = 0 then .error .zeroConnections
  else if h0 : l.maxActiveIncomingFlows = 0 then .error .zeroIncomingFlows
  else if hmax : l.maxActiveIncomingFlows > quicMaxStreamCount then
    .error .incomingFlowsExceedQuicStreamLimit
  else match hflows : t.varInt l.maxActiveIncomingFlows with
    | none => .error .incomingFlowsExceedQuicStreamLimit
    | some maxActiveIncomingFlows => match l.validateBuffers t with
      | .error e => .error e
      | .ok (streamReceiveWindow, connectionReceiveWindow, maxIdleTimeout) => .ok {
          maxConnections := l.maxConnections
          maxActiveIncomingFlows := maxActiveIncomingFlows
          udpPayloadCeiling := l.udpPayloadCeiling
          streamReceiveWindow := streamReceiveWindow
          connectionReceiveWindow := connectionReceiveWindow
          sendWindow := l.sendWindow
          cryptoBufferBytes := l.cryptoBufferBytes
          datagramReceiveBufferBytes := l.datagramReceiveBufferBytes
          datagramSendBufferBytes := l.datagramSendBufferBytes
          maxIdleTimeout := maxIdleTimeout
          flows := by
            rw [t.varInt_value _ _ hflows]
            exact ⟨Nat.pos_of_ne_zero h0, not_lt.mp hmax⟩ }

/-! ### The settings body -/

def SemanticRole.wire : SemanticRole → UInt8
  | .nonAuthority => 0
  | .authority => 1

inductive SettingsError where
  | emptyBody
  | unknownSemanticRole (value : UInt8)
  | varInt (e : VarIntDecodeError)
  | zeroControlFrameBytes
  | controlFrameTooSmall
  | zeroNegotiationFrameBytes
  | negotiationFrameTooSmall
  | negotiationExceedsControl
  | zeroActiveIncomingFlows
  | activeIncomingFlowsExceedQuicStreamLimit
  | zeroIncomingMessageBytes
  | trailingBytes
  deriving DecidableEq, Repr

def SemanticRole.fromWire (value : UInt8) : Except SettingsError SemanticRole :=
  if value = 0 then .ok .nonAuthority
  else if value = 1 then .ok .authority
  else .error (.unknownSemanticRole value)

namespace Settings

def validate (s : Settings) : Except SettingsError Settings :=
  if s.maxControlFrameBytes = 0 then .error .zeroControlFrameBytes
  else if s.maxControlFrameBytes < maxSettingsBodyBytes then .error .controlFrameTooSmall
  else if s.maxNegotiationFrameBytes = 0 then .error .zeroNegotiationFrameBytes
  else if s.maxNegotiationFrameBytes < minNegotiationOfferBodyBytes then
    .error .negotiationFrameTooSmall
  else if s.maxNegotiationFrameBytes > s.maxControlFrameBytes then .error .negotiationExceedsControl
  else if s.maxActiveIncomingFlows = 0 then .error .zeroActiveIncomingFlows
  else if s.maxActiveIncomingFlows > quicMaxStreamCount then
    .error .activeIncomingFlowsExceedQuicStreamLimit
  else if s.maxIncomingMessageBytes = 0 then .error .zeroIncomingMessageBytes
  else .ok s

/-- `SettingsWriter::push_byte` into a buffer of `maxSettingsBodyBytes`. -/
def pushByte (body : List UInt8) (value : UInt8) : Checked (List UInt8) := do
  Checked.assert (body.length < maxSettingsBodyBytes)
  return body ++ [value]

/-- `SettingsWriter::push_varint`. -/
def pushVarint (body : List UInt8) (value : Nat) : Checked (List UInt8) :=
  match encodeVarint value with
  | .error _ => .error (.expect "validated settings values fit QUIC varints")
  | .ok encoded => do
    Checked.assert (body.length + encoded.length ≤ maxSettingsBodyBytes)
    return body ++ encoded

def encode (s : Settings) : Checked (List UInt8) := do
  let body ← pushByte [] s.semanticRole.wire
  let body ← pushVarint body s.maxControlFrameBytes
  let body ← pushVarint body s.maxNegotiationFrameBytes
  let body ← pushVarint body s.maxActiveIncomingFlows
  pushVarint body s.maxIncomingMessageBytes

def readRole : Reader SettingsError SemanticRole := fun input =>
  match input with
  | [] => .error .emptyBody
  | role :: rest => match SemanticRole.fromWire role with
    | .error e => .error e
    | .ok role => .ok (role, rest)

def readVarint : Reader SettingsError Nat := fun input =>
  match decodeVarint input with
  | .error e => .error (.varInt e)
  | .ok (value, consumed) => .ok (value, input.drop consumed)

def reader : Reader SettingsError Settings := do
  let semanticRole ← readRole
  let maxControlFrameBytes ← readVarint
  let maxNegotiationFrameBytes ← readVarint
  let maxActiveIncomingFlows ← readVarint
  let maxIncomingMessageBytes ← readVarint
  return ⟨semanticRole, maxControlFrameBytes, maxNegotiationFrameBytes, maxActiveIncomingFlows,
    maxIncomingMessageBytes⟩

def decode (input : List UInt8) : Except SettingsError Settings :=
  match Reader.parse (do let s ← reader; Reader.finish .trailingBytes; return s) input with
  | .error e => .error e
  | .ok s => s.validate

end Settings

/-! ### The local profile -/

structure LocalControlLimits where
  semanticRole : SemanticRole
  maxControlFrameBytes : Nat
  maxNegotiationFrameBytes : Nat
  maxIncomingMessageBytes : Nat
  deriving DecidableEq, Repr

inductive LocalControlLimitError where
  | controlFrameTooSmall
  | controlFrameOutOfRange
  | negotiationFrameTooSmall
  | negotiationFrameOutOfRange
  | negotiationExceedsControl
  | zeroIncomingMessageBytes
  | incomingMessageBytesOutOfRange
  deriving DecidableEq, Repr

structure ValidatedControlProfile where
  resources : ValidatedEndpointResources
  localSettings : Settings

def usizeToWire (value : Nat) (error : LocalControlLimitError) :
    Except LocalControlLimitError Nat :=
  if value > maxVarint then .error error else .ok value

def LocalControlLimits.validate (l : LocalControlLimits) (resources : ValidatedEndpointResources) :
    Except LocalControlLimitError ValidatedControlProfile :=
  if l.maxControlFrameBytes < maxSettingsBodyBytes then .error .controlFrameTooSmall
  else match usizeToWire l.maxControlFrameBytes .controlFrameOutOfRange with
    | .error e => .error e
    | .ok maxControlFrameBytes =>
      if l.maxNegotiationFrameBytes < minNegotiationOfferBodyBytes then
        .error .negotiationFrameTooSmall
      else if l.maxNegotiationFrameBytes > l.maxControlFrameBytes then
        .error .negotiationExceedsControl
      else match usizeToWire l.maxNegotiationFrameBytes .negotiationFrameOutOfRange with
        | .error e => .error e
        | .ok maxNegotiationFrameBytes =>
          if l.maxIncomingMessageBytes = 0 then .error .zeroIncomingMessageBytes
          else if l.maxIncomingMessageBytes > maxVarint then .error .incomingMessageBytesOutOfRange
          else .ok ⟨resources, ⟨l.semanticRole, maxControlFrameBytes, maxNegotiationFrameBytes,
            resources.maxActiveIncomingFlows, l.maxIncomingMessageBytes⟩⟩

end RunenNet

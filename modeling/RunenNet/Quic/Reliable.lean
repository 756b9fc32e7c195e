import RunenNet.Quic.Varint
import RunenNet.Foundation.Machine

/-!
# Framing of a reliable stream

Every message is its length, a varint, and its bytes. The decoder takes a stream in chunks of any
size; a call hands out at most one message.
-/

namespace RunenNet

open Foundation

inductive ReliableFrameError where
  | invalidLimit
  | lengthOutOfProfileRange
  | lengthDoesNotFitPlatform
  | messageTooLarge (claimed max : Nat)
  | stagingLimitExceeded (claimed max : Nat)
  | allocationFailed
  | varInt (e : VarIntDecodeError)
  | truncatedFrame
  deriving DecidableEq, Repr

structure FrameConsume where
  consumed : Nat
  message : Option (List UInt8)
  deriving DecidableEq, Repr

/-- The bytes of the length, or of the payload, that were read so far. -/
inductive FrameState where
  | length (bytes : List UInt8) (needed : Nat)
  | payload (expected : Nat) (bytes : List UInt8)
  deriving DecidableEq, Repr

structure ReliableFrameDecoder where
  maxMessageBytes : Nat
  maxStagingBytes : Nat
  state : FrameState
  deriving DecidableEq, Repr

def FrameState.start : FrameState := .length [] 0

namespace ReliableFrameDecoder

def new (maxMessageBytes maxStagingBytes : Nat) :
    Except ReliableFrameError ReliableFrameDecoder :=
  if maxMessageBytes = 0 ∨ maxStagingBytes = 0 then .error .invalidLimit
  else if maxMessageBytes > maxVarint ∨ maxStagingBytes > maxVarint then
    .error .lengthOutOfProfileRange
  else .ok ⟨maxMessageBytes, maxStagingBytes, .start⟩

/-- The second half of the loop: bytes of the payload, the first `consumed` bytes of the input
being the length. -/
def consumePayload (d : ReliableFrameDecoder) (expected : Nat) (bytes input : List UInt8)
    (consumed : Nat) : FrameConsume × ReliableFrameDecoder :=
  let take := min (input.length - consumed) (expected - bytes.length)
  let bytes := bytes ++ (input.drop consumed).take take
  if bytes.length = expected then
    (⟨consumed + take, some bytes⟩, { d with state := .start })
  else (⟨consumed + take, none⟩, { d with state := .payload expected bytes })

/-- The length is complete: `bytes`, the first `consumed` bytes of the input being its end.
`reserves` is the allocator's answer. -/
def startPayload (d : ReliableFrameDecoder) (reserves : Bool) (bytes input : List UInt8)
    (consumed : Nat) : Except ReliableFrameError FrameConsume × ReliableFrameDecoder :=
  match decodeVarint bytes with
  | .error e => (.error (.varInt e), d)
  | .ok (claimed, _) =>
    if claimed > d.maxMessageBytes then
      (.error (.messageTooLarge claimed d.maxMessageBytes), d)
    else if claimed > d.maxStagingBytes then
      (.error (.stagingLimitExceeded claimed d.maxStagingBytes), d)
    else if claimed > usizeMax then (.error .lengthDoesNotFitPlatform, d)
    else if claimed = 0 then (.ok ⟨consumed, some []⟩, { d with state := .start })
    else if ¬ reserves then (.error .allocationFailed, d)
    else
      let (result, d) := d.consumePayload claimed [] input consumed
      (.ok result, d)

/-- The first half of the loop: bytes of the length. -/
def consumeLength (d : ReliableFrameDecoder) (reserves : Bool) (bytes : List UInt8)
    (needed : Nat) (input : List UInt8) :
    Except ReliableFrameError FrameConsume × ReliableFrameDecoder :=
  let take := min input.length (needed - bytes.length)
  let bytes := bytes ++ input.take take
  let d := { d with state := .length bytes needed }
  if bytes.length = needed then d.startPayload reserves bytes input take
  else (.ok ⟨take, none⟩, d)

def consume (d : ReliableFrameDecoder) (reserves : Bool) (input : List UInt8) :
    Except ReliableFrameError FrameConsume × ReliableFrameDecoder :=
  match d.state, input with
  | .payload expected bytes, input =>
    let (result, d) := d.consumePayload expected bytes input 0
    (.ok result, d)
  | .length [] _, [] => (.ok ⟨0, none⟩, d)
  | .length [] _, first :: rest =>
    d.consumeLength reserves [] (encodedLenFromFirst first) (first :: rest)
  | .length bytes needed, input => d.consumeLength reserves bytes needed input

def finish (d : ReliableFrameDecoder) : Except ReliableFrameError Unit :=
  match d.state with
  | .length [] _ => .ok ()
  | .length (_ :: _) _ | .payload _ _ => .error .truncatedFrame

end ReliableFrameDecoder

/-- `encode_payload_length`. -/
def encodePayloadLength (payloadLen maxMessageBytes : Nat) :
    Except ReliableFrameError (List UInt8) :=
  if maxMessageBytes = 0 then .error .invalidLimit
  else if payloadLen > maxVarint ∨ maxMessageBytes > maxVarint then
    .error .lengthOutOfProfileRange
  else if payloadLen > maxMessageBytes then
    .error (.messageTooLarge payloadLen maxMessageBytes)
  else match encodeVarint payloadLen with
    | .error _ => .error .lengthOutOfProfileRange
    | .ok encoded => .ok encoded

end RunenNet

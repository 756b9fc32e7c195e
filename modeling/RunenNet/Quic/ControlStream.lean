import RunenNet.Foundation.Stream
import RunenNet.Quic.ControlCodec
import RunenNet.Quic.ReliableBinding

/-!
# Framing of the control stream

A control frame is its type, the length of its body and the body. The sender checks a length
against the limits of both sides before it writes anything; the receiver checks it against its own
limits, the ones it told the sender, before it reserves or reads the body.
-/

namespace RunenNet

open Foundation

/-! ### Errors of the control stream -/

inductive ReadFailure where
  | connectionLost
  | other
  deriving DecidableEq, Repr

inductive WriteFailure where
  | connectionLost
  | other
  deriving DecidableEq, Repr

inductive ControlFrameError where
  | varInt (e : VarIntDecodeError)
  | varIntEncode (e : VarIntEncodeError)
  | unknownFrameType (value : Nat)
  | bodyLengthOutOfRange
  | bodyTooLarge (received limit : Nat)
  | negotiationBodyTooLarge (received limit : Nat)
  | allocation
  | endOfStream
  | truncatedFrame
  | read (e : ReadFailure)
  | write (e : WriteFailure)
  | zeroWriteProgress
  deriving DecidableEq, Repr

/-- The errors of a control stream whose profile is ready. -/
inductive ProfileBootstrapError where
  | connection
  | frame (e : ControlFrameError)
  | settingsAfterReady
  | settingsOwnedByBootstrap
  | controlChannelPoisoned
  deriving DecidableEq, Repr

/-! ### Limits -/

def ControlFrameType.isNegotiation : ControlFrameType → Bool
  | .negotiationOffer | .negotiationProposal | .negotiationValidated | .negotiationEstablished
  | .negotiationFailed => true
  | _ => false

def validateOutboundBody (localSettings peer : Settings) (frameType : ControlFrameType)
    (bodyLen : Nat) : Except ControlFrameError Unit :=
  if bodyLen > u64Max then .error .bodyLengthOutOfRange
  else
    let controlLimit := min localSettings.maxControlFrameBytes peer.maxControlFrameBytes
    if bodyLen > controlLimit then .error (.bodyTooLarge bodyLen controlLimit)
    else if frameType.isNegotiation then
      let negotiationLimit :=
        min localSettings.maxNegotiationFrameBytes peer.maxNegotiationFrameBytes
      if bodyLen > negotiationLimit then
        .error (.negotiationBodyTooLarge bodyLen negotiationLimit)
      else .ok ()
    else .ok ()

def validateInboundBodyLength (frameType : ControlFrameType) (bodyLen : Nat)
    (localMaxControlFrameBytes localMaxNegotiationFrameBytes : Nat) :
    Except ControlFrameError Nat :=
  if bodyLen > localMaxControlFrameBytes then
    .error (.bodyTooLarge bodyLen localMaxControlFrameBytes)
  else if frameType.isNegotiation ∧ bodyLen > localMaxNegotiationFrameBytes then
    .error (.negotiationBodyTooLarge bodyLen localMaxNegotiationFrameBytes)
  else if bodyLen > usizeMax then .error .bodyLengthOutOfRange
  else .ok bodyLen

/-! ### Sending -/

/-- What the transport answers to the writes that follow; after the last answer a write waits. -/
abbrev WriteAnswers := List (Except WriteFailure Nat)

/-- What a send came to, the bytes it wrote and the answers it left. -/
abbrev Sent := Polled (Except ControlFrameError Unit) × List UInt8 × WriteAnswers

/-- The loop of `write_slices` over one part. The transport takes no more than it is given. -/
def writePart : WriteAnswers → List UInt8 → Sent
  | answers, [] => (some (.ok ()), [], answers)
  | [], _ :: _ => (none, [], [])
  | .error e :: answers, _ :: _ => (some (.error (.write e)), [], answers)
  | .ok 0 :: answers, _ :: _ => (some (.error .zeroWriteProgress), [], answers)
  | .ok (n + 1) :: answers, b :: part =>
    let (r, written, left) := writePart answers (part.drop n)
    (r, b :: part.take n ++ written, left)

def writeSlices (answers : WriteAnswers) : List (List UInt8) → Sent
  | [] => (some (.ok ()), [], answers)
  | part :: parts => match writePart answers part with
    | (some (.ok ()), written, answers) =>
      let (r, more, answers) := writeSlices answers parts
      (r, written ++ more, answers)
    | sent => sent

def sendFrameRaw (answers : WriteAnswers) (frameType : ControlFrameType) (body : List UInt8) :
    Sent :=
  if body.length > u64Max then (some (.error .bodyLengthOutOfRange), [], answers)
  else match encodeVarint frameType.wire with
    | .error e => (some (.error (.varIntEncode e)), [], answers)
    | .ok frameType => match encodeVarint body.length with
      | .error e => (some (.error (.varIntEncode e)), [], answers)
      | .ok bodyLength => writeSlices answers [frameType, bodyLength, body]

inductive DirectionIoState where
  | clean
  | inFlightOrPoisoned
  deriving DecidableEq, Repr

structure ControlSender where
  localSettings : Settings
  peerSettings : Settings
  ioState : DirectionIoState

/-- `send_frame`. A send that is dropped while it waits, or fails, leaves the sender poisoned. -/
def ControlSender.sendFrame (s : ControlSender) (answers : WriteAnswers)
    (frameType : ControlFrameType) (body : List UInt8) :
    Polled (Except ProfileBootstrapError Unit) × List UInt8 × WriteAnswers × ControlSender :=
  if frameType = .settings then (some (.error .settingsOwnedByBootstrap), [], answers, s)
  else match validateOutboundBody s.localSettings s.peerSettings frameType body.length with
    | .error e => (some (.error (.frame e)), [], answers, s)
    | .ok () =>
      if s.ioState ≠ .clean then (some (.error .controlChannelPoisoned), [], answers, s)
      else match sendFrameRaw answers frameType body with
        | (some (.ok ()), written, answers) => (some (.ok ()), written, answers, s)
        | (r, written, answers) => (r.map (·.mapError .frame), written, answers,
          { s with ioState := .inFlightOrPoisoned })

/-! ### Receiving -/

/-- What comes after the bytes that arrived: nothing yet, the end of the stream, the peer's close of
the connection without an error, or another failure. -/
inductive StreamEnd where
  | waiting
  | finished
  | noErrorClose
  | failed (e : ReadFailure)
  deriving DecidableEq, Repr

/-- The error of a `read_exact` at the start of a frame that got `k` bytes. -/
def StreamEnd.firstReadError : StreamEnd → Option (Nat → ControlFrameError)
  | .waiting => none
  | .finished => some fun k => if k = 0 then .endOfStream else .truncatedFrame
  | .noErrorClose => some fun _ => .read .connectionLost
  | .failed e => some fun _ => .read e

/-- `mid_frame_read_error`. -/
def StreamEnd.midFrameReadError : StreamEnd → Option (Nat → ControlFrameError)
  | .waiting => none
  | .finished | .noErrorClose => some fun _ => .truncatedFrame
  | .failed e => some fun _ => .read e

/-- What the receiver asks for: bytes of the type and of the length, room for a body, a body. -/
inductive ReceiveRequest where
  | header (bytes : Nat)
  | reserve (bytes : Nat)
  | body (bytes : Nat)
  deriving DecidableEq, Repr

inductive ReceiveFailure where
  | error (e : ControlFrameError)
  | panicked (p : Panic)
  deriving DecidableEq, Repr

abbrev ControlReader := StreamReader ReceiveRequest ReceiveFailure

def readHeader (errors : Option (Nat → ControlFrameError)) (n : Nat) :
    ControlReader (List UInt8) :=
  .exactly (.header n) (errors.map fun error k => .error (error k)) n

def checked {α : Type} (x : Except ControlFrameError α) : ControlReader α :=
  .lift (x.mapError .error)

/-- The bytes of a varint behind its first one. -/
def readVarintTail (stream : StreamEnd) (encodedLen : Nat) : ControlReader (List UInt8) :=
  if encodedLen > 1 then readHeader stream.midFrameReadError (encodedLen - 1) else pure []

def readStreamVarintAfterFirst (stream : StreamEnd) (first : UInt8) : ControlReader Nat := do
  let encodedLen := encodedLenFromFirst first
  let rest ← readVarintTail stream encodedLen
  let (value, consumed) ← checked ((decodeVarint (first :: rest)).mapError .varInt)
  StreamReader.lift ((Checked.assert (consumed = encodedLen)).mapError .panicked)
  return value

def receiveFrameType (stream : StreamEnd) : ControlReader ControlFrameType := do
  let first ← readHeader stream.firstReadError 1
  let value ← readStreamVarintAfterFirst stream (first.headD 0)
  checked ((ControlFrameType.fromWire value).mapError .unknownFrameType)

def readStreamVarint (stream : StreamEnd) : ControlReader Nat := do
  let first ← readHeader stream.midFrameReadError 1
  readStreamVarintAfterFirst stream (first.headD 0)

/-- `reserves` is what the allocator answers. -/
def receiveFrameBody (stream : StreamEnd) (reserves : Nat → Bool) (frameType : ControlFrameType)
    (localMaxControlFrameBytes localMaxNegotiationFrameBytes : Nat) :
    ControlReader ControlFrame := do
  let bodyLen ← readStreamVarint stream
  let bodyLen ← checked (validateInboundBodyLength frameType bodyLen localMaxControlFrameBytes
    localMaxNegotiationFrameBytes)
  StreamReader.ask (.reserve bodyLen)
  checked (if reserves bodyLen then .ok () else .error .allocation)
  if bodyLen = 0 then return ⟨frameType, []⟩
  else
    let body ← StreamReader.exactly (.body bodyLen)
      (stream.midFrameReadError.map fun error k => .error (error k)) bodyLen
    return ⟨frameType, body⟩

/-- `receive_frame_type` and `receive_frame_body` under the settings of the receiver. -/
def receiveFrame (stream : StreamEnd) (reserves : Nat → Bool) (localSettings : Settings) :
    ControlReader ControlFrame := do
  let frameType ← receiveFrameType stream
  receiveFrameBody stream reserves frameType localSettings.maxControlFrameBytes
    localSettings.maxNegotiationFrameBytes

/-! ### Limits of both sides -/

theorem Settings.Valid.control_ge {s : Settings} (h : s.Valid) :
    maxSettingsBodyBytes ≤ s.maxControlFrameBytes := by
  have hvalidated := h.validated
  unfold Settings.validate at hvalidated
  split at hvalidated
  · cases hvalidated
  · split at hvalidated
    · cases hvalidated
    · rename_i hmin
      exact not_lt.mp hmin

/-- What the sender admits is within the limits of the receiver. -/
theorem validateOutboundBody_ok {localSettings peer : Settings} {frameType : ControlFrameType}
    {bodyLen : Nat} (h : validateOutboundBody localSettings peer frameType bodyLen = .ok ()) :
    bodyLen ≤ peer.maxControlFrameBytes ∧
      (frameType.isNegotiation = true → bodyLen ≤ peer.maxNegotiationFrameBytes) := by
  unfold validateOutboundBody at h
  simp only at h
  split at h
  · cases h
  · split at h
    · cases h
    · rename_i hcontrol
      refine ⟨by omega, fun hnegotiation => ?_⟩
      rw [if_pos hnegotiation] at h
      split at h
      · cases h
      · omega

theorem validateInboundBodyLength_of_outbound {localSettings peer : Settings} (hpeer : peer.Valid)
    {frameType : ControlFrameType} {bodyLen : Nat}
    (h : validateOutboundBody localSettings peer frameType bodyLen = .ok ()) :
    validateInboundBodyLength frameType bodyLen peer.maxControlFrameBytes
      peer.maxNegotiationFrameBytes = .ok bodyLen := by
  obtain ⟨hcontrol, hnegotiation⟩ := validateOutboundBody_ok h
  have hmax : maxVarint ≤ usizeMax := by decide
  have hle := hpeer.maxControlFrameBytes
  rw [validateInboundBodyLength, if_neg (not_lt.mpr hcontrol), if_neg, if_neg (by omega)]
  rintro ⟨htype, hgt⟩
  exact absurd (hnegotiation htype) (not_le.mpr hgt)

/-- A body of flow control is within all limits. -/
theorem validateOutboundBody_short {localSettings peer : Settings} (hlocal : localSettings.Valid)
    (hpeer : peer.Valid) {frameType : ControlFrameType} (htype : frameType.isNegotiation = false)
    {bodyLen : Nat} (h : bodyLen ≤ maxControlBodyBytes) :
    validateOutboundBody localSettings peer frameType bodyLen = .ok () := by
  have hmin : maxControlBodyBytes ≤ maxSettingsBodyBytes ∧ maxControlBodyBytes ≤ u64Max := by decide
  have hl := hlocal.control_ge
  have hp := hpeer.control_ge
  simp only [validateOutboundBody, htype]
  rw [if_neg (by omega), if_neg (by omega)]
  rfl

/-! ### What is written -/

def frameBytes (f : ControlFrame) : List UInt8 :=
  varintBytes f.frameType.wire ++ (varintBytes f.body.length ++ f.body)

/-- All of `bytes` was written, or the send stopped before. -/
def Wrote (bytes : List UInt8) : Sent → Prop
  | (r, written, _) => (r = some (.ok ()) ∧ written = bytes) ∨
      (r ≠ some (.ok ()) ∧ ∃ part, part ≠ [] ∧ bytes = written ++ part)

theorem writePart_wrote (answers : WriteAnswers) (part : List UInt8) :
    Wrote part (writePart answers part) := by
  induction answers generalizing part with
  | nil =>
    cases part with
    | nil => exact .inl ⟨rfl, rfl⟩
    | cons b part => exact .inr ⟨nofun, b :: part, nofun, rfl⟩
  | cons answer answers ih =>
    cases part with
    | nil => exact .inl ⟨rfl, rfl⟩
    | cons b part =>
      rcases answer with e | _ | n
      · exact .inr ⟨nofun, b :: part, nofun, rfl⟩
      · exact .inr ⟨nofun, b :: part, nofun, rfl⟩
      · rcases ih (part.drop n) with ⟨hr, hwritten⟩ | ⟨hr, more, hmore, hpart⟩
        · refine .inl ⟨hr, ?_⟩
          rw [hwritten, List.cons_append, List.take_append_drop]
        · refine .inr ⟨hr, more, hmore, ?_⟩
          rw [List.cons_append, List.cons_append, List.append_assoc, ← hpart,
            List.take_append_drop]

theorem writeSlices_wrote (answers : WriteAnswers) (parts : List (List UInt8)) :
    Wrote parts.flatten (writeSlices answers parts) := by
  induction parts generalizing answers with
  | nil => exact .inl ⟨rfl, rfl⟩
  | cons part parts ih =>
    have hpart := writePart_wrote answers part
    rw [writeSlices]
    rcases hrun : writePart answers part with ⟨r, written, left⟩
    rw [hrun] at hpart
    rcases hpart with ⟨rfl, rfl⟩ | ⟨hr, more, hmore, heq⟩
    · rcases ih left with ⟨hr, hwritten⟩ | ⟨hr, more, hmore, heq⟩
      · exact .inl ⟨hr, by rw [hwritten, List.flatten_cons]⟩
      · exact .inr ⟨hr, more, hmore, by rw [List.flatten_cons, heq, List.append_assoc]⟩
    · have hstop : Wrote (part :: parts).flatten (r, written, left) := by
        refine .inr ⟨hr, more ++ parts.flatten, by simp [hmore], ?_⟩
        rw [List.flatten_cons, heq, List.append_assoc]
      rcases r with _ | _ | u
      · exact hstop
      · exact hstop
      · exact absurd rfl hr

theorem sendFrameRaw_eq (answers : WriteAnswers) {f : ControlFrame}
    (hlen : f.body.length ≤ maxVarint) : sendFrameRaw answers f.frameType f.body =
      writeSlices answers [varintBytes f.frameType.wire, varintBytes f.body.length, f.body] := by
  have hmax : maxVarint ≤ u64Max := by decide
  have hwire : f.frameType.wire ≤ maxVarint := by cases f.frameType <;> decide
  rw [sendFrameRaw, if_neg (by omega), encodeVarint_eq hwire, encodeVarint_eq hlen]

theorem sendFrameRaw_wrote (answers : WriteAnswers) {f : ControlFrame}
    (hlen : f.body.length ≤ maxVarint) :
    Wrote (frameBytes f) (sendFrameRaw answers f.frameType f.body) := by
  have h := writeSlices_wrote answers
    [varintBytes f.frameType.wire, varintBytes f.body.length, f.body]
  rw [sendFrameRaw_eq answers hlen]
  simpa [frameBytes] using h

/-! ### What is read -/

section Reading

open StreamReader

variable {stream : StreamEnd} {reserves : Nat → Bool} {receiver : Settings}

theorem checked_takes {α : Type} {x : Except ControlFrameError α} {a : α} (h : x = .ok a) :
    Takes (checked x) [] a := .lift (by rw [h]; rfl)

theorem readHeader_takes (errors : Option (Nat → ControlFrameError)) {n : Nat} {bs : List UInt8}
    (h : bs.length = n) : Takes (readHeader errors n) bs bs := .exactly _ _ h

/-- The bytes of a value behind its first byte. -/
theorem readStreamVarintAfterFirst_takes (stream : StreamEnd) {value : Nat} {first : UInt8}
    {tail : List UInt8} (hv : value ≤ maxVarint) (h : varintBytes value = first :: tail) :
    Takes (readStreamVarintAfterFirst stream first) tail value := by
  obtain ⟨tag, hform⟩ := exists_form hv
  obtain ⟨first', tail', henc, htag, hlen, -⟩ := encodeVarint_cons hform
  rw [encodeVarint_eq hv, h] at henc
  cases henc
  have hencoded : encodedLenFromFirst first = tail.length + 1 := by
    rw [encodedLenFromFirst_eq, htag, hlen]
  have hdecode : decodeVarint (first :: tail) = .ok (value, tail.length + 1) := by
    have hread := decodeVarint_encode (encodeVarint_eq hv) []
    rwa [h, List.append_nil] at hread
  unfold readStreamVarintAfterFirst
  simp only [hencoded]
  refine Takes.after (a := tail) ?_ ?_
  · unfold readVarintTail
    split
    · exact readHeader_takes _ (by omega)
    · rename_i hone
      cases tail with
      | nil => exact .pure _
      | cons b tail => simp at hone
  · refine Takes.before (checked_takes (by rw [hdecode]; rfl)) ?_
    refine Takes.before (a := ()) (.lift ?_) (.pure value)
    rw [decide_eq_true rfl]
    rfl

theorem readStreamVarint_takes (stream : StreamEnd) {value : Nat} (hv : value ≤ maxVarint) :
    Takes (readStreamVarint stream) (varintBytes value) value := by
  obtain ⟨first, tail, h, -⟩ := varintBytes_cons hv
  have hfirst : Takes (readHeader stream.midFrameReadError 1) [first] [first] :=
    readHeader_takes _ rfl
  rw [h]
  exact hfirst.bind (readStreamVarintAfterFirst_takes stream hv h)

theorem receiveFrameType_takes (stream : StreamEnd) (frameType : ControlFrameType) :
    Takes (receiveFrameType stream) (varintBytes frameType.wire) frameType := by
  have hwire : frameType.wire ≤ maxVarint := by cases frameType <;> decide
  obtain ⟨first, tail, h, -⟩ := varintBytes_cons hwire
  have hfirst : Takes (readHeader stream.firstReadError 1) [first] [first] :=
    readHeader_takes _ rfl
  rw [h]
  refine hfirst.bind ((readStreamVarintAfterFirst_takes stream hwire h).after (checked_takes ?_))
  rw [ControlFrameType.fromWire_eq_ok.mpr rfl]
  rfl

theorem receiveFrameBody_takes (stream : StreamEnd) (hreserves : ∀ n, reserves n = true)
    {f : ControlFrame} {control negotiation : Nat} (hlen : f.body.length ≤ maxVarint)
    (hvalid : validateInboundBodyLength f.frameType f.body.length control negotiation =
      .ok f.body.length) :
    Takes (receiveFrameBody stream reserves f.frameType control negotiation)
      (varintBytes f.body.length ++ f.body) f := by
  refine (readStreamVarint_takes stream hlen).bind (Takes.before (checked_takes hvalid) ?_)
  refine Takes.before (.ask _) (Takes.before (checked_takes (if_pos (hreserves _))) ?_)
  split
  · rename_i hempty
    rw [List.length_eq_zero_iff] at hempty
    obtain ⟨frameType, body⟩ := f
    subst hempty
    exact .pure _
  · exact (Takes.exactly _ _ rfl).after (.pure f)

/-- A frame within the limits of the receiver is taken from its bytes. -/
theorem receiveFrame_takes (stream : StreamEnd) (hreserves : ∀ n, reserves n = true)
    {f : ControlFrame} (hlen : f.body.length ≤ maxVarint)
    (hvalid : validateInboundBodyLength f.frameType f.body.length receiver.maxControlFrameBytes
      receiver.maxNegotiationFrameBytes = .ok f.body.length) :
    Takes (receiveFrame stream reserves receiver) (frameBytes f) f :=
  (receiveFrameType_takes stream f.frameType).bind
    (receiveFrameBody_takes stream hreserves hlen hvalid)

/-- The errors that tell that the stream ended too early. -/
def StreamEnd.Short (stream : StreamEnd) (e : ReceiveFailure) : Prop :=
  ∃ error k, (stream.firstReadError = some error ∨ stream.midFrameReadError = some error) ∧
    e = .error (error k)

theorem midFrame_short (g : Nat → ReceiveFailure)
    (h : (stream.midFrameReadError.map fun error k => .error (error k)) = some g) (k : Nat) :
    stream.Short (g k) := by
  obtain ⟨error, herror, rfl⟩ := Option.map_eq_some_iff.mp h
  exact ⟨error, k, .inr herror, rfl⟩

theorem first_short (g : Nat → ReceiveFailure)
    (h : (stream.firstReadError.map fun error k => .error (error k)) = some g) (k : Nat) :
    stream.Short (g k) := by
  obtain ⟨error, herror, rfl⟩ := Option.map_eq_some_iff.mp h
  exact ⟨error, k, .inl herror, rfl⟩

theorem readStreamVarintAfterFirst_settled (stream : StreamEnd) (first : UInt8) :
    Settled stream.Short (readStreamVarintAfterFirst stream first) := by
  refine Settled.bind ?_ fun rest => (Settled.lift _).bind fun decoded =>
    (Settled.lift _).bind fun _ => .pure _
  unfold readVarintTail
  split
  · exact .exactly _ midFrame_short _
  · exact .pure _

theorem receiveFrame_settled (stream : StreamEnd) (reserves : Nat → Bool) (receiver : Settings) :
    Settled stream.Short (receiveFrame stream reserves receiver) := by
  refine Settled.bind ?_ fun frameType => Settled.bind ?_ fun bodyLen => ?_
  · exact (Settled.exactly _ first_short 1).bind fun first =>
      (readStreamVarintAfterFirst_settled stream _).bind fun _ => .lift _
  · exact (Settled.exactly _ midFrame_short 1).bind fun first =>
      readStreamVarintAfterFirst_settled stream _
  · refine (Settled.lift _).bind fun bodyLen => (Settled.ask _).bind fun _ =>
      (Settled.lift _).bind fun _ => ?_
    split
    · exact .pure _
    · exact (Settled.exactly _ midFrame_short _).bind fun _ => .pure _

/-- What a receiver may ask for: a few bytes of a header, or a body within the limits. -/
def Admits (frameType : ControlFrameType) (control negotiation : Nat) : ReceiveRequest → Prop
  | .header n => n ≤ 7
  | .reserve n | .body n => validateInboundBodyLength frameType n control negotiation = .ok n

theorem readStreamVarintAfterFirst_asks {P : ReceiveRequest → Prop} (hP : ∀ n ≤ 7, P (.header n))
    (stream : StreamEnd) (first : UInt8) :
    Asks P (readStreamVarintAfterFirst stream first) := by
  refine Asks.bind ?_ fun rest => (Asks.lift _).bind fun decoded =>
    (Asks.lift _).bind fun _ => .pure _
  unfold readVarintTail
  split
  · refine .exactly (hP _ ?_) _ _
    have hbyte := first.toNat_lt
    have hle : 2 ^ (first.toNat / 64) ≤ 2 ^ 3 := Nat.pow_le_pow_right (by omega) (by omega)
    rw [encodedLenFromFirst_eq]
    omega
  · exact .pure _

theorem validateInboundBodyLength_ok {frameType : ControlFrameType}
    {bodyLen checkedLen control negotiation : Nat}
    (h : validateInboundBodyLength frameType bodyLen control negotiation = .ok checkedLen) :
    checkedLen = bodyLen := by
  unfold validateInboundBodyLength at h
  repeat' split at h
  all_goals cases h
  rfl

/-- Whatever arrives, room for a body and the body are asked for only within the limits. -/
theorem receiveFrameBody_asks (stream : StreamEnd) (reserves : Nat → Bool)
    (frameType : ControlFrameType) (control negotiation : Nat) :
    Asks (Admits frameType control negotiation)
      (receiveFrameBody stream reserves frameType control negotiation) := by
  have hheader : ∀ n ≤ 7, Admits frameType control negotiation (.header n) := fun n hn => hn
  refine Asks.bind ?_ fun bodyLen => Asks.lift_bind fun checkedLen hchecked => ?_
  · exact (Asks.exactly (hheader 1 (by decide)) _ _).bind fun first =>
      readStreamVarintAfterFirst_asks hheader stream _
  · have hvalid : validateInboundBodyLength frameType checkedLen control negotiation =
        .ok checkedLen := by
      cases hlen : validateInboundBodyLength frameType bodyLen control negotiation with
      | error e =>
        rw [hlen] at hchecked
        cases hchecked
      | ok n =>
        rw [hlen] at hchecked
        cases hchecked
        rw [← hlen, validateInboundBodyLength_ok hlen]
    have hreserve : Admits frameType control negotiation (.reserve checkedLen) := hvalid
    have hbody : Admits frameType control negotiation (.body checkedLen) := hvalid
    refine (Asks.ask hreserve).bind fun _ => (Asks.lift _).bind fun _ => ?_
    split
    · exact .pure _
    · exact (Asks.exactly hbody _ _).bind fun _ => .pure _

theorem receiveFrameType_asks (stream : StreamEnd) :
    Asks (fun r => ∃ n ≤ 7, r = .header n) (receiveFrameType stream) :=
  (Asks.exactly ⟨1, by decide, rfl⟩ _ _).bind fun _ =>
    (readStreamVarintAfterFirst_asks (fun n hn => ⟨n, hn, rfl⟩) stream _).bind fun _ => .lift _

/-- The failures that are errors of the source. -/
def IsError (e : ReceiveFailure) : Prop := ∃ error, e = .error error

theorem short_isError {short : Option (Nat → ControlFrameError)} (g : Nat → ReceiveFailure)
    (h : (short.map fun error k => .error (error k)) = some g) (k : Nat) : IsError (g k) := by
  obtain ⟨error, -, rfl⟩ := Option.map_eq_some_iff.mp h
  exact ⟨error k, rfl⟩

theorem checked_yields {α : Type} (x : Except ControlFrameError α) :
    Yields (fun a => x = .ok a) IsError (checked x) := by
  refine .lift (fun a ha => ?_) fun e he => ?_
  · cases x with
    | error error => cases ha
    | ok a' =>
      cases ha
      rfl
  · cases x with
    | error error =>
      cases he
      exact ⟨error, rfl⟩
    | ok a => cases he

theorem decodeVarint_consumed {first : UInt8} {rest : List UInt8} {value consumed : Nat}
    (h : decodeVarint (first :: rest) = .ok (value, consumed)) :
    consumed = encodedLenFromFirst first := by
  simp only [decodeVarint] at h
  repeat' split at h
  all_goals cases h
  rfl

/-- The length that the first byte gives is the one that was decoded. -/
theorem readStreamVarintAfterFirst_yields (stream : StreamEnd) (first : UInt8) :
    Yields (fun _ => True) IsError (readStreamVarintAfterFirst stream first) := by
  have htail : Yields (fun _ => True) IsError
      (readVarintTail stream (encodedLenFromFirst first)) := by
    unfold readVarintTail
    split
    · exact (Yields.exactly _ short_isError _).imp fun _ _ => trivial
    · exact .pure trivial
  refine htail.bind fun rest _ => (checked_yields _).bind fun decoded hdecoded => ?_
  have hconsumed : decoded.2 = encodedLenFromFirst first := by
    cases hd : decodeVarint (first :: rest) with
    | error e =>
      rw [hd] at hdecoded
      cases hdecoded
    | ok r =>
      rw [hd] at hdecoded
      cases hdecoded
      exact decodeVarint_consumed hd
  refine Yields.bind (Q := fun _ => True) (.lift (fun _ _ => trivial) fun e he => ?_) fun _ _ =>
    .pure trivial
  rw [hconsumed, decide_eq_true rfl] at he
  cases he

/-- Whatever arrives, receiving ends with a frame or with an error of the source. -/
theorem receiveFrame_yields (stream : StreamEnd) (reserves : Nat → Bool) (receiver : Settings) :
    Yields (fun _ => True) IsError (receiveFrame stream reserves receiver) := by
  refine Yields.bind (Q := fun _ => True) ?_ fun frameType _ =>
    Yields.bind (Q := fun _ => True) ?_ fun bodyLen _ => ?_
  · exact (Yields.exactly _ short_isError 1).bind fun first _ =>
      (readStreamVarintAfterFirst_yields stream _).bind fun _ _ =>
        (checked_yields _).imp fun _ _ => trivial
  · exact (Yields.exactly _ short_isError 1).bind fun first _ =>
      readStreamVarintAfterFirst_yields stream _
  · refine (checked_yields _).bind fun bodyLen _ => (Yields.ask _).bind fun _ _ =>
      (checked_yields _).bind fun _ _ => ?_
    split
    · exact .pure trivial
    · exact (Yields.exactly _ short_isError _).bind fun _ _ => .pure trivial

end Reading

/-! ### Sequences of frames -/

/-- One frame after the other, up to the first that is not sent whole. -/
def sendFrames (answers : WriteAnswers) : List ControlFrame → List ControlFrame × List UInt8
  | [] => ([], [])
  | f :: fs => match sendFrameRaw answers f.frameType f.body with
    | (some (.ok ()), written, answers) =>
      (f :: (sendFrames answers fs).1, written ++ (sendFrames answers fs).2)
    | (_, written, _) => ([], written)

/-- The frames that a sender was asked to send and sent whole, and all it wrote. -/
def ControlSender.sendFrames (s : ControlSender) (answers : WriteAnswers) :
    List ControlFrame → List ControlFrame × List UInt8
  | [] => ([], [])
  | f :: fs => match s.sendFrame answers f.frameType f.body with
    | (some (.ok ()), written, answers, s) =>
      (f :: (s.sendFrames answers fs).1, written ++ (s.sendFrames answers fs).2)
    | (_, written, answers, s) =>
      ((s.sendFrames answers fs).1, written ++ (s.sendFrames answers fs).2)

/-- A frame that the receiver admits. -/
def Fits (receiver : Settings) (f : ControlFrame) : Prop :=
  f.body.length ≤ maxVarint ∧ validateInboundBodyLength f.frameType f.body.length
    receiver.maxControlFrameBytes receiver.maxNegotiationFrameBytes = .ok f.body.length

theorem fits_of_outbound {localSettings peer : Settings} (hpeer : peer.Valid) {f : ControlFrame}
    (h : validateOutboundBody localSettings peer f.frameType f.body.length = .ok ()) :
    Fits peer f :=
  ⟨(validateOutboundBody_ok h).1.trans hpeer.maxControlFrameBytes,
    validateInboundBodyLength_of_outbound hpeer h⟩

/-- The frames of `sent` stand in `written`, and behind them at most a part of another one. -/
def Holds (receiver : Settings) (written : List UInt8) (sent : List ControlFrame) : Prop :=
  (∀ f ∈ sent, Fits receiver f) ∧ ∃ f part more, Fits receiver f ∧ frameBytes f = part ++ more ∧
    more ≠ [] ∧ written = sent.flatMap frameBytes ++ part

namespace Holds

variable {receiver : Settings} {f : ControlFrame} {written part : List UInt8}
  {sent : List ControlFrame}

theorem stopped (hf : Fits receiver f) (hpart : part ≠ []) (h : frameBytes f = written ++ part) :
    Holds receiver written [] := ⟨nofun, f, written, part, hf, h, hpart, rfl⟩

theorem nil (receiver : Settings) : Holds receiver [] [] := by
  have hfits : Fits receiver ⟨.flowAccept, []⟩ := by
    refine ⟨Nat.zero_le _, ?_⟩
    simp [validateInboundBodyLength, ControlFrameType.isNegotiation]
  have hsome : frameBytes ⟨.flowAccept, []⟩ ≠ [] := by decide
  exact stopped hfits hsome rfl

theorem cons (hf : Fits receiver f) (h : Holds receiver written sent) :
    Holds receiver (frameBytes f ++ written) (f :: sent) := by
  obtain ⟨hsent, g, part, more, hg, hpart, hmore, rfl⟩ := h
  refine ⟨fun f' hf' => ?_, g, part, more, hg, hpart, hmore, ?_⟩
  · rcases List.mem_cons.mp hf' with rfl | hf'
    · exact hf
    · exact hsent f' hf'
  · rw [List.flatMap_cons, List.append_assoc]

/-- The receiver takes the frames that stand there, and no other. -/
theorem received (h : Holds receiver written sent) (stream : StreamEnd) {reserves : Nat → Bool}
    (hreserves : ∀ n, reserves n = true) {n : Nat} (hn : sent.length < n) :
    ∃ stop left, (receiveFrame stream reserves receiver).readAll n written = (sent, stop, left) ∧
      ∀ e, stop = some e → stream.Short e := by
  obtain ⟨hsent, g, part, more, hg, hpart, hmore, rfl⟩ := h
  have hlast : StreamReader.Takes (receiveFrame stream reserves receiver) (part ++ more) g := by
    rw [← hpart]
    exact receiveFrame_takes stream hreserves hg.1 hg.2
  exact StreamReader.readAll_takes (receiveFrame_settled stream reserves receiver)
    (fun f hf => receiveFrame_takes stream hreserves (hsent f hf).1 (hsent f hf).2) hmore hlast hn

end Holds

theorem sendFrames_holds {receiver : Settings} {frames : List ControlFrame}
    (hfits : ∀ f ∈ frames, Fits receiver f) (answers : WriteAnswers) :
    Holds receiver (sendFrames answers frames).2 (sendFrames answers frames).1 := by
  induction frames generalizing answers with
  | nil => exact .nil receiver
  | cons f fs ih =>
    have hf := hfits f List.mem_cons_self
    have hwrote := sendFrameRaw_wrote answers hf.1
    rw [sendFrames]
    rcases hrun : sendFrameRaw answers f.frameType f.body with ⟨r, written, left⟩
    rw [hrun] at hwrote
    rcases hwrote with ⟨rfl, rfl⟩ | ⟨hr, part, hpart, heq⟩
    · exact (ih (fun g hg => hfits g (List.mem_cons_of_mem _ hg)) left).cons hf
    · rcases r with _ | _ | u
      · exact .stopped hf hpart heq
      · exact .stopped hf hpart heq
      · exact absurd rfl hr

theorem sendFrames_leading (answers : WriteAnswers) (frames : List ControlFrame) :
    (sendFrames answers frames).1 <+: frames := by
  induction frames generalizing answers with
  | nil => exact List.prefix_rfl
  | cons f fs ih =>
    rw [sendFrames]
    split
    · exact (List.prefix_cons_inj f).mpr (ih _)
    · exact List.nil_prefix

namespace ControlSender

variable {s : ControlSender}

/-- A poisoned sender writes nothing. -/
theorem sendFrames_poisoned (hs : s.ioState ≠ .clean) (answers : WriteAnswers)
    (frames : List ControlFrame) : s.sendFrames answers frames = ([], []) := by
  induction frames with
  | nil => rfl
  | cons f fs ih =>
    have hsend : ∃ e, s.sendFrame answers f.frameType f.body =
        (some (.error e), [], answers, s) := by
      unfold sendFrame
      split
      · exact ⟨_, rfl⟩
      · split
        · exact ⟨_, rfl⟩
        · exact ⟨_, rfl⟩
    obtain ⟨e, hsend⟩ := hsend
    rw [sendFrames, hsend]
    simp only [ih, List.nil_append]

/-- What a send does: nothing is sent and nothing changes, the frame is sent whole, or a part of it
is and the sender is poisoned. -/
theorem sendFrame_cases (hpeer : s.peerSettings.Valid) (answers : WriteAnswers) (f : ControlFrame) :
    (∃ e, s.sendFrame answers f.frameType f.body = (some (.error e), [], answers, s)) ∨
      (Fits s.peerSettings f ∧ ((∃ left, s.sendFrame answers f.frameType f.body =
          (some (.ok ()), frameBytes f, left, s)) ∨
        ∃ r written left part s', s.sendFrame answers f.frameType f.body = (r, written, left, s') ∧
          r ≠ some (.ok ()) ∧ s'.ioState ≠ .clean ∧ part ≠ [] ∧
          frameBytes f = written ++ part)) := by
  unfold sendFrame
  split
  · exact .inl ⟨_, rfl⟩
  · split
    · exact .inl ⟨_, rfl⟩
    · rename_i hvalid
      split
      · exact .inl ⟨_, rfl⟩
      · have hfits := fits_of_outbound hpeer hvalid
        refine .inr ⟨hfits, ?_⟩
        have hwrote := sendFrameRaw_wrote answers hfits.1
        rcases hrun : sendFrameRaw answers f.frameType f.body with ⟨r, written, left⟩
        rw [hrun] at hwrote
        rcases hwrote with ⟨rfl, rfl⟩ | ⟨hr, part, hpart, heq⟩
        · exact .inl ⟨left, rfl⟩
        · rcases r with _ | e | u
          · exact .inr ⟨_, _, _, part, _, rfl, nofun, nofun, hpart, heq⟩
          · exact .inr ⟨_, _, _, part, _, rfl, nofun, nofun, hpart, heq⟩
          · exact absurd rfl hr

theorem sendFrames_holds (hpeer : s.peerSettings.Valid) (answers : WriteAnswers)
    (frames : List ControlFrame) :
    Holds s.peerSettings (s.sendFrames answers frames).2 (s.sendFrames answers frames).1 := by
  induction frames generalizing answers with
  | nil => exact .nil _
  | cons f fs ih =>
    rw [sendFrames]
    rcases sendFrame_cases hpeer answers f with ⟨e, hsend⟩ |
      ⟨hfits, ⟨left, hsend⟩ | ⟨r, written, left, part, s', hsend, hr, hs', hpart, heq⟩⟩
    · rw [hsend]
      exact ih answers
    · rw [hsend]
      exact (ih left).cons hfits
    · rw [hsend]
      rcases r with _ | e | u
      · simp only [sendFrames_poisoned hs', List.append_nil]
        exact .stopped hfits hpart heq
      · simp only [sendFrames_poisoned hs', List.append_nil]
        exact .stopped hfits hpart heq
      · exact absurd rfl hr

theorem sendFrames_sublist (answers : WriteAnswers) (frames : List ControlFrame) :
    (s.sendFrames answers frames).1.Sublist frames := by
  induction frames generalizing s answers with
  | nil => exact .slnil
  | cons f fs ih =>
    rw [sendFrames]
    split
    · exact (ih _).cons_cons f
    · exact (ih _).cons f

end ControlSender

/-! ### Writes that all make progress -/

/-- Every answered write takes at least one byte. -/
def Progresses (answers : WriteAnswers) : Prop := ∀ answer ∈ answers, ∃ n, answer = .ok (n + 1)

theorem writePart_whole {answers : WriteAnswers} (ha : Progresses answers) {part : List UInt8}
    (hlen : part.length ≤ answers.length) :
    ∃ left, writePart answers part = (some (.ok ()), part, left) ∧ Progresses left ∧
      answers.length ≤ left.length + part.length := by
  induction answers generalizing part with
  | nil =>
    obtain rfl := List.length_eq_zero_iff.mp (Nat.le_zero.mp hlen)
    exact ⟨[], rfl, ha, le_rfl⟩
  | cons answer answers ih =>
    cases part with
    | nil => exact ⟨answer :: answers, rfl, ha, le_rfl⟩
    | cons b part =>
      obtain ⟨n, rfl⟩ := ha answer List.mem_cons_self
      have hdrop : (part.drop n).length ≤ answers.length := by
        rw [List.length_cons, List.length_cons] at hlen
        rw [List.length_drop]
        omega
      obtain ⟨left, hrun, hleft, hcount⟩ := ih (fun a h => ha a (List.mem_cons_of_mem _ h)) hdrop
      refine ⟨left, ?_, hleft, ?_⟩
      · simp only [writePart, hrun, List.cons_append, List.take_append_drop]
      · simp only [List.length_cons, List.length_drop] at hcount ⊢
        omega

theorem writeSlices_whole {answers : WriteAnswers} (ha : Progresses answers)
    {parts : List (List UInt8)} (hlen : parts.flatten.length ≤ answers.length) :
    ∃ left, writeSlices answers parts = (some (.ok ()), parts.flatten, left) ∧ Progresses left ∧
      answers.length ≤ left.length + parts.flatten.length := by
  induction parts generalizing answers with
  | nil => exact ⟨answers, rfl, ha, le_rfl⟩
  | cons part parts ih =>
    rw [List.flatten_cons, List.length_append] at hlen
    have hfirst : part.length ≤ answers.length := by omega
    obtain ⟨left, hrun, hleft, hcount⟩ := writePart_whole ha hfirst
    obtain ⟨left', hrun', hleft', hcount'⟩ := ih hleft (by omega)
    refine ⟨left', ?_, hleft', ?_⟩
    · simp only [writeSlices, hrun, hrun', List.flatten_cons]
    · rw [List.flatten_cons, List.length_append]
      omega

/-- Enough writes that make progress send every frame whole. -/
theorem sendFrames_whole {answers : WriteAnswers} (ha : Progresses answers)
    {frames : List ControlFrame} (hlen : ∀ f ∈ frames, f.body.length ≤ maxVarint)
    (hcount : (frames.flatMap frameBytes).length ≤ answers.length) :
    sendFrames answers frames = (frames, frames.flatMap frameBytes) := by
  induction frames generalizing answers with
  | nil => rfl
  | cons f fs ih =>
    have hflat : [varintBytes f.frameType.wire, varintBytes f.body.length, f.body].flatten =
        frameBytes f := by
      simp [frameBytes]
    rw [List.flatMap_cons, List.length_append] at hcount
    have hfirst : [varintBytes f.frameType.wire, varintBytes f.body.length,
        f.body].flatten.length ≤ answers.length := by
      rw [hflat]
      omega
    obtain ⟨left, hrun, hleft, hleftCount⟩ := writeSlices_whole ha hfirst
    rw [hflat] at hrun hleftCount
    rw [sendFrames, sendFrameRaw_eq answers (hlen f List.mem_cons_self), hrun]
    simp only [ih hleft (fun g hg => hlen g (List.mem_cons_of_mem _ hg)) (by omega),
      List.flatMap_cons]

/-! ### Framing -/

/-- The bodies that flow control sends. -/
inductive FlowBody : ControlFrameType → List UInt8 → Prop where
  | openFlow {o : OpenFlow} {body : List UInt8} : o.encode = .ok body → FlowBody .openFlow body
  | flowAccept {a : FlowAccept} {body : List UInt8} :
      a.encode = .ok body → FlowBody .flowAccept body
  | flowReject {r : FlowReject} {body : List UInt8} :
      r.encode = .ok body → FlowBody .flowReject body
  | flowTerminate {t : FlowTerminate} {body : List UInt8} :
      t.encode = .ok body → FlowBody .flowTerminate body

theorem pushVarints_length {first second : Nat} {body : List UInt8}
    (h : (do let body ← pushVarint [] first; pushVarint body second) = .ok body) :
    body.length ≤ maxControlBodyBytes := by
  have hwithin : WithinBuffer (do let body ← pushVarint [] first; pushVarint body second) 16 :=
    (WithinBuffer.push (n := 0) (Nat.zero_le _) (by decide)).bind fun _ hfirst =>
      WithinBuffer.push hfirst (by decide)
  exact (hwithin.2 body h).trans (by decide)

theorem FlowBody.length_le {frameType : ControlFrameType} {body : List UInt8}
    (h : FlowBody frameType body) :
    frameType.isNegotiation = false ∧ body.length ≤ maxControlBodyBytes := by
  cases h with
  | @openFlow o _ h => exact ⟨rfl, o.encode_within.2 body h⟩
  | @flowAccept a _ h =>
    have hwithin : WithinBuffer a.encode 8 := WithinBuffer.push (n := 0) (Nat.zero_le _) (by decide)
    exact ⟨rfl, (hwithin.2 body h).trans (by decide)⟩
  | flowReject h => exact ⟨rfl, pushVarints_length h⟩
  | flowTerminate h => exact ⟨rfl, pushVarints_length h⟩

/-- Of a receiver with the settings `receiver`, whatever the sender does: the bytes of the frames
that were sent whole give back these frames and no other. -/
def GivesBack (receiver : Settings) (written : List UInt8) (sent : List ControlFrame) : Prop :=
  ∀ stream reserves n, (∀ bytes, reserves bytes = true) → sent.length < n →
    ∃ stop left, (receiveFrame stream reserves receiver).readAll n written = (sent, stop, left) ∧
      ∀ e, stop = some e → stream.Short e

/-- What is sent under the limits of both sides is received under those of the receiver. -/
theorem control_framing :
    (∀ sender receiver : Settings, receiver.Valid → ∀ frameType bodyLen,
      validateOutboundBody sender receiver frameType bodyLen = .ok () →
        validateInboundBodyLength frameType bodyLen receiver.maxControlFrameBytes
          receiver.maxNegotiationFrameBytes = .ok bodyLen) ∧
    (∀ sender receiver : Settings, sender.Valid → receiver.Valid → ∀ frames,
      (∀ f ∈ frames,
        validateOutboundBody sender receiver f.frameType f.body.length = .ok ()) →
      ∀ answers, (sendFrames answers frames).1 <+: frames ∧
        GivesBack receiver (sendFrames answers frames).2 (sendFrames answers frames).1 ∧
        (Progresses answers → (frames.flatMap frameBytes).length ≤ answers.length →
          sendFrames answers frames = (frames, frames.flatMap frameBytes))) ∧
    (∀ s : ControlSender, s.peerSettings.Valid → ∀ answers frames,
      (s.sendFrames answers frames).1.Sublist frames ∧
      GivesBack s.peerSettings (s.sendFrames answers frames).2 (s.sendFrames answers frames).1) ∧
    (∀ sender receiver : Settings, sender.Valid → receiver.Valid → ∀ frameType body,
      FlowBody frameType body →
        validateOutboundBody sender receiver frameType body.length = .ok ()) ∧
    (∀ stream reserves frameType control negotiation, StreamReader.Asks
      (Admits frameType control negotiation)
      (receiveFrameBody stream reserves frameType control negotiation)) ∧
    (∀ stream, StreamReader.Asks (fun r => ∃ n ≤ 7, r = .header n) (receiveFrameType stream)) ∧
    ∀ stream reserves receiver, StreamReader.Yields (fun _ => True) IsError
      (receiveFrame stream reserves receiver) := by
  refine ⟨fun _ _ hreceiver _ _ => validateInboundBodyLength_of_outbound hreceiver,
    fun _ receiver _ hreceiver frames hframes answers => ⟨sendFrames_leading answers frames, ?_, ?_⟩,
    fun s hpeer answers frames => ⟨s.sendFrames_sublist answers frames, ?_⟩,
    fun _ _ hsender hreceiver _ _ hbody => ?_, receiveFrameBody_asks, receiveFrameType_asks,
    receiveFrame_yields⟩
  · have hfits : ∀ f ∈ frames, Fits receiver f := fun f hf =>
      fits_of_outbound hreceiver (hframes f hf)
    exact fun stream reserves n hreserves hn =>
      (sendFrames_holds hfits answers).received stream hreserves hn
  · exact fun ha => sendFrames_whole ha fun f hf =>
      (fits_of_outbound hreceiver (hframes f hf)).1
  · exact fun stream reserves n hreserves hn =>
      (s.sendFrames_holds hpeer answers frames).received stream hreserves hn
  · obtain ⟨htype, hlen⟩ := hbody.length_le
    exact validateOutboundBody_short hsender hreceiver htype hlen

end RunenNet

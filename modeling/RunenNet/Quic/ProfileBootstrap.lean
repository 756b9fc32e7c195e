import RunenNet.Quic.ControlStream

/-!
# The bootstrap of a profile

Before anything else each side sends its SETTINGS on the control stream and receives those of the
peer. A frame that is no SETTINGS is refused by its type; the profile is ready with exactly the
settings that the peer encoded, in the opposite role, and what arrived behind them is left to the
control stream.
-/

namespace RunenNet

open Foundation

/-! ### The bootstrap -/

def runennetAlpn : List UInt8 := "runennet/1".toUTF8.toList

/-- The errors of the bootstrap; those of a control stream whose profile is ready are in
`ProfileBootstrapError`. -/
inductive BootstrapError where
  | connection
  | missingHandshakeData
  | unexpectedHandshakeDataType
  | wrongAlpn
  | datagramUnsupported
  | wrongQuicSide (expected actual : WireSide)
  | zeroRttControlStream
  | frame (e : ControlFrameError)
  | settings (e : SettingsError)
  | unexpectedFrameBeforeReady (frameType : ControlFrameType)
  | duplicateSettings
  | settingsAfterReady
  | peerRoleMismatch (expected received : SemanticRole)
  deriving DecidableEq, Repr

/-- What the transport tells of its handshake; `protocol` is the negotiated one. -/
inductive HandshakeData where
  | missing
  | unexpected
  | quic (protocol : Option (List UInt8))
  deriving DecidableEq, Repr

def confirmProfileTransport (handshake : HandshakeData) (maxDatagramSize : Option Nat) :
    Except BootstrapError Unit :=
  match handshake with
  | .missing => .error .missingHandshakeData
  | .unexpected => .error .unexpectedHandshakeDataType
  | .quic protocol =>
    if protocol ≠ some runennetAlpn then .error .wrongAlpn
    else if maxDatagramSize.isNone then .error .datagramUnsupported
    else .ok ()

def SemanticRole.opposite : SemanticRole → SemanticRole
  | .nonAuthority => .authority
  | .authority => .nonAuthority

structure BootstrapState where
  localSettings : Settings
  localSettingsSent : Bool
  peerSettings : Option Settings

namespace BootstrapState

def new (localSettings : Settings) : BootstrapState := ⟨localSettings, false, none⟩

def markLocalSettingsSent (s : BootstrapState) : Except BootstrapError BootstrapState :=
  if s.localSettingsSent then .error .duplicateSettings
  else .ok { s with localSettingsSent := true }

def receiveSettings (s : BootstrapState) (settings : Settings) :
    Except BootstrapError BootstrapState :=
  if s.peerSettings.isSome then .error .duplicateSettings
  else
    let expected := s.localSettings.semanticRole.opposite
    if settings.semanticRole ≠ expected then
      .error (.peerRoleMismatch expected settings.semanticRole)
    else .ok { s with peerSettings := some settings }

def isReady (s : BootstrapState) : Bool := s.localSettingsSent && s.peerSettings.isSome

def validateInboundType (s : BootstrapState) (frameType : ControlFrameType) :
    Except BootstrapError Unit :=
  if s.isReady then
    if frameType = .settings then .error .settingsAfterReady else .ok ()
  else if frameType = .settings then .ok ()
  else .error (.unexpectedFrameBeforeReady frameType)

def validateOutboundType (s : BootstrapState) (frameType : ControlFrameType) :
    Except BootstrapError Unit :=
  if s.isReady then
    if frameType = .settings then .error .settingsAfterReady else .ok ()
  else if frameType = .settings ∧ ¬ s.localSettingsSent then .ok ()
  else if frameType = .settings then .error .duplicateSettings
  else .error (.unexpectedFrameBeforeReady frameType)

/-- What a send of the local settings came to, the bytes it wrote and the state after it. -/
abbrev SentSettings := Polled (Except BootstrapError Unit) × List UInt8 × BootstrapState

/-- `send_local_settings`, up to where the answers of the transport lead. -/
def sendLocalSettings (s : BootstrapState) (answers : WriteAnswers) : Checked SentSettings :=
  match s.validateOutboundType .settings with
  | .error e => .ok (some (.error e), [], s)
  | .ok () => do
    let body ← s.localSettings.encode
    match sendFrameRaw answers .settings body with
    | (none, written, _) => return (none, written, s)
    | (some (.error e), written, _) => return (some (.error (.frame e)), written, s)
    | (some (.ok ()), written, _) => match s.markLocalSettingsSent with
      | .error e => return (some (.error e), written, s)
      | .ok s => return (some (.ok ()), written, s)

inductive BootstrapFailure where
  | error (e : BootstrapError)
  | panicked (p : Panic)
  deriving DecidableEq, Repr

/-- A failure of the control stream, before the profile is ready. -/
def failureOf : ReceiveFailure → BootstrapFailure
  | .error e => .error (.frame e)
  | .panicked p => .panicked p

abbrev BootstrapReader := StreamReader ReceiveRequest BootstrapFailure

def require {α : Type} (x : Except BootstrapError α) : BootstrapReader α :=
  .lift (x.mapError .error)

/-- The frame of the peer. Its type is checked before the length of its body is read. -/
def readPeerSettings (s : BootstrapState) (stream : StreamEnd) (reserves : Nat → Bool) :
    BootstrapReader Settings := do
  let frameType ← StreamReader.mapError failureOf (receiveFrameType stream)
  require (s.validateInboundType frameType)
  let frame ← StreamReader.mapError failureOf (receiveFrameBody stream reserves frameType
    s.localSettings.maxControlFrameBytes s.localSettings.maxNegotiationFrameBytes)
  require ((Settings.decode frame.body).mapError .settings)

/-- `receive_peer_settings`. -/
def receivePeerSettings (s : BootstrapState) (stream : StreamEnd) (reserves : Nat → Bool) :
    BootstrapReader BootstrapState := do
  let settings ← s.readPeerSettings stream reserves
  require (s.receiveSettings settings)

end BootstrapState

/-- A profile that is ready: the settings of the peer, the sender of the control stream, and what
arrived for its receiver behind the settings. -/
structure ProfileReady where
  peerSettings : Settings
  sender : ControlSender
  received : List UInt8

/-- `into_ready_parts`. -/
def BootstrapState.intoReadyParts (s : BootstrapState) (received : List UInt8) :
    Checked ProfileReady := do
  Checked.assert s.isReady
  let peerSettings ← Checked.expect "ProfileReady requires validated peer SETTINGS" s.peerSettings
  return ⟨peerSettings, ⟨s.localSettings, peerSettings, .clean⟩, received⟩

/-- What the transport and the allocator answered a bootstrap so far. The control stream that was
opened or accepted says whether it is of 0-RTT. -/
structure BootstrapTransport where
  handshake : HandshakeData
  maxDatagramSize : Option Nat
  side : WireSide
  control : Polled (Except Unit Bool)
  writes : WriteAnswers
  arrived : List UInt8
  stream : StreamEnd
  reserves : Nat → Bool

/-- What a bootstrap came to so far, and the bytes it wrote. -/
abbrev Bootstrapped := Polled (Except BootstrapError ProfileReady) × List UInt8

/-- The peer's settings are received once the own ones were sent. -/
def finishBootstrap (t : BootstrapTransport) (s : BootstrapState) :
    Checked (Polled (Except BootstrapError ProfileReady)) :=
  match s.receivePeerSettings t.stream t.reserves t.arrived with
  | ⟨none, _, _⟩ => .ok none
  | ⟨some (.error (.error e)), _, _⟩ => .ok (some (.error e))
  | ⟨some (.error (.panicked p)), _, _⟩ => .error p
  | ⟨some (.ok s), rest, _⟩ => do
    let ready ← s.intoReadyParts rest
    return some (.ok ready)

/-- `bootstrap_client_control` and `bootstrap_server_control`, by the side that is expected. -/
def bootstrapControl (expected : WireSide) (settings : Settings) (t : BootstrapTransport) :
    Checked Bootstrapped :=
  if t.side ≠ expected then .ok (some (.error (.wrongQuicSide expected t.side)), [])
  else match t.control with
    | none => .ok (none, [])
    | some (.error ()) => .ok (some (.error .connection), [])
    | some (.ok true) => .ok (some (.error .zeroRttControlStream), [])
    | some (.ok false) => do
      match ← (BootstrapState.new settings).sendLocalSettings t.writes with
      | (none, written, _) => return (none, written)
      | (some (.error e), written, _) => return (some (.error e), written)
      | (some (.ok ()), written, s) =>
        let r ← finishBootstrap t s
        return (r, written)

/-- `establish_profile_ready`. -/
def establishProfileReady (expected : WireSide) (settings : Settings) (t : BootstrapTransport) :
    Checked Bootstrapped :=
  match confirmProfileTransport t.handshake t.maxDatagramSize with
  | .error e => .ok (some (.error e), [])
  | .ok () => bootstrapControl expected settings t

/-! ### What a frame is read from -/

section Reading

open StreamReader

theorem checked_gives {α : Type} (x : Except ControlFrameError α) :
    Gives (fun bs a => bs = [] ∧ x = .ok a) (checked x) := by
  refine (Gives.lift _).imp fun bs a h => ⟨h.1, ?_⟩
  cases x with
  | error e => cases h.2
  | ok a' =>
    cases h.2
    rfl

/-- A varint is read from its one encoding, of which `first` is the first byte. -/
theorem readStreamVarintAfterFirst_gives (stream : StreamEnd) (first : UInt8) :
    Gives (fun bs v => v ≤ maxVarint ∧ first :: bs = varintBytes v)
      (readStreamVarintAfterFirst stream first) := by
  have htail : Gives (fun bs a => bs = a ∧ a.length = encodedLenFromFirst first - 1)
      (readVarintTail stream (encodedLenFromFirst first)) := by
    unfold readVarintTail
    split
    · exact .exactly _ _ _
    · rename_i hone
      refine (Gives.pure []).imp fun bs a h => ?_
      rw [h.1, h.2, List.length_nil]
      exact ⟨rfl, by omega⟩
  refine (htail.bind fun rest => (checked_gives _).bind fun decoded =>
    (Gives.lift _).bind fun _ => .pure _).imp ?_
  rintro bs v ⟨rest, cs, ds, rfl, ⟨rfl, hlen⟩, decoded, cs', ds', rfl, ⟨rfl, hdecoded⟩, _, cs'', ds'',
    rfl, ⟨rfl, -⟩, rfl, rfl⟩
  cases hd : decodeVarint (first :: cs) with
  | error e =>
    rw [hd] at hdecoded
    cases hdecoded
  | ok r =>
    obtain ⟨value, consumed⟩ := r
    rw [hd] at hdecoded
    cases hdecoded
    have hconsumed := decodeVarint_consumed hd
    obtain ⟨hle, -, hinput⟩ := decodeVarint_eq_ok.mp hd
    have hall : (first :: cs).drop consumed = [] := by
      rw [List.drop_eq_nil_iff, List.length_cons, hlen, hconsumed, encodedLenFromFirst_eq]
      have hpos := Nat.two_pow_pos (first.toNat / 64)
      omega
    rw [hall, List.append_nil] at hinput
    simp only [List.append_nil]
    exact ⟨hle, hinput⟩

theorem headD_append {first bs cs : List UInt8} (hone : first.length = 1)
    (h : first.headD 0 :: bs = cs) : first ++ bs = cs := by
  obtain ⟨b, rfl⟩ := List.length_eq_one_iff.mp hone
  exact h

theorem readStreamVarint_gives (stream : StreamEnd) :
    Gives (fun bs v => v ≤ maxVarint ∧ bs = varintBytes v) (readStreamVarint stream) := by
  refine ((Gives.exactly _ _ 1).bind fun first =>
    readStreamVarintAfterFirst_gives stream (first.headD 0)).imp ?_
  rintro bs v ⟨first, cs, ds, rfl, ⟨rfl, hone⟩, hle, hbytes⟩
  exact ⟨hle, headD_append hone hbytes⟩

theorem receiveFrameType_gives (stream : StreamEnd) :
    Gives (fun bs frameType => bs = varintBytes frameType.wire) (receiveFrameType stream) := by
  refine ((Gives.exactly _ _ 1).bind fun first =>
    (readStreamVarintAfterFirst_gives stream (first.headD 0)).bind fun value =>
      checked_gives ((ControlFrameType.fromWire value).mapError .unknownFrameType)).imp ?_
  rintro bs frameType ⟨first, cs, _, rfl, ⟨rfl, hone⟩, value, ds, _, rfl, ⟨-, hbytes⟩, rfl, htype⟩
  cases hf : ControlFrameType.fromWire value with
  | error e =>
    rw [hf] at htype
    cases htype
  | ok type =>
    rw [hf] at htype
    cases htype
    rw [← ControlFrameType.fromWire_eq_ok.mp hf, List.append_nil, headD_append hone hbytes]

/-- A body is read from its length and its bytes, and within the limits. -/
theorem receiveFrameBody_gives (stream : StreamEnd) (reserves : Nat → Bool)
    (frameType : ControlFrameType) (control negotiation : Nat) :
    Gives (fun bs f => f.frameType = frameType ∧ f.body.length ≤ control ∧
      bs = varintBytes f.body.length ++ f.body)
      (receiveFrameBody stream reserves frameType control negotiation) := by
  have hbody : ∀ bodyLen, Gives (fun bs f => f = ⟨frameType, bs⟩ ∧ bs.length = bodyLen)
      (if bodyLen = 0 then pure ⟨frameType, []⟩ else do
        let body ← StreamReader.exactly (.body bodyLen)
          (stream.midFrameReadError.map fun error k => .error (error k)) bodyLen
        return ⟨frameType, body⟩ : ControlReader ControlFrame) := by
    intro bodyLen
    split
    · rename_i hzero
      refine (Gives.pure _).imp ?_
      rintro bs f ⟨rfl, rfl⟩
      exact ⟨rfl, hzero.symm⟩
    · refine ((Gives.exactly _ _ bodyLen).bind fun body => .pure _).imp ?_
      rintro bs f ⟨body, cs, ds, rfl, ⟨rfl, hlen⟩, rfl, rfl⟩
      rw [List.append_nil]
      exact ⟨rfl, hlen⟩
  refine ((readStreamVarint_gives stream).bind fun bodyLen => (checked_gives _).bind fun bodyLen =>
    (Gives.ask _).bind fun _ => (checked_gives _).bind fun _ => hbody bodyLen).imp ?_
  rintro bs f ⟨bodyLen, _, _, rfl, ⟨-, rfl⟩, checkedLen, _, _, rfl, ⟨rfl, hchecked⟩, _, _, _, rfl, rfl,
    _, _, body, rfl, ⟨rfl, -⟩, rfl, hlen⟩
  have hle : bodyLen ≤ control := by
    unfold validateInboundBodyLength at hchecked
    split at hchecked
    · cases hchecked
    · omega
  cases validateInboundBodyLength_ok hchecked
  rw [← hlen] at hle ⊢
  exact ⟨rfl, hle, rfl⟩

theorem receiveFrameType_yields (stream : StreamEnd) :
    Yields (fun _ => True) IsError (receiveFrameType stream) :=
  (Yields.exactly _ short_isError 1).bind fun _ _ =>
    (readStreamVarintAfterFirst_yields stream _).bind fun _ _ =>
      (checked_yields _).imp fun _ _ => trivial

theorem receiveFrameBody_yields (stream : StreamEnd) (reserves : Nat → Bool)
    (frameType : ControlFrameType) (control negotiation : Nat) :
    Yields (fun _ => True) IsError
      (receiveFrameBody stream reserves frameType control negotiation) := by
  refine Yields.bind (Q := fun _ => True) ?_ fun bodyLen _ => ?_
  · exact (Yields.exactly _ short_isError 1).bind fun first _ =>
      readStreamVarintAfterFirst_yields stream _
  · refine (checked_yields _).bind fun bodyLen _ => (Yields.ask _).bind fun _ _ =>
      (checked_yields _).bind fun _ _ => ?_
    split
    · exact .pure trivial
    · exact (Yields.exactly _ short_isError _).bind fun _ _ => .pure trivial

end Reading

/-! ### What makes a profile ready -/

/-- The frame in which a side tells its settings. -/
def settingsFrame (settings : Settings) : ControlFrame := ⟨.settings, settings.bytes⟩

theorem Settings.bytes_length_le (s : Settings) : s.bytes.length ≤ maxSettingsBodyBytes := by
  have h1 := varintBytes_length_le s.maxControlFrameBytes
  have h2 := varintBytes_length_le s.maxNegotiationFrameBytes
  have h3 := varintBytes_length_le s.maxActiveIncomingFlows
  have h4 := varintBytes_length_le s.maxIncomingMessageBytes
  simp only [bytes, List.length_append, List.length_singleton, maxSettingsBodyBytes]
  omega

theorem settingsFrame_ne {settings : Settings} : frameBytes (settingsFrame settings) ≠ [] := by
  have hwire : varintBytes ControlFrameType.settings.wire ≠ [] := by decide
  exact List.append_ne_nil_of_left_ne_nil hwire _

/-- A receiver admits the settings of every peer. -/
theorem settingsFrame_fits {receiver : Settings} (h : receiver.Valid) (s : Settings) :
    Fits receiver (settingsFrame s) := by
  have hlen : (settingsFrame s).body.length ≤ maxSettingsBodyBytes := s.bytes_length_le
  have hmin : maxSettingsBodyBytes ≤ maxVarint ∧ maxSettingsBodyBytes ≤ usizeMax := by decide
  have hcontrol := h.control_ge
  refine ⟨hlen.trans hmin.1, ?_⟩
  rw [validateInboundBodyLength, if_neg (not_lt.mpr (hlen.trans hcontrol)), if_neg, if_neg (by omega)]
  rintro ⟨hnegotiation, -⟩
  cases hnegotiation

namespace BootstrapState

open StreamReader

variable {s : BootstrapState} {stream : StreamEnd} {reserves : Nat → Bool} {peer : Settings}

theorem require_ok {α : Type} {x : Except BootstrapError α} {a : α} :
    x.mapError BootstrapFailure.error = .ok a ↔ x = .ok a := by
  cases x <;> simp [Except.mapError]

theorem require_gives {α : Type} (x : Except BootstrapError α) :
    Gives (fun bs a => bs = [] ∧ x = .ok a) (require x) :=
  (Gives.lift _).imp fun _ _ h => ⟨h.1, require_ok.mp h.2⟩

theorem validateInboundType_ok {frameType : ControlFrameType} (hnone : s.peerSettings = none) :
    s.validateInboundType frameType = .ok () ↔ frameType = .settings := by
  unfold validateInboundType isReady
  rw [hnone, Option.isSome_none, Bool.and_false]
  by_cases h : frameType = .settings <;> simp [h]

theorem receiveSettings_ok {s' : BootstrapState} (hnone : s.peerSettings = none) :
    s.receiveSettings peer = .ok s' ↔
      peer.semanticRole = s.localSettings.semanticRole.opposite ∧
        s' = { s with peerSettings := some peer } := by
  unfold receiveSettings
  rw [hnone]
  by_cases h : peer.semanticRole = s.localSettings.semanticRole.opposite
  · simp [h, eq_comm]
  · simp [h]

/-- The settings that are read are valid ones, and stand in the one frame that tells them. -/
theorem readPeerSettings_gives (hnone : s.peerSettings = none) :
    Gives (fun bs p => p.Valid ∧ bs = frameBytes (settingsFrame p))
      (s.readPeerSettings stream reserves) := by
  refine ((receiveFrameType_gives stream).mapError.bind fun frameType =>
    (require_gives _).bind fun _ => (receiveFrameBody_gives stream reserves frameType _ _).mapError.bind
      fun frame => require_gives _).imp ?_
  rintro bs p ⟨frameType, _, _, rfl, rfl, _, _, _, rfl, ⟨rfl, htype⟩, frame, _, _, rfl,
    ⟨rfl, -, rfl⟩, rfl, hdecoded⟩
  have hdecode : Settings.decode frame.body = .ok p := by
    cases hd : Settings.decode frame.body with
    | error e =>
      rw [hd] at hdecoded
      cases hdecoded
    | ok p' =>
      rw [hd] at hdecoded
      cases hdecoded
      rfl
  obtain ⟨hvalid, hbody⟩ := Settings.decode_eq_ok.mp hdecode
  rw [(validateInboundType_ok hnone).mp htype, hbody, List.append_nil]
  exact ⟨hvalid, rfl⟩

/-- The frame of valid settings is read. -/
theorem readPeerSettings_takes (s : BootstrapState) (stream : StreamEnd) (hnone : s.peerSettings = none) (hlocal : s.localSettings.Valid)
    (hpeer : peer.Valid) (hreserves : ∀ n, reserves n = true) :
    Takes (s.readPeerSettings stream reserves) (frameBytes (settingsFrame peer)) peer := by
  obtain ⟨hlen, hvalid⟩ := settingsFrame_fits hlocal peer
  refine (receiveFrameType_takes stream .settings).mapError.bind ?_
  refine Takes.before (.lift (require_ok.mpr ((validateInboundType_ok hnone).mpr rfl))) ?_
  refine (receiveFrameBody_takes stream hreserves (f := settingsFrame peer) hlen hvalid).mapError.after
    (.lift ?_)
  rw [settingsFrame, Settings.decode_eq_ok.mpr ⟨hpeer, rfl⟩]
  rfl

/-- The settings that stand first on a stream are told by it. -/
theorem settingsFrame_unique {q : Settings} {rest rest' : List UInt8} (hpeer : peer.Valid)
    (hq : q.Valid)
    (h : frameBytes (settingsFrame peer) ++ rest = frameBytes (settingsFrame q) ++ rest') :
    peer = q ∧ rest = rest' := by
  have hreserves : ∀ n, (fun _ : Nat => true) n = true := fun _ => rfl
  obtain ⟨asked, hfirst⟩ := readPeerSettings_takes ⟨peer, true, none⟩ .waiting rfl hpeer hpeer
    hreserves rest
  obtain ⟨asked', hsecond⟩ := readPeerSettings_takes ⟨peer, true, none⟩ .waiting rfl hpeer hq
    hreserves rest'
  rw [h, hsecond] at hfirst
  cases hfirst
  exact ⟨rfl, rfl⟩

/-- What a frame that came to its end too early is told as. -/
def Short (stream : StreamEnd) (f : BootstrapFailure) : Prop :=
  ∃ e, stream.Short e ∧ f = failureOf e

theorem receiveFrameType_settled (stream : StreamEnd) :
    Settled stream.Short (receiveFrameType stream) :=
  (Settled.exactly _ first_short 1).bind fun _ =>
    (readStreamVarintAfterFirst_settled stream _).bind fun _ => .lift _

theorem receiveFrameBody_settled (stream : StreamEnd) (reserves : Nat → Bool)
    (frameType : ControlFrameType) (control negotiation : Nat) :
    Settled stream.Short (receiveFrameBody stream reserves frameType control negotiation) := by
  refine Settled.bind ?_ fun bodyLen => ?_
  · exact (Settled.exactly _ midFrame_short 1).bind fun first =>
      readStreamVarintAfterFirst_settled stream _
  · refine (Settled.lift _).bind fun bodyLen => (Settled.ask _).bind fun _ =>
      (Settled.lift _).bind fun _ => ?_
    split
    · exact .pure _
    · exact (Settled.exactly _ midFrame_short _).bind fun _ => .pure _

theorem readPeerSettings_settled (s : BootstrapState) (stream : StreamEnd) (reserves : Nat → Bool) :
    Settled (Short stream) (s.readPeerSettings stream reserves) :=
  ((receiveFrameType_settled stream).mapError fun e h => ⟨e, h, rfl⟩).bind fun frameType =>
    (Settled.lift _).bind fun _ =>
      ((receiveFrameBody_settled stream reserves frameType _ _).mapError fun e h =>
        ⟨e, h, rfl⟩).bind fun _ => .lift _

/-- The failures that are errors of the source. -/
def Errs (f : BootstrapFailure) : Prop := ∃ e, f = .error e

theorem require_yields {α : Type} (x : Except BootstrapError α) :
    Yields (fun _ => True) Errs (require x) := by
  refine .lift (fun _ _ => trivial) fun f hf => ?_
  cases x with
  | error e =>
    cases hf
    exact ⟨e, rfl⟩
  | ok a => cases hf

theorem failureOf_errs : ∀ e, IsError e → Errs (failureOf e) := by
  rintro e ⟨error, rfl⟩
  exact ⟨_, rfl⟩

/-- Whatever arrives, the bootstrap does not panic. -/
theorem receivePeerSettings_yields (s : BootstrapState) (stream : StreamEnd)
    (reserves : Nat → Bool) :
    Yields (fun _ => True) Errs (s.receivePeerSettings stream reserves) :=
  Yields.bind (Q := fun _ => True)
    (((receiveFrameType_yields stream).mapError failureOf_errs).bind fun frameType _ =>
      (require_yields _).bind fun _ _ =>
        ((receiveFrameBody_yields stream reserves frameType _ _).mapError failureOf_errs).bind
          fun _ _ => require_yields _)
    fun _ _ => require_yields _

/-! #### The settings in their role -/

theorem receivePeerSettings_gives (hnone : s.peerSettings = none) :
    Gives (fun bs s' => ∃ p : Settings, p.Valid ∧
      p.semanticRole = s.localSettings.semanticRole.opposite ∧
      s' = { s with peerSettings := some p } ∧ bs = frameBytes (settingsFrame p))
      (s.receivePeerSettings stream reserves) := by
  refine ((readPeerSettings_gives hnone).bind fun p => require_gives _).imp ?_
  rintro bs s' ⟨p, _, _, rfl, ⟨hvalid, rfl⟩, rfl, hreceived⟩
  obtain ⟨hrole, hs'⟩ := (receiveSettings_ok hnone).mp hreceived
  exact ⟨p, hvalid, hrole, hs', List.append_nil _⟩

theorem receivePeerSettings_takes (s : BootstrapState) (stream : StreamEnd) (hnone : s.peerSettings = none) (hlocal : s.localSettings.Valid)
    (hpeer : peer.Valid) (hrole : peer.semanticRole = s.localSettings.semanticRole.opposite)
    (hreserves : ∀ n, reserves n = true) :
    Takes (s.receivePeerSettings stream reserves) (frameBytes (settingsFrame peer))
      { s with peerSettings := some peer } :=
  (readPeerSettings_takes s stream hnone hlocal hpeer hreserves).after
    (.lift (require_ok.mpr ((receiveSettings_ok hnone).mpr ⟨hrole, rfl⟩)))

/-- Settings in the same role are refused. -/
theorem receivePeerSettings_mismatch (s : BootstrapState) (stream : StreamEnd) (hnone : s.peerSettings = none)
    (hlocal : s.localSettings.Valid) (hpeer : peer.Valid)
    (hrole : peer.semanticRole ≠ s.localSettings.semanticRole.opposite)
    (hreserves : ∀ n, reserves n = true) :
    Fails (s.receivePeerSettings stream reserves) (frameBytes (settingsFrame peer))
      (.error (.peerRoleMismatch s.localSettings.semanticRole.opposite peer.semanticRole)) := by
  have hrefused : s.receiveSettings peer =
      .error (.peerRoleMismatch s.localSettings.semanticRole.opposite peer.semanticRole) := by
    rw [receiveSettings, hnone, if_neg (by decide), if_pos hrole]
  have hfails : Fails (require (s.receiveSettings peer) : BootstrapReader BootstrapState) []
      (.error (.peerRoleMismatch s.localSettings.semanticRole.opposite peer.semanticRole)) :=
    .lift (by rw [hrefused]; rfl)
  have h := (readPeerSettings_takes s stream hnone hlocal hpeer hreserves).fails
    (g := fun settings => require (s.receiveSettings settings)) hfails
  rwa [List.append_nil] at h

/-- Another frame is refused by its type; only that was asked for. -/
theorem receivePeerSettings_unexpected (s : BootstrapState) (stream : StreamEnd)
    (reserves : Nat → Bool) (hnone : s.peerSettings = none)
    {frameType : ControlFrameType} (htype : frameType ≠ .settings) (more : List UInt8) :
    ∃ asked, s.receivePeerSettings stream reserves (varintBytes frameType.wire ++ more) =
      ⟨some (.error (.error (.unexpectedFrameBeforeReady frameType))), more, asked⟩ ∧
        ∀ r ∈ asked, ∃ n ≤ 7, r = .header n := by
  have hrefused : s.validateInboundType frameType =
      .error (.unexpectedFrameBeforeReady frameType) := by
    rw [validateInboundType, isReady, hnone, Option.isSome_none, Bool.and_false,
      if_neg Bool.false_ne_true, if_neg htype]
  obtain ⟨asked, htaken⟩ := (receiveFrameType_takes stream frameType).mapError (g := failureOf) more
  refine ⟨asked ++ [], bind_run_error ?_, fun r hr => ?_⟩
  · unfold readPeerSettings
    rw [bind_run_ok htaken]
    have hfails : require (s.validateInboundType frameType) more =
        ⟨some (.error (.error (.unexpectedFrameBeforeReady frameType))), more, []⟩ := by
      rw [hrefused]
      rfl
    rw [bind_run_error hfails]
  · rw [List.append_nil] at hr
    have hasks := (receiveFrameType_asks stream).mapError (g := failureOf)
      (varintBytes frameType.wire ++ more)
    rw [htaken] at hasks
    exact hasks r hr

/-! #### The end of the stream -/

theorem readStreamVarintAfterFirst_decides (stream : StreamEnd) (first : UInt8) :
    Decides (readStreamVarintAfterFirst .waiting first) (readStreamVarintAfterFirst stream first) := by
  refine Decides.bind ?_ fun _ => .refl _
  unfold readVarintTail
  split
  · exact .exactly _ _ _
  · exact .refl _

theorem receiveFrameType_decides (stream : StreamEnd) :
    Decides (receiveFrameType .waiting) (receiveFrameType stream) :=
  (Decides.exactly _ _ 1).bind fun _ =>
    (readStreamVarintAfterFirst_decides stream _).bind fun _ => .refl _

theorem receiveFrameBody_decides (stream : StreamEnd) (reserves : Nat → Bool)
    (frameType : ControlFrameType) (control negotiation : Nat) :
    Decides (receiveFrameBody .waiting reserves frameType control negotiation)
      (receiveFrameBody stream reserves frameType control negotiation) := by
  refine Decides.bind ?_ fun bodyLen => ?_
  · exact (Decides.exactly _ _ 1).bind fun _ => readStreamVarintAfterFirst_decides stream _
  · refine (Decides.refl _).bind fun _ => (Decides.refl _).bind fun _ =>
      (Decides.refl _).bind fun _ => ?_
    split
    · exact .refl _
    · exact (Decides.exactly _ _ _).bind fun _ => .refl _

/-- What was received before the stream ended stays so. -/
theorem receivePeerSettings_decides (s : BootstrapState) (stream : StreamEnd)
    (reserves : Nat → Bool) :
    Decides (s.receivePeerSettings .waiting reserves) (s.receivePeerSettings stream reserves) :=
  ((receiveFrameType_decides stream).mapError.bind fun _ => (Decides.refl _).bind fun _ =>
    (receiveFrameBody_decides stream reserves _ _ _).mapError.bind fun _ => .refl _).bind
      fun _ => .refl _

theorem receivePeerSettings_settled (s : BootstrapState) (stream : StreamEnd)
    (reserves : Nat → Bool) : Settled (Short stream) (s.receivePeerSettings stream reserves) :=
  (readPeerSettings_settled s stream reserves).bind fun _ => .lift _

/-! #### The memory for the body -/

theorem receiveFrameBody_falters (stream : StreamEnd) (reserves : Nat → Bool)
    (frameType : ControlFrameType) (control negotiation : Nat) :
    Falters (fun e => e = .error .allocation ∧ ∃ n, reserves n = false)
      (receiveFrameBody stream reserves frameType control negotiation)
      (receiveFrameBody stream (fun _ => true) frameType control negotiation) := by
  refine (Falters.refl _).bind fun bodyLen => (Falters.refl _).bind fun bodyLen =>
    (Falters.refl _).bind fun _ => Falters.bind (.lift ?_) fun _ => .refl _
  cases hn : reserves bodyLen with
  | true => exact .inl rfl
  | false => exact .inr ⟨_, ⟨rfl, bodyLen, hn⟩, rfl⟩

/-- A lack of memory is the only thing that another allocator changes. -/
theorem receivePeerSettings_falters (s : BootstrapState) (stream : StreamEnd)
    (reserves : Nat → Bool) :
    Falters (fun e => e = .error (.frame .allocation) ∧ ∃ n, reserves n = false)
      (s.receivePeerSettings stream reserves) (s.receivePeerSettings stream fun _ => true) := by
  refine Falters.bind ((Falters.refl _).bind fun frameType => (Falters.refl _).bind fun _ =>
    Falters.bind ((receiveFrameBody_falters stream reserves frameType _ _).mapError ?_) fun _ =>
      .refl _) fun _ => .refl _
  rintro e ⟨rfl, hn⟩
  exact ⟨rfl, hn⟩

end BootstrapState

/-! ### What a bootstrap comes to -/

/-- The transport carries the profile, and the control stream of the expected side stands. -/
structure Confirmed (expected : WireSide) (t : BootstrapTransport) : Prop where
  handshake : t.handshake = .quic (some runennetAlpn)
  datagrams : t.maxDatagramSize.isSome
  side : t.side = expected
  control : t.control = some (.ok false)

/-- What the send of the local settings came to. -/
def settingsSent (settings : Settings) (t : BootstrapTransport) : Sent :=
  sendFrameRaw t.writes .settings settings.bytes

variable {expected : WireSide} {settings : Settings} {t : BootstrapTransport}

theorem settingsSent_wrote (settings : Settings) (t : BootstrapTransport) :
    Wrote (frameBytes (settingsFrame settings)) (settingsSent settings t) :=
  sendFrameRaw_wrote t.writes (f := settingsFrame settings)
    (settings.bytes_length_le.trans (by decide))

/-- The settings are out when all their bytes are. -/
theorem settingsSent_whole : (settingsSent settings t).1 = some (.ok ()) ↔
    (settingsSent settings t).2.1 = frameBytes (settingsFrame settings) := by
  have hwrote := settingsSent_wrote settings t
  rcases hrun : settingsSent settings t with ⟨r, written, left⟩
  rw [hrun] at hwrote
  rcases hwrote with ⟨hr, hwritten⟩ | ⟨hr, part, hpart, heq⟩
  · exact ⟨fun _ => hwritten, fun _ => hr⟩
  · refine ⟨fun h => absurd h hr, fun h => ?_⟩
    rw [← h] at heq
    exact absurd (List.self_eq_append_right.mp heq) hpart

/-- The state in which the settings of the peer are awaited. -/
def BootstrapState.sent (settings : Settings) : BootstrapState := ⟨settings, true, none⟩

/-- A bootstrap stops at its transport, or in the send of its settings, or receives. -/
inductive Establishes (expected : WireSide) (settings : Settings) (t : BootstrapTransport) :
    Bootstrapped → Prop where
  | unconfirmed {r : Polled (Except BootstrapError ProfileReady)} (h : ¬ Confirmed expected t)
      (hr : ∀ ready, r ≠ some (.ok ready)) : Establishes expected settings t (r, [])
  | sending {written : List UInt8} {left : WriteAnswers} (h : Confirmed expected t)
      (hsent : settingsSent settings t = (none, written, left)) :
      Establishes expected settings t (none, written)
  | failing {e : ControlFrameError} {written : List UInt8} {left : WriteAnswers}
      (h : Confirmed expected t) (hsent : settingsSent settings t = (some (.error e), written, left)) :
      Establishes expected settings t (some (.error (.frame e)), written)
  | receiving {r : Polled (Except BootstrapError ProfileReady)} (h : Confirmed expected t)
      (hsent : (settingsSent settings t).1 = some (.ok ()))
      (hr : finishBootstrap t (.sent settings) = .ok r) :
      Establishes expected settings t (r, frameBytes (settingsFrame settings))

/-- The profile is ready with the settings that the peer encoded. -/
structure ProfileReady.Received (settings : Settings) (t : BootstrapTransport)
    (ready : ProfileReady) : Prop where
  valid : ready.peerSettings.Valid
  role : ready.peerSettings.semanticRole = settings.semanticRole.opposite
  arrived : t.arrived = frameBytes (settingsFrame ready.peerSettings) ++ ready.received
  sender : ready.sender = ⟨settings, ready.peerSettings, .clean⟩

/-- What the peer's settings are received as. -/
def peerReceived (settings : Settings) (t : BootstrapTransport) :
    Outcome ReceiveRequest BootstrapState.BootstrapFailure BootstrapState :=
  (BootstrapState.sent settings).receivePeerSettings t.stream t.reserves t.arrived

theorem finishBootstrap_taken {peer : Settings} {rest : List UInt8} {asked : List ReceiveRequest}
    (hrun : peerReceived settings t =
      ⟨some (.ok { BootstrapState.sent settings with peerSettings := some peer }), rest, asked⟩) :
    finishBootstrap t (.sent settings) =
      .ok (some (.ok ⟨peer, ⟨settings, peer, .clean⟩, rest⟩)) := by
  unfold peerReceived at hrun
  rw [finishBootstrap, hrun]
  rfl

theorem finishBootstrap_failed {e : BootstrapError}
    (hresult : (peerReceived settings t).result = some (.error (.error e))) :
    finishBootstrap t (.sent settings) = .ok (some (.error e)) := by
  rcases hrun : peerReceived settings t with ⟨result, rest, asked⟩
  rw [hrun] at hresult
  cases hresult
  unfold peerReceived at hrun
  rw [finishBootstrap, hrun]

/-- What is received decides what the bootstrap comes to. -/
theorem finishBootstrap_cases (settings : Settings) (t : BootstrapTransport) :
    ((peerReceived settings t).result = none ∧ finishBootstrap t (.sent settings) = .ok none) ∨
      (∃ e, (peerReceived settings t).result = some (.error (.error e)) ∧
        finishBootstrap t (.sent settings) = .ok (some (.error e))) ∨
      ∃ (ready : ProfileReady) (asked : List ReceiveRequest), ready.Received settings t ∧
        peerReceived settings t = ⟨some (.ok { BootstrapState.sent settings with
          peerSettings := some ready.peerSettings }), ready.received, asked⟩ ∧
        finishBootstrap t (.sent settings) = .ok (some (.ok ready)) := by
  obtain ⟨-, herror⟩ :=
    (BootstrapState.sent settings).receivePeerSettings_yields t.stream t.reserves t.arrived
  rcases hrun : peerReceived settings t with ⟨_ | (e | p) | s', rest, asked⟩
  · refine .inl ⟨rfl, ?_⟩
    unfold peerReceived at hrun
    rw [finishBootstrap, hrun]
  · exact .inr (.inl ⟨e, rfl, finishBootstrap_failed (congrArg Outcome.result hrun)⟩)
  · obtain ⟨e, he⟩ := herror (.panicked p) (congrArg Outcome.result hrun)
    cases he
  · obtain ⟨bs, harrived, peer, hvalid, hrole, rfl, rfl⟩ :=
      BootstrapState.receivePeerSettings_gives (s := .sent settings) rfl _ _ _ _ hrun
    exact .inr (.inr ⟨⟨peer, ⟨settings, peer, .clean⟩, rest⟩, asked,
      ⟨hvalid, hrole, harrived, rfl⟩, rfl, finishBootstrap_taken hrun⟩)

theorem confirmProfileTransport_ok {handshake : HandshakeData} {maxDatagramSize : Option Nat} :
    confirmProfileTransport handshake maxDatagramSize = .ok () ↔
      handshake = .quic (some runennetAlpn) ∧ maxDatagramSize.isSome := by
  cases handshake with
  | missing | unexpected => simp [confirmProfileTransport]
  | quic protocol =>
    unfold confirmProfileTransport
    by_cases hprotocol : protocol = some runennetAlpn
    · cases maxDatagramSize <;> simp [hprotocol]
    · simp [hprotocol]

/-- No bootstrap with valid settings panics. -/
theorem establishProfileReady_establishes (hlocal : settings.Valid) (expected : WireSide)
    (t : BootstrapTransport) :
    ∃ x, establishProfileReady expected settings t = .ok x ∧ Establishes expected settings t x := by
  unfold establishProfileReady
  cases hconfirm : confirmProfileTransport t.handshake t.maxDatagramSize with
  | error e =>
    refine ⟨_, rfl, .unconfirmed (fun h => ?_) fun _ h => by cases h⟩
    rw [confirmProfileTransport_ok.mpr ⟨h.handshake, h.datagrams⟩] at hconfirm
    cases hconfirm
  | ok _ =>
    obtain ⟨hhandshake, hdatagrams⟩ := confirmProfileTransport_ok.mp hconfirm
    simp only [bootstrapControl]
    by_cases hside : t.side = expected
    · rw [if_neg (not_not.mpr hside)]
      rcases hcontrol : t.control with _ | ⟨⟨⟩⟩ | _ | _
      · exact ⟨_, rfl, .unconfirmed (fun h => by cases hcontrol ▸ h.control) fun _ h => by cases h⟩
      · exact ⟨_, rfl, .unconfirmed (fun h => by cases hcontrol ▸ h.control) fun _ h => by cases h⟩
      · have hconfirmed : Confirmed expected t := ⟨hhandshake, hdatagrams, hside, hcontrol⟩
        have hsend : (BootstrapState.new settings).sendLocalSettings t.writes =
            match settingsSent settings t with
            | (none, written, _) => .ok (none, written, .new settings)
            | (some (.error e), written, _) => .ok (some (.error (.frame e)), written, .new settings)
            | (some (.ok ()), written, _) => .ok (some (.ok ()), written, .sent settings) := by
          rw [BootstrapState.sendLocalSettings, BootstrapState.new]
          simp only [Settings.encode_eq hlocal]
          rfl
        have hwrote := settingsSent_wrote settings t
        rw [hsend]
        rcases hsent : settingsSent settings t with ⟨_ | e | ⟨⟨⟩⟩, written, left⟩
        · exact ⟨_, rfl, .sending hconfirmed hsent⟩
        · exact ⟨_, rfl, .failing hconfirmed hsent⟩
        · rw [hsent] at hwrote
          have hwritten : written = frameBytes (settingsFrame settings) := by
            rcases hwrote with ⟨-, hwritten⟩ | ⟨hne, -⟩
            · exact hwritten
            · exact absurd rfl hne
          have hfinish : ∃ r, finishBootstrap t (.sent settings) = .ok r := by
            rcases finishBootstrap_cases settings t with ⟨-, h⟩ | ⟨e, -, h⟩ | ⟨ready, _, -, -, h⟩
            · exact ⟨_, h⟩
            · exact ⟨_, h⟩
            · exact ⟨_, h⟩
          obtain ⟨r, hr⟩ := hfinish
          refine ⟨(r, written), ?_, ?_⟩
          · simp only [bind, Except.bind, hr]
            rfl
          · rw [hwritten]
            exact .receiving hconfirmed (by rw [hsent]) hr
      · exact ⟨_, rfl, .unconfirmed (fun h => by cases hcontrol ▸ h.control) fun _ h => by cases h⟩
    · rw [if_pos hside]
      exact ⟨_, rfl, .unconfirmed (fun h => hside h.side) fun _ h => by cases h⟩

/-- Nothing but the whole settings was written, and this only on a confirmed transport. -/
theorem Establishes.written {x : Bootstrapped} (h : Establishes expected settings t x) :
    x.2 <+: frameBytes (settingsFrame settings) ∧ (x.2 ≠ [] → Confirmed expected t) := by
  have hwrote := settingsSent_wrote settings t
  cases h with
  | unconfirmed h hr => exact ⟨List.nil_prefix, fun h => absurd rfl h⟩
  | sending h hsent | failing h hsent =>
    rw [hsent] at hwrote
    rcases hwrote with ⟨hr, -⟩ | ⟨-, part, -, hpart⟩
    · cases hr
    · exact ⟨⟨part, hpart.symm⟩, fun _ => h⟩
  | receiving h hsent hr => exact ⟨List.prefix_rfl, fun _ => h⟩

/-- The profile is ready only when its transport is confirmed, its own settings are written whole and
those of the peer arrived. -/
theorem Establishes.ready {ready : ProfileReady} {written : List UInt8}
    (h : Establishes expected settings t (some (.ok ready), written)) :
    Confirmed expected t ∧ written = frameBytes (settingsFrame settings) ∧
      ready.Received settings t := by
  cases h with
  | unconfirmed h hr => exact absurd rfl (hr ready)
  | receiving h hsent hr =>
    rcases finishBootstrap_cases settings t with ⟨-, hnone⟩ | ⟨e, -, herror⟩ |
      ⟨ready', _, hready, -, hok⟩
    · rw [hr] at hnone
      cases hnone
    · rw [hr] at herror
      cases herror
    · rw [hr] at hok
      cases hok
      exact ⟨h, rfl, hready⟩

/-- On a confirmed transport what was written is what the send of the settings wrote. -/
theorem Establishes.written_eq {x : Bootstrapped} (h : Establishes expected settings t x)
    (hconfirmed : Confirmed expected t) : x.2 = (settingsSent settings t).2.1 := by
  cases h with
  | unconfirmed h hr => exact absurd hconfirmed h
  | sending h hsent | failing h hsent => rw [hsent]
  | receiving h hsent hr => exact (settingsSent_whole.mp hsent).symm

/-- Where the settings were sent whole, the rest is decided by what is received. -/
theorem Establishes.sent {x : Bootstrapped} (h : Establishes expected settings t x)
    (hconfirmed : Confirmed expected t)
    (hwritten : x.2 = frameBytes (settingsFrame settings)) :
    finishBootstrap t (.sent settings) = .ok x.1 := by
  have hsent := settingsSent_whole.mpr ((h.written_eq hconfirmed).symm.trans hwritten)
  cases h with
  | unconfirmed h hr => exact absurd hconfirmed h
  | receiving h hwhole hr => exact hr
  | sending h hrun | failing h hrun =>
    rw [hrun] at hsent
    cases hsent

/-- What a bootstrap with valid settings comes to, whatever the transport answers. -/
theorem bootstrap_exact (hlocal : settings.Valid) (expected : WireSide) (t : BootstrapTransport) :
    ∃ (r : Polled (Except BootstrapError ProfileReady)) (written : List UInt8),
      establishProfileReady expected settings t = .ok (r, written) ∧
      written <+: frameBytes (settingsFrame settings) ∧ (written ≠ [] → Confirmed expected t) ∧
      (∀ ready, r = some (.ok ready) → Confirmed expected t ∧
        written = frameBytes (settingsFrame settings) ∧ ready.Received settings t) ∧
      (Confirmed expected t → written = frameBytes (settingsFrame settings) →
        (∀ type more, type ≠ .settings → t.arrived = varintBytes type.wire ++ more →
          r = some (.error (.unexpectedFrameBeforeReady type)) ∧
            ∀ q ∈ (peerReceived settings t).asked, ∃ n ≤ 7, q = .header n) ∧
        ((∀ n, t.reserves n = true) → ∀ peer more, peer.Valid →
          t.arrived = frameBytes (settingsFrame peer) ++ more →
            (peer.semanticRole = settings.semanticRole.opposite →
              r = some (.ok ⟨peer, ⟨settings, peer, .clean⟩, more⟩)) ∧
            (peer.semanticRole ≠ settings.semanticRole.opposite →
              r = some (.error (.peerRoleMismatch settings.semanticRole.opposite
                peer.semanticRole))))) := by
  obtain ⟨⟨r, written⟩, hrun, hx⟩ := establishProfileReady_establishes hlocal expected t
  refine ⟨r, written, hrun, hx.written.1, hx.written.2, fun ready hr => ?_, fun hconfirmed hwritten =>
    ⟨fun type more htype harrived => ?_, fun hreserves peer more hpeer harrived => ?_⟩⟩
  · subst hr
    exact hx.ready
  · obtain ⟨asked, hreceived, hasked⟩ := BootstrapState.receivePeerSettings_unexpected
      (.sent settings) t.stream t.reserves rfl htype more
    rw [← harrived] at hreceived
    have hfinish := hx.sent hconfirmed hwritten
    rw [finishBootstrap, hreceived] at hfinish
    cases hfinish
    refine ⟨rfl, ?_⟩
    rw [peerReceived, hreceived]
    exact hasked
  · have hfinish := hx.sent hconfirmed hwritten
    refine ⟨fun hrole => ?_, fun hrole => ?_⟩
    · obtain ⟨asked, htaken⟩ := BootstrapState.receivePeerSettings_takes (.sent settings)
        t.stream rfl hlocal hpeer hrole hreserves more
      rw [← harrived] at htaken
      rw [finishBootstrap_taken htaken] at hfinish
      cases hfinish
      rfl
    · obtain ⟨asked, hrefused⟩ := BootstrapState.receivePeerSettings_mismatch (.sent settings)
        t.stream rfl hlocal hpeer hrole hreserves more
      rw [← harrived] at hrefused
      rw [finishBootstrap, hrefused] at hfinish
      cases hfinish
      rfl

/-- The settings of the samples. -/
def Settings.sample (semanticRole : SemanticRole) : Settings := ⟨semanticRole, 64, 64, 1, 1⟩

theorem Settings.sample_valid (semanticRole : SemanticRole) :
    (Settings.sample semanticRole).Valid where
  validated := by cases semanticRole <;> rfl
  maxControlFrameBytes := by cases semanticRole <;> decide
  maxNegotiationFrameBytes := by cases semanticRole <;> decide
  maxActiveIncomingFlows := by cases semanticRole <;> decide
  maxIncomingMessageBytes := by cases semanticRole <;> decide

def BootstrapTransport.sample : BootstrapTransport where
  handshake := .quic (some runennetAlpn)
  maxDatagramSize := some 1200
  side := .client
  control := some (.ok false)
  writes := [.ok 64, .ok 64, .ok 64]
  arrived := frameBytes (settingsFrame (.sample .authority))
  stream := .waiting
  reserves := fun _ => true

theorem bootstrap_exact_sample : ∃ written, establishProfileReady .client (.sample .nonAuthority)
    .sample = .ok (some (.ok ⟨.sample .authority,
      ⟨.sample .nonAuthority, .sample .authority, .clean⟩, []⟩), written) ∧
    written = frameBytes (settingsFrame (.sample .nonAuthority)) := by
  have hvalid := Settings.sample_valid
  have hconfirmed : Confirmed .client .sample := ⟨rfl, rfl, rfl, rfl⟩
  obtain ⟨r, written, hrun, -, -, -, hsent⟩ :=
    bootstrap_exact (hvalid .nonAuthority) .client .sample
  obtain ⟨x, hx, hestablishes⟩ :=
    establishProfileReady_establishes (hvalid .nonAuthority) .client .sample
  rw [hrun] at hx
  cases hx
  have hwritten : written = frameBytes (settingsFrame (.sample .nonAuthority)) :=
    (hestablishes.written_eq hconfirmed).trans (settingsSent_whole.mp rfl)
  have hready := ((hsent hconfirmed hwritten).2 (fun _ => rfl) (.sample .authority) []
    (hvalid .authority) (List.append_nil _).symm).1 rfl
  exact ⟨written, hready ▸ hrun, hwritten⟩

end RunenNet

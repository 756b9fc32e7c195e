import RunenNet.Quic.Settings

/-!
# Canonical control bodies

Each control body and the SETTINGS body have one encoding, no longer than the buffer it is written
into, and are decoded from nothing else.
-/

namespace RunenNet

open Foundation Reader

theorem readVarint_exact : Exact readVarint (· ≤ maxVarint) varintBytes :=
  varintReader_exact ControlBodyError.varInt

theorem readFlowId_exact : Exact readFlowId (fun _ => True) fun f => varintBytes f.value :=
  fun input f rest => by
    simp only [readFlowId, bind_eq_ok, readVarint_exact _ _ _, true_and]
    constructor
    · rintro ⟨value, mid, ⟨hle, rfl⟩, h⟩
      rw [FlowId.fromWire, dif_neg (not_lt.mpr hle)] at h
      cases pure_eq_ok.mp h
      rfl
    · rintro rfl
      refine ⟨f.value, rest, ⟨f.le_max, rfl⟩, ?_⟩
      rw [FlowId.fromWire_value]
      rfl

/-! ### Writing -/

theorem pushVarint_eq {body : List UInt8} {value : Nat} (hv : value ≤ maxVarint)
    (hb : body.length ≤ 16) : pushVarint body value = .ok (body ++ varintBytes value) := by
  obtain ⟨bs, h, -, hpush⟩ := pushVarint_ok body hv hb
  rw [encodeVarint_eq hv, Except.ok.injEq] at h
  rw [hpush, h]

/-! ### Bodies -/

namespace FlowAccept

def bytes (a : FlowAccept) : List UInt8 := varintBytes a.flowId.value

theorem encode_eq (a : FlowAccept) : a.encode = .ok a.bytes :=
  pushVarint_eq a.flowId.le_max (Nat.zero_le _)

theorem reader_exact : Exact reader (fun _ => True) bytes := fun input a rest => by
  simp only [reader, bind_eq_ok, pure_eq_ok, readFlowId_exact _ _ _, true_and, bytes]
  constructor
  · rintro ⟨f, mid, rfl, heq⟩
    cases heq
    rfl
  · rintro rfl
    exact ⟨a.flowId, rest, rfl, rfl⟩

theorem canonical : Canonical (fun _ => True) encode decode :=
  reader_exact.canonical fun a _ => a.encode_eq

end FlowAccept

namespace FlowRejectReason

theorem wire_le (r : FlowRejectReason) : r.wire ≤ maxVarint := by cases r <;> decide

theorem fromWire_eq_ok (v : Nat) (r : FlowRejectReason) : fromWire v = .ok r ↔ v = r.wire := by
  constructor
  · intro h
    unfold fromWire at h
    split at h
    all_goals cases h
    all_goals rfl
  · rintro rfl
    cases r <;> rfl

end FlowRejectReason

namespace FlowTerminateReason

theorem wire_le (r : FlowTerminateReason) : r.wire ≤ maxVarint := by cases r <;> decide

theorem fromWire_eq_ok (v : Nat) (r : FlowTerminateReason) : fromWire v = .ok r ↔ v = r.wire := by
  constructor
  · intro h
    unfold fromWire at h
    split at h
    all_goals cases h
    all_goals rfl
  · rintro rfl
    cases r <;> rfl

end FlowTerminateReason

/-- A `FlowId` and a value of an enumeration. -/
theorem two_exact {α β : Type} {fromWire : Nat → Except ControlBodyError β} {wire : β → Nat}
    (hle : ∀ b, wire b ≤ maxVarint) (h : ∀ v b, fromWire v = .ok b ↔ v = wire b)
    (mk : FlowId → β → α) {flowId : α → FlowId} {reason : α → β}
    (hmk : ∀ f b a, a = mk f b ↔ flowId a = f ∧ reason a = b) :
    Exact (do
      let flowId ← readFlowId
      let value ← readVarint
      let reason ← Reader.lift (fromWire value)
      return mk flowId reason) (fun _ => True)
      fun a => varintBytes (flowId a).value ++ varintBytes (wire (reason a)) := fun input a rest => by
  simp only [bind_eq_ok, pure_eq_ok, readFlowId_exact _ _ _, readVarint_exact _ _ _, lift_eq_ok, h,
    true_and, Prod.mk.injEq, hmk, List.append_assoc]
  constructor
  · rintro ⟨f, _, rfl, _, _, ⟨-, rfl⟩, b, _, ⟨rfl, rfl⟩, ⟨rfl, rfl⟩, rfl⟩
    rfl
  · rintro rfl
    exact ⟨_, _, rfl, _, rest, ⟨hle _, rfl⟩, _, rest, ⟨rfl, rfl⟩, ⟨rfl, rfl⟩, rfl⟩

theorem two_encode (f : FlowId) {value : Nat} (hv : value ≤ maxVarint) :
    (do let body ← pushVarint [] f.value; pushVarint body value) =
      .ok (varintBytes f.value ++ varintBytes value) := by
  rw [pushVarint_eq f.le_max (Nat.zero_le _), Checked.ok_bind, List.nil_append]
  exact pushVarint_eq hv ((varintBytes_length_le _).trans (by decide))

theorem FlowReject.canonical : Canonical (fun _ => True) FlowReject.encode FlowReject.decode :=
  (two_exact FlowRejectReason.wire_le FlowRejectReason.fromWire_eq_ok
    FlowReject.mk fun _ _ a => by cases a; simp).canonical
    fun r _ => two_encode r.flowId r.reason.wire_le

theorem FlowTerminate.canonical :
    Canonical (fun _ => True) FlowTerminate.encode FlowTerminate.decode :=
  (two_exact FlowTerminateReason.wire_le FlowTerminateReason.fromWire_eq_ok
    FlowTerminate.mk fun _ _ a => by cases a; simp).canonical
    fun t _ => two_encode t.flowId t.reason.wire_le

theorem encodeDeliveryMode_le (m : DeliveryMode) : encodeDeliveryMode m ≤ maxVarint := by
  cases m <;> decide

theorem decodeDeliveryMode_eq_ok (v : Nat) (m : DeliveryMode) :
    decodeDeliveryMode v = .ok m ↔ v = encodeDeliveryMode m := by
  constructor
  · intro h
    unfold decodeDeliveryMode at h
    split at h
    all_goals cases h
    all_goals rfl
  · rintro rfl
    cases m <;> rfl

namespace OpenFlow

/-- The values that `OpenFlow.new` builds. -/
def Valid (o : OpenFlow) : Prop := new o.flowId o.deliveryMode o.maxMessageBytes = .ok o

theorem valid_iff {o : OpenFlow} : o.Valid ↔ o.maxMessageBytes ≠ 0 ∧ o.maxMessageBytes ≤ maxVarint := by
  unfold Valid new
  split
  · rename_i h
    exact ⟨nofun, fun h' => absurd h h'.1⟩
  · rename_i h0
    split
    · rename_i h
      exact ⟨nofun, fun h' => absurd h'.2 (not_le.mpr h)⟩
    · rename_i hmax
      exact ⟨fun _ => ⟨h0, not_lt.mp hmax⟩, fun _ => rfl⟩

def bytes (o : OpenFlow) : List UInt8 :=
  varintBytes o.flowId.value ++ (varintBytes (encodeDeliveryMode o.deliveryMode) ++
    varintBytes o.maxMessageBytes)

theorem encode_eq {o : OpenFlow} (h : o.Valid) : o.encode = .ok o.bytes := by
  have hf := varintBytes_length_le o.flowId.value
  have hm := varintBytes_length_le (encodeDeliveryMode o.deliveryMode)
  rw [encode, pushVarint_eq o.flowId.le_max (Nat.zero_le _), Checked.ok_bind, List.nil_append,
    pushVarint_eq (encodeDeliveryMode_le _) (by omega), Checked.ok_bind,
    pushVarint_eq (valid_iff.mp h).2 (by rw [List.length_append]; omega), List.append_assoc]
  rfl

theorem reader_exact : Exact reader Valid bytes := fun input o rest => by
  simp only [reader, bind_eq_ok, readFlowId_exact _ _ _, readVarint_exact _ _ _, lift_eq_ok,
    decodeDeliveryMode_eq_ok, true_and, bytes, List.append_assoc]
  constructor
  · rintro ⟨f, _, rfl, _, _, ⟨-, rfl⟩, m, _, ⟨rfl, rfl⟩, n, _, ⟨hn, rfl⟩, h⟩
    split at h
    · cases h
    · rename_i h0
      cases pure_eq_ok.mp h
      exact ⟨valid_iff.mpr ⟨h0, hn⟩, rfl⟩
  · rintro ⟨hvalid, rfl⟩
    obtain ⟨h0, hn⟩ := valid_iff.mp hvalid
    refine ⟨_, _, rfl, _, _, ⟨encodeDeliveryMode_le _, rfl⟩, _, _, ⟨rfl, rfl⟩, _, rest, ⟨hn, rfl⟩, ?_⟩
    rw [if_neg h0]
    rfl

theorem canonical : Canonical Valid encode decode :=
  reader_exact.canonical fun _ h => encode_eq h

end OpenFlow

/-! ### Settings -/

namespace Settings

theorem readVarint_exact : Exact Settings.readVarint (· ≤ maxVarint) varintBytes :=
  varintReader_exact SettingsError.varInt

theorem readRole_exact : Exact readRole (fun _ => True) fun role => [role.wire] :=
  fun input role rest => by
    cases input with
    | nil => simp [readRole]
    | cons b bs =>
      have hrole : SemanticRole.fromWire b = .ok role ↔ b = role.wire := by
        unfold SemanticRole.fromWire
        split
        · cases role <;> simp_all [SemanticRole.wire]
        · split
          · cases role <;> simp_all [SemanticRole.wire]
          · cases role <;> simp_all [SemanticRole.wire]
      simp only [true_and, List.cons_append, List.nil_append, List.cons.injEq, ← hrole]
      unfold readRole
      simp only
      split
      · rename_i e he
        rw [he]
        simp
      · rename_i r hr
        rw [hr]
        simp

/-- The settings that pass validation; every setting is a varint. -/
structure Valid (s : Settings) : Prop where
  validated : s.validate = .ok s
  maxControlFrameBytes : s.maxControlFrameBytes ≤ maxVarint
  maxNegotiationFrameBytes : s.maxNegotiationFrameBytes ≤ maxVarint
  maxActiveIncomingFlows : s.maxActiveIncomingFlows ≤ maxVarint
  maxIncomingMessageBytes : s.maxIncomingMessageBytes ≤ maxVarint

def bytes (s : Settings) : List UInt8 :=
  [s.semanticRole.wire] ++ (varintBytes s.maxControlFrameBytes ++
    (varintBytes s.maxNegotiationFrameBytes ++ (varintBytes s.maxActiveIncomingFlows ++
      varintBytes s.maxIncomingMessageBytes)))

theorem pushVarint_eq {body : List UInt8} {value : Nat} (hv : value ≤ maxVarint)
    (hb : body.length ≤ 25) : Settings.pushVarint body value = .ok (body ++ varintBytes value) := by
  have hfits : body.length + (varintBytes value).length ≤ maxSettingsBodyBytes := by
    have := varintBytes_length_le value
    show _ ≤ 33
    omega
  simp only [Settings.pushVarint, encodeVarint_eq hv, decide_eq_true hfits, Checked.assert_true,
    Checked.ok_bind, Checked.pure_eq]

theorem encode_eq {s : Settings} (h : s.Valid) : s.encode = .ok s.bytes := by
  have h1 := varintBytes_length_le s.maxControlFrameBytes
  have h2 := varintBytes_length_le s.maxNegotiationFrameBytes
  have h3 := varintBytes_length_le s.maxActiveIncomingFlows
  have hrole : pushByte [] s.semanticRole.wire = .ok [s.semanticRole.wire] := rfl
  rw [encode, hrole, Checked.ok_bind,
    pushVarint_eq h.maxControlFrameBytes (by simp), Checked.ok_bind,
    pushVarint_eq h.maxNegotiationFrameBytes (by simp; omega), Checked.ok_bind,
    pushVarint_eq h.maxActiveIncomingFlows (by simp; omega), Checked.ok_bind,
    pushVarint_eq h.maxIncomingMessageBytes (by simp; omega)]
  simp only [bytes, List.append_assoc]

theorem reader_exact : Exact reader (fun s => s.maxControlFrameBytes ≤ maxVarint ∧
    s.maxNegotiationFrameBytes ≤ maxVarint ∧ s.maxActiveIncomingFlows ≤ maxVarint ∧
    s.maxIncomingMessageBytes ≤ maxVarint) bytes := fun input s rest => by
  simp only [reader, bind_eq_ok, readRole_exact _ _ _, readVarint_exact _ _ _, pure_eq_ok, true_and,
    bytes, List.append_assoc]
  constructor
  · rintro ⟨_, _, rfl, _, _, ⟨h1, rfl⟩, _, _, ⟨h2, rfl⟩, _, _, ⟨h3, rfl⟩, _, _, ⟨h4, rfl⟩, heq⟩
    cases heq
    exact ⟨⟨h1, h2, h3, h4⟩, rfl⟩
  · rintro ⟨⟨h1, h2, h3, h4⟩, rfl⟩
    exact ⟨_, _, rfl, _, _, ⟨h1, rfl⟩, _, _, ⟨h2, rfl⟩, _, _, ⟨h3, rfl⟩, _, rest, ⟨h4, rfl⟩, rfl⟩

theorem validate_ok {s s' : Settings} (h : s.validate = .ok s') : s' = s := by
  unfold validate at h
  repeat' split at h
  all_goals cases h
  rfl

theorem decode_eq_ok {input : List UInt8} {s : Settings} :
    decode input = .ok s ↔ s.Valid ∧ input = s.bytes := by
  unfold decode
  constructor
  · intro h
    split at h
    · cases h
    · rename_i s' hparse
      obtain ⟨⟨h1, h2, h3, h4⟩, rfl⟩ := reader_exact.parse_eq_ok.mp hparse
      cases validate_ok h
      exact ⟨⟨h, h1, h2, h3, h4⟩, rfl⟩
  · rintro ⟨h, rfl⟩
    rw [reader_exact.parse_eq_ok.mpr ⟨⟨h.2, h.3, h.4, h.5⟩, rfl⟩]
    exact h.validated

theorem canonical : Canonical Valid encode decode :=
  .of_iff (fun _ => encode_eq) (fun _ _ => decode_eq_ok) fun _ _ _ h h' heq =>
    (reader_exact.prefix_free ⟨h.2, h.3, h.4, h.5⟩ ⟨h'.2, h'.3, h'.4, h'.5⟩ heq).2

end Settings

/-! ### Buffers -/

/-- A buffer that is never overrun, and how much of it is written. -/
def WithinBuffer (x : Checked (List UInt8)) (n : Nat) : Prop :=
  x ≠ .error .assertion ∧ ∀ body, x = .ok body → body.length ≤ n

namespace WithinBuffer

theorem bind {x : Checked (List UInt8)} {f : List UInt8 → Checked (List UInt8)} {n k : Nat}
    (hx : WithinBuffer x n) (hf : ∀ body, body.length ≤ n → WithinBuffer (f body) k) :
    WithinBuffer (x >>= f) k := by
  cases x with
  | error e => exact ⟨hx.1, nofun⟩
  | ok body => exact hf body (hx.2 body rfl)

theorem push {body : List UInt8} {n size value : Nat} {message : String} (hb : body.length ≤ n)
    (hsize : n + 8 ≤ size) : WithinBuffer (match encodeVarint value with
      | .error _ => .error (.expect message)
      | .ok encoded => do
        Checked.assert (body.length + encoded.length ≤ size)
        return body ++ encoded) (n + 8) := by
  rcases le_or_gt value maxVarint with hv | hv
  · have hlen := varintBytes_length_le value
    have hfits : body.length + (varintBytes value).length ≤ size := by omega
    simp only [encodeVarint_eq hv, decide_eq_true hfits, Checked.assert_true, Checked.ok_bind]
    refine ⟨nofun, ?_⟩
    rintro _ ⟨⟩
    rw [List.length_append]
    omega
  · cases he : encodeVarint value with
    | error e => exact ⟨nofun, nofun⟩
    | ok bs => exact absurd (le_maxVarint_of_encode he) (not_le.mpr hv)

end WithinBuffer

theorem OpenFlow.encode_within (o : OpenFlow) : WithinBuffer o.encode maxControlBodyBytes :=
  (WithinBuffer.push (n := 0) (Nat.zero_le _) (by decide)).bind fun _ h1 =>
    (WithinBuffer.push h1 (by decide)).bind fun _ h2 => WithinBuffer.push h2 (by decide)

theorem Settings.encode_within (s : Settings) : WithinBuffer s.encode maxSettingsBodyBytes := by
  have hrole : WithinBuffer (pushByte [] s.semanticRole.wire) 1 := by
    refine ⟨nofun, ?_⟩
    rintro _ ⟨⟩
    exact le_refl 1
  exact hrole.bind fun _ h1 => (WithinBuffer.push h1 (by decide)).bind fun _ h2 =>
    (WithinBuffer.push h2 (by decide)).bind fun _ h3 =>
      (WithinBuffer.push h3 (by decide)).bind fun _ h4 => WithinBuffer.push h4 (by decide)

/-! ### The local profile -/

theorem usizeToWire_ok {value v : Nat} {e : LocalControlLimitError}
    (h : usizeToWire value e = .ok v) : v = value ∧ value ≤ maxVarint := by
  unfold usizeToWire at h
  split at h
  · cases h
  · rename_i hle
    cases h
    exact ⟨rfl, not_lt.mp hle⟩

/-- The settings of a validated profile are valid at the peer. -/
theorem LocalControlLimits.validate_valid {l : LocalControlLimits}
    {resources : ValidatedEndpointResources} {profile : ValidatedControlProfile}
    (h : l.validate resources = .ok profile) : profile.localSettings.Valid := by
  unfold validate at h
  split at h
  · cases h
  · rename_i hcontrol
    split at h
    · cases h
    · rename_i control hcontrolWire
      obtain ⟨rfl, hcontrolMax⟩ := usizeToWire_ok hcontrolWire
      split at h
      · cases h
      · rename_i hnegotiation
        split at h
        · cases h
        · rename_i hexceeds
          split at h
          · cases h
          · rename_i negotiation hnegotiationWire
            obtain ⟨rfl, hnegotiationMax⟩ := usizeToWire_ok hnegotiationWire
            split at h
            · cases h
            · rename_i hmessage
              split at h
              · cases h
              · rename_i hmessageMax
                cases h
                obtain ⟨hpos, hle⟩ := resources.flows
                have hstreams : quicMaxStreamCount ≤ maxVarint := by decide
                refine ⟨?_, hcontrolMax, hnegotiationMax, hle.trans hstreams, not_lt.mp hmessageMax⟩
                have hmin : 0 < maxSettingsBodyBytes ∧ 0 < minNegotiationOfferBodyBytes := by decide
                unfold Settings.validate
                simp only
                rw [if_neg (by omega), if_neg hcontrol, if_neg (by omega), if_neg hnegotiation,
                  if_neg hexceeds, if_neg (by omega), if_neg (not_lt.mpr hle), if_neg hmessage]

/-! ### All codecs -/

/-- The control bodies and SETTINGS have canonical codecs within their buffers, a frame type has
one number, and the settings of a validated profile are decoded by the peer. -/
theorem control_codecs_canonical :
    Canonical OpenFlow.Valid OpenFlow.encode OpenFlow.decode ∧
    Canonical (fun _ => True) FlowAccept.encode FlowAccept.decode ∧
    Canonical (fun _ => True) FlowReject.encode FlowReject.decode ∧
    Canonical (fun _ => True) FlowTerminate.encode FlowTerminate.decode ∧
    Canonical Settings.Valid Settings.encode Settings.decode ∧
    (∀ value type, ControlFrameType.fromWire value = .ok type ↔ value = type.wire) ∧
    (∀ o : OpenFlow, WithinBuffer o.encode maxControlBodyBytes) ∧
    (∀ s : Settings, WithinBuffer s.encode maxSettingsBodyBytes) ∧
    ∀ t limits resources, EndpointResourceLimits.validate t limits = .ok resources →
      ∀ l profile, LocalControlLimits.validate l resources = .ok profile →
        ∃ body, profile.localSettings.encode = .ok body ∧
          Settings.decode body = .ok profile.localSettings :=
  ⟨OpenFlow.canonical, FlowAccept.canonical, FlowReject.canonical, FlowTerminate.canonical,
    Settings.canonical, fun _ _ => ControlFrameType.fromWire_eq_ok, OpenFlow.encode_within,
    Settings.encode_within, fun _ _ _ _ _ _ h =>
      Settings.canonical.decode_encode _ (LocalControlLimits.validate_valid h)⟩

end RunenNet

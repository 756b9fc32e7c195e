import RunenNet.Quic.Varint
import RunenNet.Core.Delivery.Model

/-!
# Flow identifiers and control bodies

A `FlowId` is one varint: its low bit is the side that opened the flow, the rest a sequence that
the cursors of both sides count. The bodies of the flow control frames are sequences of varints,
and each is read back from what was written (`decode_encode` of each body).
-/

namespace RunenNet

open Foundation

def maxFlowSequence : Nat := maxVarint >>> 1

def maxControlBodyBytes : Nat := 24

inductive WireSide where
  | client
  | server
  deriving DecidableEq, Repr

namespace WireSide

def bit : WireSide → Nat
  | .client => 0
  | .server => 1

def fromBit (bit : Nat) : WireSide := if bit = 0 then .client else .server

/-- `opposite_side`. -/
def opposite : WireSide → WireSide
  | .client => .server
  | .server => .client

@[simp] theorem opposite_opposite (s : WireSide) : s.opposite.opposite = s := by cases s <;> rfl

theorem bit_lt (s : WireSide) : s.bit < 2 := by cases s <;> decide

end WireSide

inductive FlowIdError where
  | sequenceOutOfRange
  | wireValueOutOfRange
  deriving DecidableEq, Repr

structure FlowId where
  value : Nat
  le_max : value ≤ maxVarint
  deriving DecidableEq, Repr

namespace FlowId

theorem lor_bit (side : WireSide) (sequence : Nat) :
    sequence <<< 1 ||| side.bit = 2 * sequence + side.bit := by
  rw [← Nat.shiftLeft_add_eq_or_of_lt (show side.bit < 2 ^ 1 from side.bit_lt), Nat.shiftLeft_eq]
  omega

def new (side : WireSide) (sequence : Nat) : Except FlowIdError FlowId :=
  if h : sequence > maxFlowSequence then .error .sequenceOutOfRange
  else .ok ⟨sequence <<< 1 ||| side.bit, by
    have hbit := side.bit_lt
    have hmax : maxVarint = 2 * maxFlowSequence + 1 := rfl
    rw [lor_bit]
    omega⟩

def fromWire (value : Nat) : Except FlowIdError FlowId :=
  if h : value > maxVarint then .error .wireValueOutOfRange
  else .ok ⟨value, not_lt.mp h⟩

def side (f : FlowId) : WireSide := .fromBit (f.value &&& 1)

def sequence (f : FlowId) : Nat := f.value >>> 1

theorem ext_value {f g : FlowId} (h : f.value = g.value) : f = g := by
  cases f
  cases g
  cases h
  rfl

theorem fromWire_value (f : FlowId) : fromWire f.value = .ok f := dif_neg (not_lt.mpr f.le_max)

theorem new_ok (side : WireSide) {sequence : Nat} (h : sequence ≤ maxFlowSequence) :
    ∃ f, new side sequence = .ok f ∧ f.side = side ∧ f.sequence = sequence ∧
      f.value = 2 * sequence + side.bit := by
  refine ⟨_, dif_neg (not_lt.mpr h), ?_, ?_, lor_bit side sequence⟩
  · simp only [FlowId.side, lor_bit, Nat.and_one_is_mod]
    cases side
    · exact if_pos (by simp [WireSide.bit])
    · exact if_neg (by simp [WireSide.bit, Nat.add_mod])
  · have hbit := side.bit_lt
    simp only [FlowId.sequence, lor_bit, Nat.shiftRight_eq_div_pow]
    omega

/-- Side and sequence determine the identifier. -/
theorem value_eq (f : FlowId) : f.value = 2 * f.sequence + f.side.bit := by
  have hbit : (WireSide.fromBit (f.value % 2)).bit = f.value % 2 := by
    rcases Nat.mod_two_eq_zero_or_one f.value with h | h <;> rw [h] <;> rfl
  simp only [FlowId.sequence, FlowId.side, Nat.and_one_is_mod, hbit, Nat.shiftRight_eq_div_pow]
  omega

theorem ext_side {f g : FlowId} (hs : f.side = g.side) (hn : f.sequence = g.sequence) : f = g :=
  ext_value (by rw [f.value_eq, g.value_eq, hs, hn])

end FlowId

/-! ### Cursors -/

inductive FlowIdCursorError where
  | exhausted
  | wrongSide (expected received : WireSide)
  | unexpectedSequence (expected received : Nat)
  deriving DecidableEq, Repr

structure FlowIdCursor where
  side : WireSide
  nextSequence : Option Nat
  deriving DecidableEq, Repr

namespace FlowIdCursor

def new (side : WireSide) : FlowIdCursor := ⟨side, some 0⟩

def advance (c : FlowIdCursor) (sequence : Nat) : FlowIdCursor :=
  { c with nextSequence := if sequence = maxFlowSequence then none else some (sequence + 1) }

def allocate (c : FlowIdCursor) : Checked (Except FlowIdCursorError FlowId × FlowIdCursor) :=
  match c.nextSequence with
  | none => .ok (.error .exhausted, c)
  | some sequence => match FlowId.new c.side sequence with
    | .error _ => .error (.expect "cursor sequence is always inside the FlowId domain")
    | .ok flowId => .ok (.ok flowId, c.advance sequence)

def validateAndConsume (c : FlowIdCursor) (flowId : FlowId) :
    Except FlowIdCursorError Unit × FlowIdCursor :=
  match c.nextSequence with
  | none => (.error .exhausted, c)
  | some expected =>
    if flowId.side ≠ c.side then (.error (.wrongSide c.side flowId.side), c)
    else if flowId.sequence ≠ expected then
      (.error (.unexpectedSequence expected flowId.sequence), c)
    else (.ok (), c.advance expected)

/-- The next sequence is in the domain. -/
def Valid (c : FlowIdCursor) : Prop := ∀ s, c.nextSequence = some s → s ≤ maxFlowSequence

theorem new_valid (side : WireSide) : (new side).Valid := fun s h => by
  cases h
  exact Nat.zero_le _

theorem advance_valid {c : FlowIdCursor} {s : Nat} (h : s ≤ maxFlowSequence) :
    (c.advance s).Valid := fun n hn => by
  simp only [advance] at hn
  split at hn
  · cases hn
  · cases hn
    omega

/-- An allocation takes the next sequence of the cursor's side. -/
theorem allocate_cases {c c' : FlowIdCursor} {r : Except FlowIdCursorError FlowId}
    (h : c.allocate = .ok (r, c')) :
    (c.nextSequence = none ∧ r = .error .exhausted ∧ c' = c) ∨
    ∃ flowId, r = .ok flowId ∧ flowId.side = c.side ∧ c.nextSequence = some flowId.sequence ∧
      c' = c.advance flowId.sequence := by
  unfold allocate at h
  split at h
  · rename_i hn
    cases h
    exact .inl ⟨hn, rfl, rfl⟩
  · rename_i s hn
    rcases le_or_gt s maxFlowSequence with hle | hgt
    · obtain ⟨flowId, hnew, hside, hseq, -⟩ := FlowId.new_ok c.side hle
      rw [hnew] at h
      cases h
      exact .inr ⟨flowId, rfl, hside, by rw [hseq, hn], by rw [hseq]⟩
    · rw [FlowId.new, dif_pos hgt] at h
      cases h

/-- `flowId` is the next identifier of the cursor. -/
def Expects (c : FlowIdCursor) (flowId : FlowId) : Prop :=
  flowId.side = c.side ∧ c.nextSequence = some flowId.sequence

theorem consume_cases {c c' : FlowIdCursor} {flowId : FlowId} {r : Except FlowIdCursorError Unit}
    (h : c.validateAndConsume flowId = (r, c')) :
    (∃ err, r = .error err ∧ c' = c ∧ ¬ c.Expects flowId) ∨
      (r = .ok () ∧ c.Expects flowId ∧ c' = c.advance flowId.sequence) := by
  unfold validateAndConsume at h
  split at h
  · rename_i hn
    cases h
    exact .inl ⟨_, rfl, rfl, fun hexp => absurd (hn.symm.trans hexp.2) nofun⟩
  · rename_i expected hn
    split at h
    · rename_i hside
      cases h
      exact .inl ⟨_, rfl, rfl, fun hexp => hside hexp.1⟩
    · rename_i hside
      split at h
      · rename_i hseq
        cases h
        refine .inl ⟨_, rfl, rfl, fun hexp => hseq ?_⟩
        exact (Option.some.inj (hn.symm.trans hexp.2)).symm
      · rename_i hseq
        rw [not_not] at hside hseq
        cases h
        exact .inr ⟨rfl, ⟨hside, by rw [hn, hseq]⟩, by rw [hseq]⟩

/-- Consuming `flowIds` in order takes the cursor to `c'`. -/
def Runs (c : FlowIdCursor) : List FlowId → FlowIdCursor → Prop
  | [], c' => c' = c
  | f :: fs, c' => c.Expects f ∧ (c.advance f.sequence).Runs fs c'

theorem Runs.snoc {c c' : FlowIdCursor} {fs : List FlowId} {f : FlowId} (h : c.Runs fs c')
    (hf : c'.Expects f) : c.Runs (fs ++ [f]) (c'.advance f.sequence) := by
  induction fs generalizing c with
  | nil =>
    cases h
    exact ⟨hf, rfl⟩
  | cons g fs ih => exact ⟨h.1, ih h.2⟩

theorem Runs.side {c c' : FlowIdCursor} {fs : List FlowId} (h : c.Runs fs c') :
    ∀ f ∈ fs, f.side = c.side := by
  induction fs generalizing c with
  | nil => simp
  | cons g fs ih =>
    intro f hf
    rcases List.mem_cons.mp hf with rfl | hf
    · exact h.1.1
    · exact ih h.2 f hf

theorem Runs.le_sequence {c c' : FlowIdCursor} {fs : List FlowId} (h : c.Runs fs c') {n : Nat}
    (hn : ∀ k, c.nextSequence = some k → n ≤ k) : ∀ f ∈ fs, n ≤ f.sequence := by
  induction fs generalizing c with
  | nil => simp
  | cons g fs ih =>
    intro f hf
    have hg : n ≤ g.sequence := hn _ h.1.2
    rcases List.mem_cons.mp hf with rfl | hf
    · exact hg
    · refine ih h.2 (fun k hk => ?_) f hf
      simp only [advance] at hk
      split at hk
      · cases hk
      · cases hk
        omega

/-- A cursor gives out no identifier twice. -/
theorem Runs.nodup {c c' : FlowIdCursor} {fs : List FlowId} (h : c.Runs fs c') : fs.Nodup := by
  induction fs generalizing c with
  | nil => exact .nil
  | cons g fs ih =>
    refine List.nodup_cons.mpr ⟨fun hmem => ?_, ih h.2⟩
    have hlt : g.sequence + 1 ≤ g.sequence := by
      refine h.2.le_sequence (fun k hk => ?_) g hmem
      simp only [advance] at hk
      split at hk
      · cases hk
      · cases hk
        exact le_rfl
    omega

end FlowIdCursor

/-! ### Control bodies -/

inductive FlowRejectReason where
  | resourceLimit
  | messageLimit
  deriving DecidableEq, Repr

inductive FlowTerminateReason where
  | normal
  | resourceFailure
  | protocolFailure
  | reliableDeliveryFailure
  deriving DecidableEq, Repr

inductive ControlBodyError where
  | varInt (e : VarIntDecodeError)
  | invalidFlowId (e : FlowIdError)
  | unknownDeliveryMode (value : Nat)
  | zeroMaxMessageBytes
  | maxMessageBytesOutOfRange
  | unknownRejectReason (value : Nat)
  | unknownTerminateReason (value : Nat)
  | trailingBytes
  deriving DecidableEq, Repr

/-- `BodyWriter::push_varint` into a buffer of `maxControlBodyBytes`. -/
def pushVarint (body : List UInt8) (value : Nat) : Checked (List UInt8) :=
  match encodeVarint value with
  | .error _ => .error (.expect "control values are validated before encoding")
  | .ok encoded => do
    Checked.assert (body.length + encoded.length ≤ maxControlBodyBytes)
    return body ++ encoded

def readVarint : Reader ControlBodyError Nat := fun input =>
  match decodeVarint input with
  | .error e => .error (.varInt e)
  | .ok (value, consumed) => .ok (value, input.drop consumed)

def readFlowId : Reader ControlBodyError FlowId := do
  let value ← readVarint
  match FlowId.fromWire value with
  | .error e => Reader.fail (.invalidFlowId e)
  | .ok flowId => return flowId

def encodeDeliveryMode : DeliveryMode → Nat
  | .reliableOrdered => 0
  | .unreliableUnordered => 1
  | .unreliableSequenced => 2

def decodeDeliveryMode : Nat → Except ControlBodyError DeliveryMode
  | 0 => .ok .reliableOrdered
  | 1 => .ok .unreliableUnordered
  | 2 => .ok .unreliableSequenced
  | value => .error (.unknownDeliveryMode value)

structure OpenFlow where
  flowId : FlowId
  deliveryMode : DeliveryMode
  maxMessageBytes : Nat
  deriving DecidableEq, Repr

namespace OpenFlow

def new (flowId : FlowId) (deliveryMode : DeliveryMode) (maxMessageBytes : Nat) :
    Except ControlBodyError OpenFlow :=
  if maxMessageBytes = 0 then .error .zeroMaxMessageBytes
  else if maxMessageBytes > maxVarint then .error .maxMessageBytesOutOfRange
  else .ok ⟨flowId, deliveryMode, maxMessageBytes⟩

def encode (o : OpenFlow) : Checked (List UInt8) := do
  let body ← pushVarint [] o.flowId.value
  let body ← pushVarint body (encodeDeliveryMode o.deliveryMode)
  pushVarint body o.maxMessageBytes

def reader : Reader ControlBodyError OpenFlow := do
  let flowId ← readFlowId
  let mode ← readVarint
  let deliveryMode ← Reader.lift (decodeDeliveryMode mode)
  let maxMessageBytes ← readVarint
  if maxMessageBytes = 0 then Reader.fail .zeroMaxMessageBytes
  else return ⟨flowId, deliveryMode, maxMessageBytes⟩

def decode (input : List UInt8) : Except ControlBodyError OpenFlow :=
  Reader.parse (do let o ← reader; Reader.finish .trailingBytes; return o) input

end OpenFlow

structure FlowAccept where
  flowId : FlowId
  deriving DecidableEq, Repr

namespace FlowAccept

def encode (a : FlowAccept) : Checked (List UInt8) := pushVarint [] a.flowId.value

def reader : Reader ControlBodyError FlowAccept := do
  let flowId ← readFlowId
  return ⟨flowId⟩

def decode (input : List UInt8) : Except ControlBodyError FlowAccept :=
  Reader.parse (do let a ← reader; Reader.finish .trailingBytes; return a) input

end FlowAccept

def FlowRejectReason.wire : FlowRejectReason → Nat
  | .resourceLimit => 0
  | .messageLimit => 1

def FlowRejectReason.fromWire : Nat → Except ControlBodyError FlowRejectReason
  | 0 => .ok .resourceLimit
  | 1 => .ok .messageLimit
  | value => .error (.unknownRejectReason value)

structure FlowReject where
  flowId : FlowId
  reason : FlowRejectReason
  deriving DecidableEq, Repr

namespace FlowReject

def encode (r : FlowReject) : Checked (List UInt8) := do
  let body ← pushVarint [] r.flowId.value
  pushVarint body r.reason.wire

def reader : Reader ControlBodyError FlowReject := do
  let flowId ← readFlowId
  let value ← readVarint
  let reason ← Reader.lift (FlowRejectReason.fromWire value)
  return ⟨flowId, reason⟩

def decode (input : List UInt8) : Except ControlBodyError FlowReject :=
  Reader.parse (do let r ← reader; Reader.finish .trailingBytes; return r) input

end FlowReject

def FlowTerminateReason.wire : FlowTerminateReason → Nat
  | .normal => 0
  | .resourceFailure => 1
  | .protocolFailure => 2
  | .reliableDeliveryFailure => 3

def FlowTerminateReason.fromWire : Nat → Except ControlBodyError FlowTerminateReason
  | 0 => .ok .normal
  | 1 => .ok .resourceFailure
  | 2 => .ok .protocolFailure
  | 3 => .ok .reliableDeliveryFailure
  | value => .error (.unknownTerminateReason value)

structure FlowTerminate where
  flowId : FlowId
  reason : FlowTerminateReason
  deriving DecidableEq, Repr

namespace FlowTerminate

def encode (t : FlowTerminate) : Checked (List UInt8) := do
  let body ← pushVarint [] t.flowId.value
  pushVarint body t.reason.wire

def reader : Reader ControlBodyError FlowTerminate := do
  let flowId ← readFlowId
  let value ← readVarint
  let reason ← Reader.lift (FlowTerminateReason.fromWire value)
  return ⟨flowId, reason⟩

def decode (input : List UInt8) : Except ControlBodyError FlowTerminate :=
  Reader.parse (do let t ← reader; Reader.finish .trailingBytes; return t) input

end FlowTerminate

/-! ### Reading back -/

/-- Up to three varints fit the buffer. -/
theorem pushVarint_ok (body : List UInt8) {value : Nat} (hv : value ≤ maxVarint)
    (hb : body.length ≤ 16) : ∃ bs, encodeVarint value = .ok bs ∧ bs.length ≤ 8 ∧
      pushVarint body value = .ok (body ++ bs) := by
  obtain ⟨bs, h, -, hlen⟩ := encodeVarint_ok hv
  refine ⟨bs, h, hlen, ?_⟩
  have hfits : body.length + bs.length ≤ maxControlBodyBytes := by
    show _ ≤ 24
    omega
  simp only [pushVarint, h, decide_eq_true hfits, Checked.assert_true, Checked.ok_bind,
    Checked.pure_eq]

variable {F : ControlBodyError → Prop}

theorem readVarint_reads {value : Nat} {bs : List UInt8} (h : encodeVarint value = .ok bs) :
    Reader.Reads F readVarint bs value := fun rest => by
  left
  simp only [readVarint, decodeVarint_encode h, List.drop_left]

theorem readFlowId_reads {f : FlowId} {bs : List UInt8} (h : encodeVarint f.value = .ok bs) :
    Reader.Reads F readFlowId bs f := by
  refine (readVarint_reads h).before ?_
  rw [FlowId.fromWire_value]
  exact .pure f

/-- With no admitted error, what is read is read. -/
theorem parse_of_reads {α : Type} {p : Reader ControlBodyError α} {bs : List UInt8} {a : α}
    (h : Reader.Reads (fun _ => False) p bs a) :
    Reader.parse (do let a ← p; Reader.finish .trailingBytes; return a) bs = .ok a := by
  rcases h.parse with h | ⟨e, he, -⟩
  · exact h
  · exact he.elim

theorem FlowAccept.decode_encode (a : FlowAccept) :
    ∃ body, a.encode = .ok body ∧ FlowAccept.decode body = .ok a := by
  obtain ⟨bs, h, -, hpush⟩ := pushVarint_ok [] a.flowId.le_max (by simp)
  refine ⟨_, hpush, parse_of_reads ?_⟩
  exact (readFlowId_reads h).before (.pure _)

/-- A `FlowId` and a reason are read back. -/
theorem decode_two {α β : Type} {f : FlowId} {value : Nat} {fromWire : Nat → Except ControlBodyError β}
    {b : β} (hv : value ≤ maxVarint) (hb : fromWire value = .ok b) (mk : FlowId → β → α) :
    ∃ body, (do let body ← pushVarint [] f.value; pushVarint body value) = .ok body ∧
      Reader.Reads (fun _ => False) (do
        let flowId ← readFlowId
        let value ← readVarint
        let reason ← Reader.lift (fromWire value)
        return mk flowId reason) body (mk f b) := by
  obtain ⟨bs, h, hlen, hpush⟩ := pushVarint_ok [] f.le_max (by simp)
  obtain ⟨cs, h', -, hpush'⟩ := pushVarint_ok ([] ++ bs) hv (by simp; omega)
  refine ⟨[] ++ bs ++ cs, by rw [hpush, Checked.ok_bind, hpush'], ?_⟩
  exact (readFlowId_reads h).bind ((readVarint_reads h').before
    (Reader.Reads.andThen (.lift (.inl hb)) (.pure _)))

theorem FlowReject.decode_encode (r : FlowReject) :
    ∃ body, r.encode = .ok body ∧ FlowReject.decode body = .ok r := by
  have hv : r.reason.wire ≤ maxVarint := by cases r.reason <;> decide
  have hb : FlowRejectReason.fromWire r.reason.wire = .ok r.reason := by cases r.reason <;> rfl
  obtain ⟨body, h, hreads⟩ := decode_two (f := r.flowId) hv hb FlowReject.mk
  exact ⟨body, h, parse_of_reads hreads⟩

theorem FlowTerminate.decode_encode (t : FlowTerminate) :
    ∃ body, t.encode = .ok body ∧ FlowTerminate.decode body = .ok t := by
  have hv : t.reason.wire ≤ maxVarint := by cases t.reason <;> decide
  have hb : FlowTerminateReason.fromWire t.reason.wire = .ok t.reason := by
    cases t.reason <;> rfl
  obtain ⟨body, h, hreads⟩ := decode_two (f := t.flowId) hv hb FlowTerminate.mk
  exact ⟨body, h, parse_of_reads hreads⟩

theorem OpenFlow.decode_encode {o : OpenFlow} (h0 : o.maxMessageBytes ≠ 0)
    (hmax : o.maxMessageBytes ≤ maxVarint) :
    ∃ body, o.encode = .ok body ∧ OpenFlow.decode body = .ok o := by
  have hv : encodeDeliveryMode o.deliveryMode ≤ maxVarint := by cases o.deliveryMode <;> decide
  have hb : decodeDeliveryMode (encodeDeliveryMode o.deliveryMode) = .ok o.deliveryMode := by
    cases o.deliveryMode <;> rfl
  obtain ⟨bs, h, hlen, hpush⟩ := pushVarint_ok [] o.flowId.le_max (by simp)
  obtain ⟨cs, h', hlen', hpush'⟩ := pushVarint_ok ([] ++ bs) hv (by simp; omega)
  obtain ⟨ds, h'', -, hpush''⟩ := pushVarint_ok ([] ++ bs ++ cs) hmax (by simp; omega)
  refine ⟨bs ++ (cs ++ ds), ?_, parse_of_reads ?_⟩
  · rw [OpenFlow.encode, hpush, Checked.ok_bind, hpush', Checked.ok_bind, hpush'', List.nil_append,
      List.append_assoc]
  · refine (readFlowId_reads h).bind ((readVarint_reads h').bind ?_)
    refine Reader.Reads.andThen (.lift (.inl hb)) ((readVarint_reads h'').before ?_)
    rw [if_neg h0]
    exact .pure _

end RunenNet

import RunenNet.Core.Protocol
import RunenNet.Quic.Control
import RunenNet.Quic.Varint

/-!
# Negotiation bodies

How offers, proposals and failures are written into control frames and read back under the
receiver's limits. An offer or proposal that was written is read back, or refused by a failure
outcome of the reader; it is never taken for a malformed body (`decodeOffer_encode`,
`decodeProposal_encode`).
-/

namespace RunenNet

open Foundation

inductive NegotiationOutcome where
  | malformedOffer
  | protocolIncompatible
  | requiredCapabilityUnavailable
  | requiredSchemaUnavailable
  | resourceLimitExceeded
  | invalidSelection
  deriving DecidableEq, Repr

inductive NegotiationWireError where
  | varInt (e : VarIntDecodeError)
  | truncated
  | trailingBytes
  | unknownRequirementLevel (value : UInt8)
  | unknownFailureOutcome (value : Nat)
  deriving DecidableEq, Repr

inductive BodyDecodeError where
  | protocol (e : NegotiationWireError)
  | failure (outcome : NegotiationOutcome)
  deriving DecidableEq, Repr

def NegotiationOutcome.wire : NegotiationOutcome → Nat
  | .malformedOffer => 0
  | .protocolIncompatible => 1
  | .requiredCapabilityUnavailable => 2
  | .requiredSchemaUnavailable => 3
  | .resourceLimitExceeded => 4
  | .invalidSelection => 5

def NegotiationOutcome.fromWire : Nat → Except NegotiationWireError NegotiationOutcome
  | 0 => .ok .malformedOffer
  | 1 => .ok .protocolIncompatible
  | 2 => .ok .requiredCapabilityUnavailable
  | 3 => .ok .requiredSchemaUnavailable
  | 4 => .ok .resourceLimitExceeded
  | 5 => .ok .invalidSelection
  | value => .error (.unknownFailureOutcome value)

/-! ### Writing -/

/-- `push_id`: 16 bytes. -/
def pushId (body : List UInt8) (id : Nat) : List UInt8 := body ++ bigEndian 16 id

def pushCount (body : List UInt8) (count : Nat) : Except NegotiationOutcome (List UInt8) :=
  match encodeVarint count with
  | .error _ => .error .resourceLimitExceeded
  | .ok encoded => .ok (body ++ encoded)

def encodeRequirement : RequirementLevel → UInt8
  | .optional => 0
  | .required => 1

def pushProtocol (body : List UInt8) (p : ProtocolContract) : List UInt8 :=
  pushId (pushId body p.id.get) p.revision.get

def pushCapability (body : List UInt8) (c : CapabilityOffer) : List UInt8 :=
  pushId body c.id.get ++ [encodeRequirement c.requirement]

def pushContract (body : List UInt8) (c : SchemaContractOffer) :
    Except NegotiationOutcome (List UInt8) := do
  let body ← pushCount (pushId body c.contractId.get) c.codecs.length
  return c.codecs.foldl (fun body codec => pushId body codec.get) body

def pushSchema (body : List UInt8) (s : SchemaOffer) : Except NegotiationOutcome (List UInt8) := do
  let body ← pushCount (pushId body s.id.get ++ [encodeRequirement s.requirement])
    s.contracts.length
  s.contracts.foldlM pushContract body

def offerBody (o : CompatibilityOffer) : Except NegotiationOutcome (List UInt8) := do
  let body ← pushCount [] o.protocols.length
  let body ← pushCount (o.protocols.foldl pushProtocol body) o.capabilities.length
  let body ← pushCount (o.capabilities.foldl pushCapability body) o.schemas.length
  o.schemas.foldlM pushSchema body

def countLen (count : Nat) : Option Nat := (encodeVarint count).toOption.map List.length

/-- The length of the schemas, added to `total`. -/
def schemaBodyLen (total : Nat) : List SchemaOffer → Option Nat
  | [] => some total
  | s :: rest => do
    let total ← checkedAdd usizeMax total 17
    let total ← checkedAdd usizeMax total (← countLen s.contracts.length)
    let total ← s.contracts.foldlM (fun total c => do
      let total ← checkedAdd usizeMax total 16
      let total ← checkedAdd usizeMax total (← countLen c.codecs.length)
      checkedAddMul total c.codecs.length 16) total
    schemaBodyLen total rest

def offerBodyLen (o : CompatibilityOffer) : Option Nat := do
  let total ← countLen o.protocols.length
  let total ← checkedAddMul total o.protocols.length 32
  let total ← checkedAdd usizeMax total (← countLen o.capabilities.length)
  let total ← checkedAddMul total o.capabilities.length 17
  let total ← checkedAdd usizeMax total (← countLen o.schemas.length)
  schemaBodyLen total o.schemas

/-- The writer's buffer for a body of `len` bytes; `reserves` is the allocator's answer. -/
def writeBody (reserves : Bool) (len : Option Nat) (maxBodyBytes : Nat)
    (body : Except NegotiationOutcome (List UInt8)) :
    Checked (Except NegotiationOutcome (List UInt8)) :=
  match len with
  | none => .ok (.error .resourceLimitExceeded)
  | some len =>
    if len > maxBodyBytes then .ok (.error .resourceLimitExceeded)
    else if ¬ reserves then .ok (.error .resourceLimitExceeded)
    else match body with
      | .error outcome => .ok (.error outcome)
      | .ok body => do
        Checked.assert (body.length = len)
        return .ok body

def encodeOffer (reserves : Bool) (o : CompatibilityOffer) (maxBodyBytes : Nat) :
    Checked (Except NegotiationOutcome (List UInt8)) :=
  if o.diagnosticLabel.isSome then .ok (.error .malformedOffer)
  else writeBody reserves (offerBodyLen o) maxBodyBytes (offerBody o)

/-- An order in which the two hash collections of a contract are iterated. -/
structure ContractOrder (c : NegotiatedContract) where
  capabilities : List CapabilityId
  schemas : List (SchemaId × SelectedSchema)
  capabilities_nodup : capabilities.Nodup
  mem_capabilities : ∀ id, id ∈ capabilities ↔ id ∈ c.capabilities
  schemas_perm : schemas.Perm c.schemas.entries

def pushSelection (body : List UInt8) (e : SchemaId × SelectedSchema) : List UInt8 :=
  pushId (pushId (pushId body e.1.get) e.2.contractId.get) e.2.codecId.get

def proposalBody (c : NegotiatedContract) (order : ContractOrder c) :
    Except NegotiationOutcome (List UInt8) := do
  let body ← pushCount (pushProtocol [] c.protocol) c.capabilities.card
  let body ← pushCount (order.capabilities.foldl (fun body id => pushId body id.get) body)
    c.schemas.size
  return order.schemas.foldl pushSelection body

def proposalBodyLen (c : NegotiatedContract) : Option Nat := do
  let total ← checkedAdd usizeMax 32 (← countLen c.capabilities.card)
  let total ← checkedAddMul total c.capabilities.card 16
  let total ← checkedAdd usizeMax total (← countLen c.schemas.size)
  checkedAddMul total c.schemas.size 48

def encodeProposal (reserves : Bool) (c : NegotiatedContract) (order : ContractOrder c)
    (maxBodyBytes : Nat) : Checked (Except NegotiationOutcome (List UInt8)) :=
  writeBody reserves (proposalBodyLen c) maxBodyBytes (proposalBody c order)

/-- `failure_frame`. -/
def failureFrame (reserves : Bool) (outcome : NegotiationOutcome) : Option ControlFrame :=
  if reserves then some ⟨.negotiationFailed, [UInt8.ofNat outcome.wire]⟩ else none

/-! ### Reading -/

structure DecodeBudget where
  used : Nat
  limit : Nat
  exceeded : NegotiationOutcome
  deriving DecidableEq, Repr

def DecodeBudget.chargeBytes (b : DecodeBudget) (bytes : Nat) :
    Except BodyDecodeError DecodeBudget :=
  match checkedAdd usizeMax b.used bytes with
  | none => .error (.failure b.exceeded)
  | some next =>
    if next > b.limit then .error (.failure b.exceeded) else .ok { b with used := next }

def DecodeBudget.chargeItems (b : DecodeBudget) (count width : Nat) :
    Except BodyDecodeError DecodeBudget :=
  match checkedMul usizeMax count width with
  | none => .error (.failure b.exceeded)
  | some bytes => b.chargeBytes bytes

def readByte : Reader NegotiationWireError UInt8 := fun input =>
  match input with
  | [] => .error .truncated
  | byte :: rest => .ok (byte, rest)

def readId : Reader NegotiationWireError Nat := fun input =>
  if input.length < 16 then .error .truncated
  else .ok (ofBigEndian 0 (input.take 16), input.drop 16)

/-- `read_varint`. -/
def readCount : Reader NegotiationWireError Nat := fun input =>
  match decodeVarint input with
  | .error e => .error (.varInt e)
  | .ok (value, consumed) => .ok (value, input.drop consumed)

def decodeRequirement (value : UInt8) : Except NegotiationWireError RequirementLevel :=
  if value = 0 then .ok .optional
  else if value = 1 then .ok .required
  else .error (.unknownRequirementLevel value)

def readRequirement : Reader NegotiationWireError RequirementLevel := do
  let value ← readByte
  Reader.lift (decodeRequirement value)

def readBoundedCount (limit : Nat) (exceeded : NegotiationOutcome) : Reader BodyDecodeError Nat := do
  let count ← Reader.mapError .protocol readCount
  if count > limit then Reader.fail (.failure exceeded) else return count

/-- Room for `count` values. `reserves` is the allocator's answer, for each length of the input
still unread: two requests of one decoding have different such lengths. -/
def reserveVec (reserves : Nat → Bool) (count : Nat) : Reader BodyDecodeError Unit := fun input =>
  if count = 0 ∨ reserves input.length then .ok ((), input)
  else .error (.failure .resourceLimitExceeded)

def readProtocol : Reader NegotiationWireError ProtocolContract := do
  let id ← readId
  let revision ← readId
  return ⟨⟨id⟩, ⟨revision⟩⟩

def readCapability : Reader NegotiationWireError CapabilityOffer := do
  let id ← readId
  let requirement ← readRequirement
  return ⟨⟨id⟩, requirement⟩

def readCodec : Reader NegotiationWireError CodecId := do
  let id ← readId
  return ⟨id⟩

def readContract (reserves : Nat → Bool) (limits : OfferLimits) (budget : DecodeBudget) :
    Reader BodyDecodeError (SchemaContractOffer × DecodeBudget) := do
  let contractId ← Reader.mapError .protocol readId
  let codecCount ← readBoundedCount limits.maxCodecsPerContract .malformedOffer
  let budget ← Reader.lift (budget.chargeItems codecCount 16)
  reserveVec reserves codecCount
  let codecs ← Reader.many codecCount (Reader.mapError .protocol readCodec)
  return (⟨⟨contractId⟩, codecs⟩, budget)

def readSchema (reserves : Nat → Bool) (limits : OfferLimits) (budget : DecodeBudget) :
    Reader BodyDecodeError (SchemaOffer × DecodeBudget) := do
  let id ← Reader.mapError .protocol readId
  let requirement ← Reader.mapError .protocol readRequirement
  let contractCount ← readBoundedCount limits.maxContractsPerSchema .malformedOffer
  let budget ← Reader.lift (budget.chargeItems contractCount 16)
  reserveVec reserves contractCount
  let (contracts, budget) ←
    Reader.manyState (readContract reserves limits) contractCount budget
  return (⟨⟨id⟩, requirement, contracts⟩, budget)

def readOffer (reserves : Nat → Bool) (limits : OfferLimits) :
    Reader BodyDecodeError CompatibilityOffer := do
  let budget : DecodeBudget := ⟨0, limits.maxOfferAccountedBytes, .malformedOffer⟩
  let protocolCount ← readBoundedCount limits.maxProtocols .malformedOffer
  let budget ← Reader.lift (budget.chargeItems protocolCount 32)
  reserveVec reserves protocolCount
  let protocols ← Reader.many protocolCount (Reader.mapError .protocol readProtocol)
  let capabilityCount ← readBoundedCount limits.maxCapabilities .malformedOffer
  let budget ← Reader.lift (budget.chargeItems capabilityCount 17)
  reserveVec reserves capabilityCount
  let capabilities ← Reader.many capabilityCount (Reader.mapError .protocol readCapability)
  let schemaCount ← readBoundedCount limits.maxSchemas .malformedOffer
  let budget ← Reader.lift (budget.chargeItems schemaCount 17)
  reserveVec reserves schemaCount
  let (schemas, _) ← Reader.manyState (readSchema reserves limits) schemaCount budget
  return ⟨protocols, capabilities, schemas, none⟩

def decodeOffer (reserves : Nat → Bool) (input : List UInt8) (limits : OfferLimits) :
    Except BodyDecodeError CompatibilityOffer :=
  Reader.parse (do
    let o ← readOffer reserves limits
    Reader.finish (.protocol .trailingBytes)
    return o) input

/-- A capability that is not among those read before it. -/
def readSelectedCapability (seen : List CapabilityId) :
    Reader BodyDecodeError (CapabilityId × List CapabilityId) := do
  let id ← Reader.mapError .protocol readId
  let capability : CapabilityId := ⟨id⟩
  if capability ∈ seen then Reader.fail (.failure .invalidSelection)
  else return (capability, seen ++ [capability])

/-- The binding of a schema that is not among those read before it. -/
def readSelectedSchema (seen : List (SchemaId × SelectedSchema)) :
    Reader BodyDecodeError ((SchemaId × SelectedSchema) × List (SchemaId × SelectedSchema)) := do
  let id ← Reader.mapError .protocol readId
  let schemaId : SchemaId := ⟨id⟩
  if seen.any (fun e => e.1 = schemaId) then Reader.fail (.failure .invalidSelection)
  else do
    let contractId ← Reader.mapError .protocol readId
    let codecId ← Reader.mapError .protocol readId
    let selected : SchemaId × SelectedSchema := (schemaId, ⟨⟨contractId⟩, ⟨codecId⟩⟩)
    return (selected, seen ++ [selected])

def readProposal (reserves : Nat → Bool) (limits : OfferLimits) : Reader BodyDecodeError
    (ProtocolContract × List CapabilityId × List (SchemaId × SelectedSchema)) := do
  let budget : DecodeBudget := ⟨0, limits.maxOfferAccountedBytes, .resourceLimitExceeded⟩
  let protocol ← Reader.mapError .protocol readProtocol
  let budget ← Reader.lift (budget.chargeBytes 32)
  let capabilityCount ← readBoundedCount limits.maxCapabilities .resourceLimitExceeded
  let budget ← Reader.lift (budget.chargeItems capabilityCount 16)
  reserveVec reserves capabilityCount
  let (capabilities, _) ← Reader.manyState readSelectedCapability capabilityCount []
  let schemaCount ← readBoundedCount limits.maxSchemas .resourceLimitExceeded
  let _budget ← Reader.lift (budget.chargeItems schemaCount 48)
  reserveVec reserves schemaCount
  let (schemas, _) ← Reader.manyState readSelectedSchema schemaCount []
  return (protocol, capabilities, schemas)

/-- The contract of the lists that were read. -/
def buildContract (protocol : ProtocolContract) (capabilities : List CapabilityId)
    (schemas : List (SchemaId × SelectedSchema)) : Checked NegotiatedContract := do
  let c ← capabilities.foldlM (fun c id => do
    let (inserted, c) := NegotiatedContract.enableCapability c id
    Checked.assert inserted
    return c) (NegotiatedContract.new protocol)
  schemas.foldlM (fun c e => Checked.expect
    "duplicate schema bindings were rejected during bounded decode"
    (NegotiatedContract.bindSchema c e.1 e.2)) c

def decodeProposal (reserves : Nat → Bool) (input : List UInt8) (limits : OfferLimits) :
    Checked (Except BodyDecodeError NegotiatedContract) :=
  match Reader.parse (do
    let p ← readProposal reserves limits
    Reader.finish (.protocol .trailingBytes)
    return p) input with
  | .error e => .ok (.error e)
  | .ok (protocol, capabilities, schemas) => do
    let c ← buildContract protocol capabilities schemas
    return .ok c

def decodeFailure (input : List UInt8) : Except NegotiationWireError NegotiationOutcome :=
  Reader.parse (do
    let value ← readCount
    let outcome ← Reader.lift (NegotiationOutcome.fromWire value)
    Reader.finish .trailingBytes
    return outcome) input

theorem decodeFailure_frame {reserves : Bool} {outcome : NegotiationOutcome} {frame : ControlFrame}
    (h : failureFrame reserves outcome = some frame) :
    frame.frameType = .negotiationFailed ∧ decodeFailure frame.body = .ok outcome := by
  unfold failureFrame at h
  split at h
  · cases h
    cases outcome <;> exact ⟨rfl, rfl⟩
  · cases h

end RunenNet

import RunenNet.Core.Identity

/-!
# Compatibility negotiation

Offers, negotiated contracts, one negotiation attempt, and the manager that owns the attempts
and the established contracts of all connections. A hash set whose equality matters is a
finite set; one that is only iterated is the list of its elements in iteration order.
-/

namespace RunenNet

open Foundation

abbrev ProtocolId := Ident .protocolId
abbrev ProtocolRevision := Ident .protocolRevision
abbrev SchemaId := Ident .schemaId
abbrev SchemaContractId := Ident .schemaContractId
abbrev CodecId := Ident .codecId
abbrev CapabilityId := Ident .capabilityId

structure ProtocolContract where
  id : ProtocolId
  revision : ProtocolRevision
  deriving DecidableEq, Repr

inductive RequirementLevel where
  | required
  | optional
  deriving DecidableEq, Repr

structure CapabilityOffer where
  id : CapabilityId
  requirement : RequirementLevel
  deriving DecidableEq, Repr

structure SchemaContractOffer where
  contractId : SchemaContractId
  codecs : List CodecId
  deriving DecidableEq, Repr

structure SchemaOffer where
  id : SchemaId
  requirement : RequirementLevel
  contracts : List SchemaContractOffer
  deriving DecidableEq, Repr

structure CompatibilityOffer where
  protocols : List ProtocolContract
  capabilities : List CapabilityOffer
  schemas : List SchemaOffer
  diagnosticLabel : Option String
  deriving DecidableEq, Repr

structure OfferLimits where
  maxProtocols : Nat
  maxCapabilities : Nat
  maxSchemas : Nat
  maxContractsPerSchema : Nat
  maxCodecsPerContract : Nat
  maxDiagnosticLabelBytes : Nat
  maxOfferAccountedBytes : Nat
  deriving DecidableEq, Repr

inductive OfferValidationError where
  | invalidLimits
  | emptyProtocolAlternatives
  | tooManyProtocolAlternatives
  | duplicateProtocolAlternative
  | tooManyCapabilities
  | duplicateCapability
  | tooManySchemas
  | duplicateSchema
  | emptySchemaContracts
  | tooManySchemaContracts
  | duplicateSchemaContract
  | emptyCodecs
  | tooManyCodecs
  | duplicateCodec
  | diagnosticLabelTooLong
  | offerTooLarge
  | accountingOverflow
  deriving DecidableEq, Repr

/-- An offer that passed `CompatibilityOffer.validate`, with its accounted size. -/
structure ValidatedOffer where
  offer : CompatibilityOffer
  accountedBytes : Nat
  deriving DecidableEq, Repr

def OfferLimits.default : OfferLimits where
  maxProtocols := 8
  maxCapabilities := 64
  maxSchemas := 128
  maxContractsPerSchema := 8
  maxCodecsPerContract := 8
  maxDiagnosticLabelBytes := 256
  maxOfferAccountedBytes := 64 * 1024

def OfferLimits.validate (l : OfferLimits) : Except OfferValidationError Unit :=
  if l.maxProtocols = 0 ∨ l.maxCapabilities = 0 ∨ l.maxSchemas = 0 ∨
      l.maxContractsPerSchema = 0 ∨ l.maxCodecsPerContract = 0 ∨
      l.maxOfferAccountedBytes = 0 then
    .error .invalidLimits
  else .ok ()

/-- `total + count * width` in checked arithmetic. -/
def checkedAddMul (total count bytesPerItem : Nat) : Option Nat :=
  (checkedMul usizeMax count bytesPerItem).bind (checkedAdd usizeMax total)

/-- The accounted bytes of the schemas, added to `total`. -/
def accountedSchemaBytes (total : Nat) : List SchemaOffer → Option Nat
  | [] => some total
  | s :: rest => do
    let total ← checkedAdd usizeMax total 17
    let total ← checkedAddMul total s.contracts.length 16
    let total ← s.contracts.foldlM (fun t c => checkedAddMul t c.codecs.length 16) total
    accountedSchemaBytes total rest

/-- Implementation accounting units of an offer, not wire sizes. -/
def accountedOfferBytes (o : CompatibilityOffer) : Except OfferValidationError Nat :=
  let total : Option Nat := do
    let total ← checkedAddMul 0 o.protocols.length 32
    let total ← checkedAddMul total o.capabilities.length 17
    let total ← accountedSchemaBytes total o.schemas
    match o.diagnosticLabel with
    | some label => checkedAdd usizeMax total label.utf8ByteSize
    | none => some total
  match total with
  | some t => .ok t
  | none => .error .accountingOverflow

/-- The contracts of one schema, after those already `seen`. -/
def validateContracts (l : OfferLimits) (seen : List SchemaContractId) :
    List SchemaContractOffer → Except OfferValidationError Unit
  | [] => .ok ()
  | c :: rest =>
    if c.contractId ∈ seen then .error .duplicateSchemaContract
    else if c.codecs.isEmpty then .error .emptyCodecs
    else if c.codecs.length > l.maxCodecsPerContract then .error .tooManyCodecs
    else if ¬ c.codecs.Nodup then .error .duplicateCodec
    else validateContracts l (c.contractId :: seen) rest

/-- The schemas of an offer, after those already `seen`. -/
def validateSchemas (l : OfferLimits) (seen : List SchemaId) :
    List SchemaOffer → Except OfferValidationError Unit
  | [] => .ok ()
  | s :: rest =>
    if s.id ∈ seen then .error .duplicateSchema
    else if s.contracts.isEmpty then .error .emptySchemaContracts
    else if s.contracts.length > l.maxContractsPerSchema then .error .tooManySchemaContracts
    else match validateContracts l [] s.contracts with
      | .error e => .error e
      | .ok () => validateSchemas l (s.id :: seen) rest

def CompatibilityOffer.validate (o : CompatibilityOffer) (l : OfferLimits) :
    Except OfferValidationError ValidatedOffer :=
  match l.validate with
  | .error e => .error e
  | .ok () =>
    if o.protocols.isEmpty then .error .emptyProtocolAlternatives
    else if o.protocols.length > l.maxProtocols then .error .tooManyProtocolAlternatives
    else if o.capabilities.length > l.maxCapabilities then .error .tooManyCapabilities
    else if o.schemas.length > l.maxSchemas then .error .tooManySchemas
    else if o.diagnosticLabel.any (fun label => label.utf8ByteSize > l.maxDiagnosticLabelBytes) then
      .error .diagnosticLabelTooLong
    else if ¬ o.protocols.Nodup then .error .duplicateProtocolAlternative
    else if ¬ (o.capabilities.map CapabilityOffer.id).Nodup then .error .duplicateCapability
    else match validateSchemas l [] o.schemas with
      | .error e => .error e
      | .ok () => match accountedOfferBytes o with
        | .error e => .error e
        | .ok bytes => if bytes > l.maxOfferAccountedBytes then .error .offerTooLarge
            else .ok ⟨o, bytes⟩

structure SelectedSchema where
  contractId : SchemaContractId
  codecId : CodecId
  deriving DecidableEq, Repr

namespace ValidatedOffer

def supportsProtocol (o : ValidatedOffer) (p : ProtocolContract) : Bool := p ∈ o.offer.protocols

def capability (o : ValidatedOffer) (id : CapabilityId) : Option CapabilityOffer :=
  o.offer.capabilities.find? (fun e => e.id = id)

def schema (o : ValidatedOffer) (id : SchemaId) : Option SchemaOffer :=
  o.offer.schemas.find? (fun e => e.id = id)

def supportsSchemaBinding (o : ValidatedOffer) (id : SchemaId) (b : SelectedSchema) : Bool :=
  (o.schema id).any fun s =>
    s.contracts.any fun c => c.contractId = b.contractId ∧ b.codecId ∈ c.codecs

def requiredCapabilities (o : ValidatedOffer) : List CapabilityId :=
  o.offer.capabilities.filterMap fun e => if e.requirement = .required then some e.id else none

def requiredSchemas (o : ValidatedOffer) : List SchemaId :=
  o.offer.schemas.filterMap fun e => if e.requirement = .required then some e.id else none

end ValidatedOffer

/-- The agreed contract of one connection. -/
structure NegotiatedContract where
  protocol : ProtocolContract
  capabilities : Finset CapabilityId
  schemas : SortedMap SchemaId SelectedSchema
  deriving DecidableEq

namespace NegotiatedContract

def new (p : ProtocolContract) : NegotiatedContract := ⟨p, ∅, .empty⟩

def enableCapability (c : NegotiatedContract) (id : CapabilityId) : Bool × NegotiatedContract :=
  (id ∉ c.capabilities, { c with capabilities := insert id c.capabilities })

/-- `none` when the schema is already bound. -/
def bindSchema (c : NegotiatedContract) (id : SchemaId) (b : SelectedSchema) :
    Option NegotiatedContract :=
  match c.schemas.get? id with
  | some _ => none
  | none => some { c with schemas := c.schemas.insert id b }

def accountedBytes (c : NegotiatedContract) : Except OfferValidationError Nat :=
  let total : Option Nat := do
    let capabilityBytes ← checkedMul usizeMax c.capabilities.card 16
    let schemaBytes ← checkedMul usizeMax c.schemas.size 48
    let total ← checkedAdd usizeMax 32 capabilityBytes
    checkedAdd usizeMax total schemaBytes
  match total with
  | some t => .ok t
  | none => .error .accountingOverflow

end NegotiatedContract

/-- Host requirements, in the iteration order of the two hash sets. -/
structure NegotiationRequirements where
  requiredCapabilities : List CapabilityId
  requiredSchemas : List SchemaId
  deriving DecidableEq, Repr

inductive NegotiationStatus where
  | awaitingProposal
  | awaitingValidation (authorityValidated peerValidated : Bool)
  | established
  deriving DecidableEq, Repr

inductive NegotiationError where
  | authorityOfferInvalid (e : OfferValidationError)
  | peerOfferInvalid (e : OfferValidationError)
  | protocolIncompatible
  | requiredCapabilityUnavailable (id : CapabilityId)
  | requiredSchemaUnavailable (id : SchemaId)
  | invalidSelection
  | selectionTooLarge
  | alreadyProposed
  | noProposal
  | alreadyEstablished
  deriving DecidableEq, Repr

/-- Whether some contract and codec of the schema is in both offers. -/
def hasCommonSchemaBinding (first second : ValidatedOffer) (id : SchemaId) : Bool :=
  match first.schema id, second.schema id with
  | some a, some b =>
    a.contracts.any fun ca => b.contracts.any fun cb =>
      ca.contractId = cb.contractId && ca.codecs.any fun codec => codec ∈ cb.codecs
  | _, _ => false

/-- The first required capability or schema of `requiring` that `other` cannot meet. -/
def verifyOfferRequirements (requiring other : ValidatedOffer) : Except NegotiationError Unit :=
  match requiring.requiredCapabilities.find? fun c => (other.capability c).isNone with
  | some c => .error (.requiredCapabilityUnavailable c)
  | none =>
    match requiring.requiredSchemas.find? fun s => ¬ hasCommonSchemaBinding requiring other s with
    | some s => .error (.requiredSchemaUnavailable s)
    | none => .ok ()

structure NegotiationAttempt where
  authorityOffer : ValidatedOffer
  peerOffer : ValidatedOffer
  offerLimits : OfferLimits
  proposal : Option NegotiatedContract
  authorityValidated : Bool
  peerValidated : Bool
  deriving DecidableEq

namespace NegotiationAttempt

def new (authorityOffer peerOffer : CompatibilityOffer) (l : OfferLimits) :
    Except NegotiationError NegotiationAttempt :=
  match authorityOffer.validate l with
  | .error e => .error (.authorityOfferInvalid e)
  | .ok authority =>
    match peerOffer.validate l with
    | .error e => .error (.peerOfferInvalid e)
    | .ok peer =>
      if ¬ authority.offer.protocols.any peer.supportsProtocol then .error .protocolIncompatible
      else match verifyOfferRequirements authority peer with
        | .error e => .error e
        | .ok () => match verifyOfferRequirements peer authority with
          | .error e => .error e
          | .ok () => .ok ⟨authority, peer, l, none, false, false⟩

def status (a : NegotiationAttempt) : NegotiationStatus :=
  if a.authorityValidated ∧ a.peerValidated then .established
  else if a.proposal.isSome then .awaitingValidation a.authorityValidated a.peerValidated
  else .awaitingProposal

/-- The host's required capabilities, checked in iteration order. -/
def checkRequiredCapabilities (a : NegotiationAttempt) (c : NegotiatedContract) :
    List CapabilityId → Except NegotiationError Unit
  | [] => .ok ()
  | id :: rest =>
    if ¬ ((a.authorityOffer.capability id).isSome ∧ (a.peerOffer.capability id).isSome) then
      .error (.requiredCapabilityUnavailable id)
    else if id ∉ c.capabilities then .error .invalidSelection
    else checkRequiredCapabilities a c rest

/-- The host's required schemas, checked in iteration order. -/
def checkRequiredSchemas (a : NegotiationAttempt) (c : NegotiatedContract) :
    List SchemaId → Except NegotiationError Unit
  | [] => .ok ()
  | id :: rest =>
    if ¬ hasCommonSchemaBinding a.authorityOffer a.peerOffer id then
      .error (.requiredSchemaUnavailable id)
    else if (c.schemas.get? id).isNone then .error .invalidSelection
    else checkRequiredSchemas a c rest

def validateSelection (a : NegotiationAttempt) (c : NegotiatedContract)
    (r : NegotiationRequirements) : Except NegotiationError Unit :=
  if ¬ a.authorityOffer.supportsProtocol c.protocol ∨ ¬ a.peerOffer.supportsProtocol c.protocol then
    .error .invalidSelection
  else if c.capabilities.card > a.offerLimits.maxCapabilities ∨
      c.schemas.size > a.offerLimits.maxSchemas then
    .error .selectionTooLarge
  else match c.accountedBytes with
    | .error _ => .error .selectionTooLarge
    | .ok bytes =>
      if bytes > a.offerLimits.maxOfferAccountedBytes then .error .selectionTooLarge
      else if ∃ id ∈ c.capabilities,
          (a.authorityOffer.capability id).isNone ∨ (a.peerOffer.capability id).isNone then
        .error .invalidSelection
      else if ∃ e ∈ c.schemas.entries, ¬ a.authorityOffer.supportsSchemaBinding e.1 e.2 ∨
          ¬ a.peerOffer.supportsSchemaBinding e.1 e.2 then
        .error .invalidSelection
      else if ∃ id ∈ a.authorityOffer.requiredCapabilities ++ a.peerOffer.requiredCapabilities,
          id ∉ c.capabilities then
        .error .invalidSelection
      else if ∃ id ∈ a.authorityOffer.requiredSchemas ++ a.peerOffer.requiredSchemas,
          (c.schemas.get? id).isNone then
        .error .invalidSelection
      else match a.checkRequiredCapabilities c r.requiredCapabilities with
        | .error e => .error e
        | .ok () => a.checkRequiredSchemas c r.requiredSchemas

def propose (a : NegotiationAttempt) (c : NegotiatedContract) (r : NegotiationRequirements) :
    Except NegotiationError NegotiationAttempt :=
  if a.status = .established then .error .alreadyEstablished
  else if a.proposal.isSome then .error .alreadyProposed
  else match a.validateSelection c r with
    | .error e => .error e
    | .ok () => .ok { a with proposal := some c }

def validateParty (a : NegotiationAttempt) (authority : Bool) :
    Except NegotiationError (NegotiationStatus × NegotiationAttempt) :=
  match a.proposal with
  | none => .error .noProposal
  | some _ =>
    let a := if authority then { a with authorityValidated := true }
      else { a with peerValidated := true }
    .ok (a.status, a)

end NegotiationAttempt

structure NegotiationManagerLimits where
  maxConcurrentAttempts : Nat
  maxAggregateAccountedBytes : Nat
  deriving DecidableEq, Repr

inductive NegotiationManagerConfigError where
  | invalidLimits
  | accountingOverflow
  | attemptReservationExceedsAggregate
  deriving DecidableEq, Repr

inductive NegotiationManagerError where
  | attemptLimitExceeded
  | aggregateLimitExceeded
  | connectionAlreadyKnown
  | unknownConnection
  | negotiation (e : NegotiationError)
  deriving DecidableEq, Repr

inductive ConnectionNegotiationTermination where
  | negotiationAborted
  | establishedContractEnded
  deriving DecidableEq, Repr

structure EstablishedState where
  contract : NegotiatedContract
  accountedBytes : Nat
  deriving DecidableEq

/-- The established contract of a connection: the proof consumed by session admission. -/
structure EstablishedNegotiation where
  connection : ConnectionHandle
  contract : NegotiatedContract
  deriving DecidableEq

structure NegotiationManager where
  offerLimits : OfferLimits
  limits : NegotiationManagerLimits
  perAttemptReservation : Nat
  reservedBytes : Nat
  attempts : SortedMap ConnectionHandle NegotiationAttempt
  established : SortedMap ConnectionHandle EstablishedState

namespace NegotiationManager

def new (offerLimits : OfferLimits) (limits : NegotiationManagerLimits) :
    Except NegotiationManagerConfigError NegotiationManager :=
  if offerLimits.validate ≠ .ok () ∨ limits.maxConcurrentAttempts = 0 ∨
      limits.maxAggregateAccountedBytes = 0 then
    .error .invalidLimits
  else match checkedMul usizeMax offerLimits.maxOfferAccountedBytes 3 with
    | none => .error .accountingOverflow
    | some reservation =>
      if reservation > limits.maxAggregateAccountedBytes then
        .error .attemptReservationExceedsAggregate
      else .ok ⟨offerLimits, limits, reservation, 0, .empty, .empty⟩

def start (m : NegotiationManager) (c : ConnectionHandle)
    (authorityOffer peerOffer : CompatibilityOffer) :
    Checked (Except NegotiationManagerError Unit × NegotiationManager) :=
  if m.attempts.contains c ∨ m.established.contains c then
    .ok (.error .connectionAlreadyKnown, m)
  else if m.attempts.size ≥ m.limits.maxConcurrentAttempts then
    .ok (.error .attemptLimitExceeded, m)
  else if (checkedAdd usizeMax m.reservedBytes m.perAttemptReservation).all
      (fun v => v > m.limits.maxAggregateAccountedBytes) then
    .ok (.error .aggregateLimitExceeded, m)
  else match NegotiationAttempt.new authorityOffer peerOffer m.offerLimits with
    | .error e => .ok (.error (.negotiation e), m)
    | .ok attempt => do
      let reserved ← Checked.add m.reservedBytes m.perAttemptReservation
      return (.ok (), { m with attempts := m.attempts.insert c attempt, reservedBytes := reserved })

/-- The attempt of a connection that has no established contract. -/
def attempt (m : NegotiationManager) (c : ConnectionHandle) :
    Except NegotiationManagerError NegotiationAttempt :=
  if m.established.contains c then .error (.negotiation .alreadyEstablished)
  else match m.attempts.get? c with
    | some a => .ok a
    | none => .error .unknownConnection

def attemptProposal (m : NegotiationManager) (c : ConnectionHandle) :
    Except NegotiationManagerError NegotiatedContract :=
  match m.attempt c with
  | .error e => .error e
  | .ok a => match a.proposal with
    | some p => .ok p
    | none => .error (.negotiation .noProposal)

def propose (m : NegotiationManager) (c : ConnectionHandle) (contract : NegotiatedContract)
    (r : NegotiationRequirements) : Except NegotiationManagerError Unit × NegotiationManager :=
  match m.attempt c with
  | .error e => (.error e, m)
  | .ok a => match a.propose contract r with
    | .error e => (.error (.negotiation e), m)
    | .ok a => (.ok (), { m with attempts := m.attempts.insert c a })

/-- Moves a mutually validated attempt to the established contracts. -/
def promoteEstablished (m : NegotiationManager) (c : ConnectionHandle) :
    Checked (Except NegotiationManagerError Unit × NegotiationManager) :=
  match m.attempts.get? c with
  | none => .ok (.error (.negotiation .noProposal), m)
  | some attempt => match attempt.proposal with
    | none => .ok (.error (.negotiation .noProposal), m)
    | some contract => match contract.accountedBytes with
      | .error _ => .ok (.error (.negotiation .selectionTooLarge), m)
      | .ok bytes => do
        Checked.assert (attempt.status = .established)
        let released ← Checked.sub m.reservedBytes m.perAttemptReservation
        let reserved ← Checked.add released bytes
        Checked.assert (m.established.get? c).isNone
        return (.ok (), { m with
          attempts := m.attempts.erase c
          reservedBytes := reserved
          established := m.established.insert c ⟨contract, bytes⟩ })

/-- `validate_authority` and `validate_peer`. -/
def validateParty (m : NegotiationManager) (c : ConnectionHandle) (authority : Bool) :
    Checked (Except NegotiationManagerError NegotiationStatus × NegotiationManager) :=
  match m.attempt c with
  | .error e => .ok (.error e, m)
  | .ok a => match a.validateParty authority with
    | .error e => .ok (.error (.negotiation e), m)
    | .ok (status, a) =>
      let m := { m with attempts := m.attempts.insert c a }
      if status = .established then do
        match ← m.promoteEstablished c with
        | (.error e, m) => return (.error e, m)
        | (.ok (), m) => return (.ok status, m)
      else .ok (.ok status, m)

def validateAuthority (m : NegotiationManager) (c : ConnectionHandle) :
    Checked (Except NegotiationManagerError NegotiationStatus × NegotiationManager) :=
  m.validateParty c true

def validatePeer (m : NegotiationManager) (c : ConnectionHandle) :
    Checked (Except NegotiationManagerError NegotiationStatus × NegotiationManager) :=
  m.validateParty c false

def establishedFor (m : NegotiationManager) (c : ConnectionHandle) :
    Except NegotiationManagerError EstablishedNegotiation :=
  match m.established.get? c with
  | some s => .ok ⟨c, s.contract⟩
  | none => .error .unknownConnection

def terminate (m : NegotiationManager) (c : ConnectionHandle) :
    Checked (Except NegotiationManagerError ConnectionNegotiationTermination ×
      NegotiationManager) :=
  match m.attempts.get? c with
  | some _ => do
    let reserved ← Checked.sub m.reservedBytes m.perAttemptReservation
    return (.ok .negotiationAborted,
      { m with attempts := m.attempts.erase c, reservedBytes := reserved })
  | none => match m.established.get? c with
    | some s => do
      let reserved ← Checked.sub m.reservedBytes s.accountedBytes
      return (.ok .establishedContractEnded,
        { m with established := m.established.erase c, reservedBytes := reserved })
    | none => .ok (.error .unknownConnection, m)

end NegotiationManager

end RunenNet

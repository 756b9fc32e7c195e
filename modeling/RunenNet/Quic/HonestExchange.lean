import RunenNet.Quic.ExchangeOwnership
import RunenNet.Quic.NegotiationReads

/-!
# An exchange that hears another exchange

What an operation does when it is called in its state and hears what another exchange said: it goes
on with the next step of the handshake and the manager's entry says so, or it closes the exchange
with an error by which nobody broke the protocol.
-/

namespace RunenNet

open Foundation

/-- The states in which the exchange reports its failure to the peer. -/
def NegotiationState.reports : NegotiationState → Bool
  | .ready | .awaitingPeerOffer | .awaitingAuthoritySelection | .awaitingProposal => true
  | .awaitingValidated | .awaitingEstablished | .established | .failed => false

/-- A failure that the peer can read. -/
def ControlFrame.IsFailure (frame : ControlFrame) : Prop :=
  frame.frameType = .negotiationFailed ∧ ∃ outcome, decodeFailure frame.body = .ok outcome

/-- Nobody broke the protocol; what is reported in `state` can be read. -/
def NegotiationControlError.Blameless (state : NegotiationState) : NegotiationControlError → Prop
  | .localFailure _ report => state.reports = true ∧ ∀ frame ∈ report, frame.IsFailure
  | .managerState _ => True
  | .profileProtocol _ | .unexpectedCoreStatus _ => False

/-! ### The manager's entry -/

namespace NegotiationManager

variable {m m' : NegotiationManager} {logs : AttemptLogs} {c : ConnectionHandle}
  {a : NegotiationAttempt}

theorem Inv.attempt_at (hi : m.Inv logs) (ha : m.attempts.get? c = some a) :
    m.attempt c = .ok a := by
  have hnone : m.established.contains c = false :=
    SortedMap.contains_eq_false.mpr (hi.disjoint c a ha)
  simp [attempt, hnone, ha]

theorem terminate_limits {r : Except NegotiationManagerError ConnectionNegotiationTermination}
    (h : m.terminate c = .ok (r, m')) : m'.offerLimits = m.offerLimits := by
  unfold terminate at h
  split at h
  · simp only [Checked.bind_eq_ok, Checked.pure_eq, Except.ok.injEq, Prod.mk.injEq] at h
    obtain ⟨_, -, -, rfl⟩ := h
    rfl
  · split at h
    · simp only [Checked.bind_eq_ok, Checked.pure_eq, Except.ok.injEq, Prod.mk.injEq] at h
      obtain ⟨_, -, -, rfl⟩ := h
      rfl
    · cases h
      rfl

/-- A started attempt is the one of the two offers. -/
theorem start_attempt {authorityOffer peerOffer : CompatibilityOffer}
    {r : Except NegotiationManagerError Unit}
    (h : m.start c authorityOffer peerOffer = .ok (r, m')) :
    m'.offerLimits = m.offerLimits ∧ ((∃ e, r = .error e) ∨ r = .ok () ∧
      ∃ a, NegotiationAttempt.new authorityOffer peerOffer m.offerLimits = .ok a ∧
        m'.attempts.get? c = some a) := by
  unfold start at h
  split at h
  · cases h
    exact ⟨rfl, .inl ⟨_, rfl⟩⟩
  · split at h
    · cases h
      exact ⟨rfl, .inl ⟨_, rfl⟩⟩
    · split at h
      · cases h
        exact ⟨rfl, .inl ⟨_, rfl⟩⟩
      · split at h
        · cases h
          exact ⟨rfl, .inl ⟨_, rfl⟩⟩
        · rename_i attempt hattempt
          simp only [Checked.bind_eq_ok, Checked.pure_eq, Except.ok.injEq, Prod.mk.injEq] at h
          obtain ⟨reserved, -, rfl, rfl⟩ := h
          exact ⟨rfl, .inr ⟨rfl, attempt, hattempt, SortedMap.get?_insert_self _ _ _⟩⟩

/-- A proposal is refused, or the attempt has it and it was validated. -/
theorem propose_attempt {contract : NegotiatedContract} {requirements : NegotiationRequirements}
    {r : Except NegotiationManagerError Unit} (h : m.propose c contract requirements = (r, m')) :
    m'.offerLimits = m.offerLimits ∧ ((∃ e, r = .error e) ∨ r = .ok () ∧
      ∃ a, m.attempts.get? c = some a ∧ a.Selects contract requirements ∧
        m'.attempts.get? c = some { a with proposal := some contract }) := by
  unfold propose at h
  split at h
  · cases h
    exact ⟨rfl, .inl ⟨_, rfl⟩⟩
  · rename_i a ha
    split at h
    · cases h
      exact ⟨rfl, .inl ⟨_, rfl⟩⟩
    · rename_i a' ha'
      obtain ⟨-, hselects, rfl⟩ := NegotiationAttempt.propose_ok ha'
      cases h
      exact ⟨rfl, .inr ⟨rfl, a, attempt_ok ha, hselects, SortedMap.get?_insert_self _ _ _⟩⟩

theorem promoteEstablished_contract {k : NegotiatedContract}
    {r : Except NegotiationManagerError Unit} (ha : m.attempts.get? c = some a)
    (hk : a.proposal = some k) (h : m.promoteEstablished c = .ok (r, m')) :
    m'.offerLimits = m.offerLimits ∧ ((∃ e, r = .error e) ∨ r = .ok () ∧
      ∃ bytes, m'.established.get? c = some ⟨k, bytes⟩) := by
  simp only [promoteEstablished, ha, hk] at h
  split at h
  · cases h
    exact ⟨rfl, .inl ⟨_, rfl⟩⟩
  · rename_i bytes _
    simp only [Checked.bind_eq_ok, Checked.pure_eq, Except.ok.injEq, Prod.mk.injEq] at h
    obtain ⟨_, -, _, -, _, -, _, -, rfl, rfl⟩ := h
    exact ⟨rfl, .inr ⟨rfl, bytes, SortedMap.get?_insert_self _ _ _⟩⟩

end NegotiationManager

/-- The attempt with the validation of one party. -/
def NegotiationAttempt.validatedBy (a : NegotiationAttempt) (authority : Bool) :
    NegotiationAttempt :=
  if authority then { a with authorityValidated := true } else { a with peerValidated := true }

namespace NegotiationManager

variable {m m' : NegotiationManager} {logs : AttemptLogs} {c : ConnectionHandle}
  {a : NegotiationAttempt}

/-- A validation of a proposed attempt: the status is the attempt's, which becomes the contract when
it was the last one. -/
theorem validateParty_attempt {k : NegotiatedContract} {authority : Bool}
    {r : Except NegotiationManagerError NegotiationStatus} (hi : m.Inv logs)
    (ha : m.attempts.get? c = some a) (hk : a.proposal = some k)
    (h : m.validateParty c authority = .ok (r, m')) :
    m'.offerLimits = m.offerLimits ∧ ((∃ e, r = .error e) ∨
      r = .ok (a.validatedBy authority).status ∧
        ((a.validatedBy authority).status = .established →
          ∃ bytes, m'.established.get? c = some ⟨k, bytes⟩) ∧
        ((a.validatedBy authority).status ≠ .established →
          m'.attempts.get? c = some (a.validatedBy authority))) := by
  have hvalid : a.validateParty authority =
      .ok ((a.validatedBy authority).status, a.validatedBy authority) := by
    unfold NegotiationAttempt.validateParty
    split
    · rename_i hnone
      cases hk.symm.trans hnone
    · rfl
  simp only [validateParty, hi.attempt_at ha, hvalid] at h
  split at h
  · rename_i hstatus
    simp only [Checked.bind_eq_ok] at h
    obtain ⟨⟨res, m₁⟩, hpromote, h⟩ := h
    have hk' : (a.validatedBy authority).proposal = some k := by
      cases authority <;> exact hk
    obtain ⟨hlimits, ⟨e, rfl⟩ | ⟨rfl, hcontract⟩⟩ :=
      promoteEstablished_contract (SortedMap.get?_insert_self _ _ _) hk' hpromote
    · cases h
      exact ⟨hlimits, .inl ⟨_, rfl⟩⟩
    · cases h
      exact ⟨hlimits, .inr ⟨rfl, fun _ => hcontract, fun hne => absurd hstatus hne⟩⟩
  · rename_i hstatus
    cases h
    exact ⟨rfl, .inr ⟨rfl, fun heq => absurd heq hstatus,
      fun _ => SortedMap.get?_insert_self _ _ _⟩⟩

theorem exec_limits {op : NegotiationOp} {reply : NegotiationReply} (hi : m.Inv logs)
    (h : m.exec op = .ok (reply, m')) : m'.offerLimits = m.offerLimits := by
  have validate : ∀ {c authority} {r : Except NegotiationManagerError NegotiationStatus},
      m.validateParty c authority = .ok (r, m') → m'.offerLimits = m.offerLimits := by
    intro c authority r hv
    cases ha : m.attempt c with
    | error e =>
      simp only [validateParty, ha] at hv
      cases hv
      rfl
    | ok a =>
      cases hk : a.proposal with
      | none =>
        simp only [validateParty, ha, NegotiationAttempt.validateParty, hk] at hv
        cases hv
        rfl
      | some k => exact (validateParty_attempt hi (attempt_ok ha) hk hv).1
  cases op with
  | start =>
    simp only [exec, Checked.bind_eq_ok, Checked.pure_eq, Except.ok.injEq, Prod.mk.injEq] at h
    obtain ⟨_, hop, -, rfl⟩ := h
    exact (start_attempt hop).1
  | propose =>
    cases h
    exact (propose_attempt rfl).1
  | validateAuthority =>
    simp only [exec, Checked.bind_eq_ok, Checked.pure_eq, Except.ok.injEq, Prod.mk.injEq] at h
    obtain ⟨_, hop, -, rfl⟩ := h
    exact validate hop
  | validatePeer =>
    simp only [exec, Checked.bind_eq_ok, Checked.pure_eq, Except.ok.injEq, Prod.mk.injEq] at h
    obtain ⟨_, hop, -, rfl⟩ := h
    exact validate hop
  | terminate =>
    simp only [exec, Checked.bind_eq_ok, Checked.pure_eq, Except.ok.injEq, Prod.mk.injEq] at h
    obtain ⟨_, hop, -, rfl⟩ := h
    exact terminate_limits hop

end NegotiationManager

namespace NegotiationExchange

open NegotiationManager

variable {before m m' : NegotiationManager} {x x' : NegotiationExchange}
  {alloc : NegotiationAllocator} {α : Type} {r : Except NegotiationControlError α}

/-! ### Closing without blame -/

/-- The operation closed the exchange that was in `state` with an error by which nobody broke the
protocol. -/
structure Declines (limits : OfferLimits) (state : NegotiationState)
    (r : Except NegotiationControlError α) (x' : NegotiationExchange) (m' : NegotiationManager) :
    Prop where
  blameless : ∃ e, r = .error e ∧ e.Blameless state
  failed : x'.state = .failed
  limits : m'.offerLimits = limits

/-- Closing returns what it is to return. -/
theorem closeWith_result (h : Custody before x m) {result : Except NegotiationControlError α}
    (hc : x.closeWith m result = .ok (r, x', m')) :
    r = result ∧ x'.state = .failed ∧ m'.offerLimits = m.offerLimits := by
  simp only [closeWith, Checked.bind_eq_ok] at hc
  obtain ⟨⟨res, x₁, m₁⟩, hclose, hc⟩ := hc
  have hlimits : m₁.offerLimits = m.offerLimits := by
    unfold close releaseManager at hclose
    split at hclose
    · cases hclose
      rfl
    · simp only [Checked.bind_eq_ok, Checked.pure_eq, Except.ok.injEq, Prod.mk.injEq] at hclose
      obtain ⟨⟨_, _⟩, hterm, -, -, rfl⟩ := hclose
      exact terminate_limits hterm
  obtain ⟨rfl, rfl, -⟩ := close_spec h hclose
  cases hc
  exact ⟨rfl, rfl, hlimits⟩

variable {state : NegotiationState}

theorem failLocal_declines (h : Custody before x m) (hs : state.reports = true)
    {outcome : NegotiationOutcome} (hc : x.failLocal alloc m outcome = .ok (r, x', m')) :
    Declines m.offerLimits state r x' m' := by
  obtain ⟨rfl, hfailed, hlimits⟩ := closeWith_result h hc
  refine ⟨⟨_, rfl, hs, fun frame hframe => ?_⟩, hfailed, hlimits⟩
  obtain ⟨htype, hbody⟩ := decodeFailure_frame hframe
  exact ⟨htype, outcome, hbody⟩

theorem failManagerState_declines (h : Custody before x m) {e : NegotiationManagerError}
    (hc : x.failManagerState m e = .ok (r, x', m')) : Declines m.offerLimits state r x' m' := by
  obtain ⟨rfl, hfailed, hlimits⟩ := closeWith_result h hc
  exact ⟨⟨_, rfl, trivial⟩, hfailed, hlimits⟩

theorem failFromManager_declines (h : Custody before x m) (hs : state.reports = true)
    {e : NegotiationManagerError} (hc : x.failFromManager alloc m e = .ok (r, x', m')) :
    Declines m.offerLimits state r x' m' := by
  unfold failFromManager at hc
  split at hc
  · exact failLocal_declines h hs hc
  · exact failManagerState_declines h hc

theorem Declines.after {limits limits' : OfferLimits} (h : Declines limits' state r x' m')
    (heq : limits' = limits) : Declines limits state r x' m' :=
  heq ▸ h

/-! ### Local calls -/

theorem prepareOffer_honest (h : Owns before x m) (hstate : x.state = .ready)
    {offer : CompatibilityOffer} {r : Except NegotiationControlError ControlFrame}
    (hr : x.prepareOffer alloc m offer = .ok (r, x', m')) :
    Declines m.offerLimits x.state r x' m' ∨
      offer.diagnosticLabel = none ∧ offer.Counts wireLimits ∧
        r = .ok ⟨.negotiationOffer, offer.bytes⟩ ∧
        x' = { x with localOffer := some offer, state := .awaitingPeerOffer } ∧ m' = m := by
  have hs : x.state.reports = true := by
    rw [hstate]
    rfl
  unfold prepareOffer at hr
  rw [if_neg (not_not.mpr hstate)] at hr
  split at hr
  · exact .inl (failLocal_declines h.toCustody hs hr)
  · rename_i validated hvalidated
    obtain ⟨rfl, -⟩ := CompatibilityOffer.validate_ok hvalidated
    split at hr
    · exact .inl (failLocal_declines h.toCustody hs hr)
    · simp only [Checked.bind_eq_ok] at hr
      obtain ⟨encoded, hencoded, hr⟩ := hr
      cases encoded with
      | error outcome => exact .inl (failLocal_declines h.toCustody hs hr)
      | ok body =>
        obtain ⟨hlabel, hcounts, rfl, -⟩ := encodeOffer_eq_ok.mp hencoded
        cases hr
        exact .inr ⟨hlabel, hcounts, rfl, rfl, rfl⟩

/-- The authority's proposal is refused, or it is what it and the manager say from then on. -/
theorem proposeAuthority_honest (h : Owns before x m) (hrole : x.role = .authority)
    (hstate : x.state = .awaitingAuthoritySelection) {v w : ValidatedOffer} {l : OfferLimits}
    (ha : m.attempts.get? x.connection = some (.opened v w l))
    {order : ∀ c : NegotiatedContract, ContractOrder c} {contract : NegotiatedContract}
    {requirements : NegotiationRequirements} {r : Except NegotiationControlError ControlFrame}
    (hr : x.proposeAuthority alloc order m contract requirements = .ok (r, x', m')) :
    Declines m.offerLimits x.state r x' m' ∨
      (NegotiationAttempt.opened v w l).Selects contract requirements ∧
        (contract.capabilities.card ≤ maxVarint ∧ contract.schemas.size ≤ maxVarint) ∧
        r = .ok ⟨.negotiationProposal, (order contract).lists.bytes⟩ ∧
        x' = { x with state := .awaitingValidated } ∧ m'.offerLimits = m.offerLimits ∧
        m'.attempts.get? x.connection = some { NegotiationAttempt.opened v w l with
          proposal := some contract, authorityValidated := true } := by
  have hs : x.state.reports = true := by
    rw [hstate]
    rfl
  have hown := (h.past (by rw [hstate]; rfl)).1
  unfold proposeAuthority at hr
  rw [if_neg (not_not.mpr hrole), if_neg (not_not.mpr hstate)] at hr
  generalize hp : m.propose x.connection contract requirements = proposed at hr
  obtain ⟨res, m₁⟩ := proposed
  have hc₁ := (h.toCustody.propose hown hp).1
  obtain ⟨hl₁, ⟨e, rfl⟩ | ⟨rfl, a, ha', hselects, ha₁⟩⟩ := propose_attempt hp
  · exact .inl ((failFromManager_declines hc₁ hs hr).after hl₁)
  cases ha.symm.trans ha'
  obtain ⟨logs, hi₁⟩ := hc₁.known
  simp only [validateAuthority, Checked.bind_eq_ok] at hr
  obtain ⟨⟨res, m₂⟩, hv, hr⟩ := hr
  have hc₂ := (hc₁.validate hown hv).1
  obtain ⟨hl₂, ⟨e, rfl⟩ | ⟨rfl, -, ha₂⟩⟩ := validateParty_attempt hi₁ ha₁ rfl hv
  · exact .inl ((failManagerState_declines hc₂ hr).after (hl₂.trans hl₁))
  have ha₂ := ha₂ (by simp [NegotiationAttempt.validatedBy, NegotiationAttempt.status,
    NegotiationAttempt.opened])
  obtain ⟨logs', hi₂⟩ := hc₂.known
  simp only at hr
  split at hr
  · rename_i hne
    exact absurd rfl hne
  · have hproposal : m₂.attemptProposal x.connection = .ok contract := by
      simp only [attemptProposal, hi₂.attempt_at ha₂]
      rfl
    simp only [hproposal, Checked.bind_eq_ok] at hr
    obtain ⟨encoded, hencoded, hr⟩ := hr
    cases encoded with
    | error outcome => exact .inl ((failLocal_declines hc₂ hs hr).after (hl₂.trans hl₁))
    | ok body =>
      obtain ⟨rfl, hbodyLen, -⟩ := encodeProposal_eq_ok.mp hencoded
      obtain ⟨hcounts, -, -⟩ := (proposalBodyLen_eq_some (order contract)).mp hbodyLen
      cases hr
      exact .inr ⟨hselects, hcounts, rfl, rfl, hl₂.trans hl₁, ha₂⟩

/-! ### Received frames -/

/-- The attempt of the two offers, in the order of the roles. -/
def attemptOf (role : SemanticRole) (own other : CompatibilityOffer) (l : OfferLimits) :
    Except NegotiationError NegotiationAttempt :=
  match role with
  | .authority => NegotiationAttempt.new own other l
  | .nonAuthority => NegotiationAttempt.new other own l

theorem startAttempt_attempt {own other : CompatibilityOffer}
    {res : Except NegotiationManagerError Unit} (hs : x.startAttempt m own other = .ok (res, m')) :
    m'.offerLimits = m.offerLimits ∧ ((∃ e, res = .error e) ∨ res = .ok () ∧
      ∃ a, attemptOf x.role own other m.offerLimits = .ok a ∧
        m'.attempts.get? x.connection = some a) := by
  unfold startAttempt at hs
  cases hrole : x.role with
  | authority =>
    rw [hrole] at hs
    exact start_attempt hs
  | nonAuthority =>
    rw [hrole] at hs
    exact start_attempt hs

variable {body : List UInt8} {r : Except NegotiationControlError NegotiationProgress}

/-- The offer that the other side wrote is the one the attempt is started with. -/
theorem receiveOffer_honest (h : Owns before x m) (hstate : x.state = .awaitingPeerOffer)
    {own other : CompatibilityOffer} (hown : x.localOffer = some own) (hfits : other.Fits)
    (hlabel : other.diagnosticLabel = none) (hcounts : other.Counts wireLimits)
    (hr : x.receiveOffer alloc m other.bytes = .ok (r, x', m')) :
    Declines m.offerLimits x.state r x' m' ∨
      ∃ a, attemptOf x.role own other m.offerLimits = .ok a ∧
        m'.attempts.get? x.connection = some a ∧ m'.offerLimits = m.offerLimits ∧
        (r, x', m') = started { x with localOffer := none } m' := by
  have hs : x.state.reports = true := by
    rw [hstate]
    rfl
  have hcustody : Custody before { x with localOffer := none } m :=
    ⟨h.known, h.owned, h.unowned⟩
  have hunowned : x.managerOwned = false := by
    rw [h.owning, hstate]
    rfl
  unfold receiveOffer at hr
  rcases decodeOffer_bytes alloc.list m.offerLimits hfits hlabel hcounts with
    hdecoded | ⟨outcome, hdecoded⟩
  · simp only [hdecoded, hown, Checked.bind_eq_ok] at hr
    obtain ⟨⟨res, m₁⟩, hstart, hr⟩ := hr
    obtain ⟨hlimits, ⟨e, rfl⟩ | ⟨rfl, a, ha, hget⟩⟩ := startAttempt_attempt hstart
    · obtain ⟨-, ⟨_, -, -, rfl⟩ | ⟨hok, -⟩⟩ := startAttempt_spec hcustody hunowned hstart
      · exact .inl (failFromManager_declines hcustody hs hr)
      · cases hok
    · simp only [Checked.pure_eq, Except.ok.injEq] at hr
      have hm : m' = m₁ := by
        unfold started at hr
        split at hr <;> cases hr <;> rfl
      subst hm
      exact .inr ⟨a, ha, hget, hlimits, hr.symm⟩
  · simp only [hdecoded] at hr
    exact .inl (failLocal_declines h.toCustody hs hr)

/-- The proposal that the authority wrote is the one that is validated. -/
theorem receiveProposal_honest (h : Owns before x m) (hstate : x.state = .awaitingProposal)
    {v w : ValidatedOffer} {l : OfferLimits}
    (ha : m.attempts.get? x.connection = some (.opened v w l)) {contract : NegotiatedContract}
    {order : ContractOrder contract} (hfits : contract.Fits)
    (hcounts : contract.capabilities.card ≤ maxVarint ∧ contract.schemas.size ≤ maxVarint)
    {requirements : NegotiationRequirements}
    (hr : x.receiveProposal alloc m requirements order.lists.bytes = .ok (r, x', m')) :
    Declines m.offerLimits x.state r x' m' ∨
      (NegotiationAttempt.opened v w l).Selects contract requirements ∧
        r = .ok (.send ⟨.negotiationValidated, []⟩) ∧
        x' = { x with state := .awaitingEstablished } ∧ m'.offerLimits = m.offerLimits ∧
        m'.attempts.get? x.connection = some { NegotiationAttempt.opened v w l with
          proposal := some contract, peerValidated := true } := by
  have hs : x.state.reports = true := by
    rw [hstate]
    rfl
  have hown := (h.past (by rw [hstate]; rfl)).1
  unfold receiveProposal at hr
  rcases decodeProposal_bytes alloc.list m.offerLimits order hfits
    hcounts with hdecoded | ⟨outcome, hdecoded⟩
  · simp only [hdecoded, Checked.ok_bind] at hr
    generalize hp : m.propose x.connection contract requirements = proposed at hr
    obtain ⟨res, m₁⟩ := proposed
    have hc₁ := (h.toCustody.propose hown hp).1
    obtain ⟨hl₁, ⟨e, rfl⟩ | ⟨rfl, a, ha', hselects, ha₁⟩⟩ := propose_attempt hp
    · exact .inl ((failFromManager_declines hc₁ hs hr).after hl₁)
    cases ha.symm.trans ha'
    obtain ⟨logs, hi₁⟩ := hc₁.known
    simp only [validatePeer, Checked.bind_eq_ok] at hr
    obtain ⟨⟨res, m₂⟩, hv, hr⟩ := hr
    have hc₂ := (hc₁.validate hown hv).1
    obtain ⟨hl₂, ⟨e, rfl⟩ | ⟨rfl, -, ha₂⟩⟩ := validateParty_attempt hi₁ ha₁ rfl hv
    · exact .inl ((failManagerState_declines hc₂ hr).after (hl₂.trans hl₁))
    have ha₂ := ha₂ (by simp [NegotiationAttempt.validatedBy, NegotiationAttempt.status,
      NegotiationAttempt.opened])
    simp only at hr
    split at hr
    · rename_i hne
      exact absurd rfl hne
    · cases hr
      exact .inr ⟨hselects, rfl, rfl, hl₂.trans hl₁, ha₂⟩
  · simp only [hdecoded, Checked.ok_bind] at hr
    exact .inl (failLocal_declines h.toCustody hs hr)

/-- The other party's validation is the last. -/
theorem receiveAcknowledgement_honest (h : Owns before x m) (hs : x.state.owning = true)
    {authority : Bool} {type : ControlFrameType} {progress : NegotiationProgress}
    {a : NegotiationAttempt} {contract : NegotiatedContract}
    (ha : m.attempts.get? x.connection = some a) (hcontract : a.proposal = some contract)
    (hlast : (a.validatedBy authority).status = .established)
    (hr : receiveAcknowledgement type authority progress x m [] = .ok (r, x', m')) :
    Declines m.offerLimits x.state r x' m' ∨
      r = .ok progress ∧ x' = { x with state := .established } ∧ m'.offerLimits = m.offerLimits ∧
        ∃ bytes, m'.established.get? x.connection = some ⟨contract, bytes⟩ := by
  have hown := (h.past hs).1
  obtain ⟨logs, hi⟩ := h.known
  simp only [receiveAcknowledgement, List.isEmpty_nil, not_true_eq_false, if_false,
    Checked.bind_eq_ok] at hr
  obtain ⟨⟨res, m₁⟩, hv, hr⟩ := hr
  have hc := (h.toCustody.validate hown hv).1
  obtain ⟨hl, ⟨e, rfl⟩ | ⟨rfl, hest, -⟩⟩ := validateParty_attempt hi ha hcontract hv
  · exact .inl ((failManagerState_declines hc hr).after hl)
  · simp only [hlast] at hr
    cases hr
    exact .inr ⟨rfl, rfl, hl, hest hlast⟩

/-- The peer's failure closes the exchange. -/
theorem receiveFailure_honest (h : Owns before x m) {frame : ControlFrame}
    (hframe : frame.IsFailure) (hr : x.receiveFailure m frame.body = .ok (r, x', m')) :
    ∃ outcome, r = .ok (.remoteFailed outcome) ∧ x'.state = .failed ∧
      m'.offerLimits = m.offerLimits := by
  obtain ⟨-, outcome, hbody⟩ := hframe
  simp only [receiveFailure, hbody] at hr
  exact ⟨outcome, closeWith_result h.toCustody hr⟩

/-- An exchange keeps its role. -/
theorem role_of_spec {β : Type} {res : Except NegotiationControlError β}
    {steps : β → List HandshakeStep}
    (h : Closed before x m res x' m' ∨ ∃ b, res = .ok b ∧ Proceeds before x m x' m' (steps b)) :
    x'.role = x.role := by
  rcases h with hclosed | ⟨b, -, hproceeds⟩
  · exact hclosed.role
  · exact hproceeds.role

end NegotiationExchange

theorem ExchangeRun.exec_role {s s' : ExchangeRun} {op : ExchangeOp} {reply : ExchangeReply}
    (hi : s.Inv) (h : s.exec op = .ok (reply, s')) : s'.exchange.role = s.exchange.role := by
  cases op with
  | prepareOffer alloc offer =>
    simp only [exec, Checked.bind_eq_ok, Checked.pure_eq, Except.ok.injEq] at h
    obtain ⟨⟨r, x, m⟩, hop, h⟩ := h
    cases h
    exact NegotiationExchange.role_of_spec (NegotiationExchange.prepareOffer_spec hi.owns hop)
  | proposeAuthority alloc order contract requirements =>
    simp only [exec, Checked.bind_eq_ok, Checked.pure_eq, Except.ok.injEq] at h
    obtain ⟨⟨r, x, m⟩, hop, h⟩ := h
    cases h
    exact NegotiationExchange.role_of_spec (NegotiationExchange.proposeAuthority_spec hi.owns hop)
  | receive alloc requirements frame =>
    simp only [exec, Checked.bind_eq_ok, Checked.pure_eq, Except.ok.injEq] at h
    obtain ⟨⟨r, x, m⟩, hop, h⟩ := h
    cases h
    exact NegotiationExchange.role_of_spec (NegotiationExchange.receive_spec hi.owns
      (hi.done.imp_right fun hdone => ⟨_, hdone⟩) hop)
  | abort =>
    simp only [exec, Checked.bind_eq_ok, Checked.pure_eq, Except.ok.injEq] at h
    obtain ⟨⟨r, x, m⟩, hop, h⟩ := h
    cases h
    exact (NegotiationExchange.abort_spec hi.owns hop).role
  | other op =>
    simp only [exec, Checked.bind_eq_ok, Checked.pure_eq, Except.ok.injEq] at h
    obtain ⟨⟨reply, m⟩, -, h⟩ := h
    cases h
    rfl

end RunenNet

import RunenNet.Core.NegotiationEntries
import RunenNet.Quic.ExchangeAnswers
import RunenNet.Quic.ProposalCodec

/-!
# What a negotiation exchange owns

An exchange owns the manager's entry of its connection from the start of the attempt until it
fails. Every operation either closes the exchange, which ends exactly what it owned, or takes the
next step of the handshake of its role.
-/

namespace RunenNet

open Foundation

/-- The states in which the manager has an entry of the exchange. -/
def NegotiationState.owning : NegotiationState → Bool
  | .awaitingAuthoritySelection | .awaitingProposal | .awaitingValidated | .awaitingEstablished
  | .established => true
  | .ready | .awaitingPeerOffer | .failed => false

inductive HandshakeStep where
  | sent (type : ControlFrameType)
  | received (type : ControlFrameType)
  deriving DecidableEq, Repr

/-- What was sent and received when the exchange of a role is in a state; not every state is one
of either role. -/
def handshake : SemanticRole → NegotiationState → Option (List HandshakeStep)
  | _, .ready => some []
  | _, .awaitingPeerOffer => some [.sent .negotiationOffer]
  | .authority, .awaitingAuthoritySelection | .nonAuthority, .awaitingProposal =>
    some [.sent .negotiationOffer, .received .negotiationOffer]
  | .authority, .awaitingValidated =>
    some [.sent .negotiationOffer, .received .negotiationOffer, .sent .negotiationProposal]
  | .nonAuthority, .awaitingEstablished =>
    some [.sent .negotiationOffer, .received .negotiationOffer, .received .negotiationProposal,
      .sent .negotiationValidated]
  | .authority, .established =>
    some [.sent .negotiationOffer, .received .negotiationOffer, .sent .negotiationProposal,
      .received .negotiationValidated, .sent .negotiationEstablished]
  | .nonAuthority, .established =>
    some [.sent .negotiationOffer, .received .negotiationOffer, .received .negotiationProposal,
      .sent .negotiationValidated, .received .negotiationEstablished]
  | _, _ => none

/-- `steps` lead from one state of the role's handshake to another. -/
def Advances (role : SemanticRole) (state state' : NegotiationState) (steps : List HandshakeStep) :
    Prop :=
  ∃ done, handshake role state = some done ∧ handshake role state' = some (done ++ steps)

/-- The frame that is sent in answer to a received one. -/
def NegotiationProgress.sent : NegotiationProgress → List HandshakeStep
  | .send frame => [.sent frame.frameType]
  | _ => []

namespace NegotiationExchange

open NegotiationManager

variable {before m m₁ m' : NegotiationManager} {x x' : NegotiationExchange}
  {alloc : NegotiationAllocator} {α : Type} {r : Except NegotiationControlError α}

/-! ### Custody -/

/-- The entry of the connection is the one from before the exchange, or its own. -/
structure Custody (before : NegotiationManager) (x : NegotiationExchange) (m : NegotiationManager) :
    Prop where
  known : ∃ logs, m.Inv logs
  owned : x.managerOwned = true → ¬ before.Holds x.connection ∧ m.Holds x.connection
  unowned : x.managerOwned = false → SameAt before m x.connection

structure Owns (before : NegotiationManager) (x : NegotiationExchange) (m : NegotiationManager) :
    Prop extends Custody before x m where
  owning : x.managerOwned = x.state.owning
  offer : x.localOffer.isSome ↔ x.state = .awaitingPeerOffer
  contract : x.state = .established → (m.established.get? x.connection).isSome

/-- The manager's entry may change while the exchange owns it. -/
theorem Custody.next (h : Custody before x m) (hown : x.managerOwned = true)
    (hknown : ∃ logs, m₁.Inv logs) (hholds : m₁.Holds x.connection) : Custody before x m₁ where
  known := hknown
  owned := fun _ => ⟨(h.owned hown).1, hholds⟩
  unowned := fun hnot => by
    rw [hown] at hnot
    cases hnot

/-- An operation that closed the exchange. -/
structure Closed (before : NegotiationManager) (x : NegotiationExchange) (m : NegotiationManager)
    (r : Except NegotiationControlError α) (x' : NegotiationExchange) (m' : NegotiationManager) :
    Prop where
  owns : Owns before x' m'
  failed : x'.state = .failed
  connection : x'.connection = x.connection
  role : x'.role = x.role
  others : OnlyAt x.connection m m'
  known : r ≠ .error (.managerState .unknownConnection)

/-- An operation that took `steps` of the handshake. -/
structure Proceeds (before : NegotiationManager) (x : NegotiationExchange) (m : NegotiationManager)
    (x' : NegotiationExchange) (m' : NegotiationManager) (steps : List HandshakeStep) : Prop where
  owns : Owns before x' m'
  connection : x'.connection = x.connection
  role : x'.role = x.role
  others : OnlyAt x.connection m m'
  advances : Advances x.role x.state x'.state steps

theorem Closed.after (h : Closed before x m₁ r x' m') (ho : OnlyAt x.connection m m₁) :
    Closed before x m r x' m' :=
  ⟨h.owns, h.failed, h.connection, h.role, ho.trans h.others, h.known⟩

/-! ### Closing -/

/-- Closing ends exactly what the exchange owned, and cannot fail. -/
theorem close_spec (h : Custody before x m) {r : Except NegotiationManagerError Unit}
    (hc : x.close m = .ok (r, x', m')) :
    r = .ok () ∧ x' = { x with localOffer := none, state := .failed, managerOwned := false } ∧
      OnlyAt x.connection m m' ∧ SameAt before m' x.connection ∧ ∃ logs, m'.Inv logs := by
  unfold close releaseManager at hc
  split at hc
  · rename_i hnot
    rw [Bool.not_eq_true] at hnot
    cases hc
    refine ⟨rfl, ?_, .refl, h.unowned hnot, h.known⟩
    exact congrArg (fun b => { x with localOffer := none, state := .failed, managerOwned := b }) hnot
  · rename_i hown
    rw [not_not] at hown
    obtain ⟨hfresh, hholds⟩ := h.owned hown
    obtain ⟨logs, hi⟩ := h.known
    simp only [Checked.bind_eq_ok, Checked.pure_eq, Except.ok.injEq, Prod.mk.injEq] at hc
    obtain ⟨⟨res, m₁⟩, hterm, rfl, rfl, rfl⟩ := hc
    obtain ⟨honly, ⟨t, rfl, -, hgone⟩ | ⟨-, hnot, -⟩⟩ := terminate_entries hi hterm
    · obtain ⟨_, _, hterm', hi'⟩ := terminate_keeps hi x.connection
      rw [hterm] at hterm'
      cases hterm'
      refine ⟨rfl, rfl, honly, ?_, _, hi'⟩
      rw [not_holds] at hfresh hgone
      exact ⟨hgone.1.trans hfresh.1.symm, hgone.2.trans hfresh.2.symm⟩
    · exact absurd hholds hnot

theorem closeWith_spec {result : Except NegotiationControlError α} (h : Custody before x m)
    (hresult : result ≠ .error (.managerState .unknownConnection))
    (hc : x.closeWith m result = .ok (r, x', m')) : Closed before x m r x' m' := by
  simp only [closeWith, Checked.bind_eq_ok] at hc
  obtain ⟨⟨res, x₁, m₁⟩, hclose, hc⟩ := hc
  obtain ⟨rfl, rfl, honly, hsame, hknown⟩ := close_spec h hclose
  cases hc
  exact {
    owns := {
      known := hknown
      owned := fun hown => by cases hown
      unowned := fun _ => hsame
      owning := rfl
      offer := ⟨fun hoffer => by (cases hoffer), fun hstate => by cases hstate⟩
      contract := fun hstate => by cases hstate }
    failed := rfl
    connection := rfl
    role := rfl
    others := honly
    known := hresult }

theorem failLocal_spec (h : Custody before x m) {outcome : NegotiationOutcome}
    (hc : x.failLocal alloc m outcome = .ok (r, x', m')) : Closed before x m r x' m' := by
  refine closeWith_spec h ?_ hc
  nofun

theorem failProtocol_spec (h : Custody before x m) {e : NegotiationProtocolError}
    (hc : x.failProtocol m e = .ok (r, x', m')) : Closed before x m r x' m' := by
  refine closeWith_spec h ?_ hc
  nofun

theorem failUnexpectedStatus_spec (h : Custody before x m) {status : NegotiationStatus}
    (hc : x.failUnexpectedStatus m status = .ok (r, x', m')) : Closed before x m r x' m' := by
  refine closeWith_spec h ?_ hc
  nofun

theorem failManagerState_spec (h : Custody before x m) {e : NegotiationManagerError}
    (he : e ≠ .unknownConnection) (hc : x.failManagerState m e = .ok (r, x', m')) :
    Closed before x m r x' m' := by
  refine closeWith_spec h (fun heq => he ?_) hc
  cases heq
  rfl

theorem failDecode_spec (h : Custody before x m) {e : BodyDecodeError}
    (hc : x.failDecode alloc m e = .ok (r, x', m')) : Closed before x m r x' m' := by
  cases e with
  | protocol e => exact failProtocol_spec h hc
  | failure outcome => exact failLocal_spec h hc

/-- Only the error itself is passed on. -/
theorem managerFailureOutcome_error {e e' : NegotiationManagerError}
    (h : managerFailureOutcome e = .error e') : e' = e := by
  unfold managerFailureOutcome at h
  split at h
  · cases h
  · cases h
  · split at h <;> cases h <;> rfl
  · cases h
    rfl
  · cases h
    rfl

theorem failFromManager_spec (h : Custody before x m) {e : NegotiationManagerError}
    (he : e ≠ .unknownConnection) (hc : x.failFromManager alloc m e = .ok (r, x', m')) :
    Closed before x m r x' m' := by
  unfold failFromManager at hc
  split at hc
  · exact failLocal_spec h hc
  · rename_i e' he'
    cases managerFailureOutcome_error he'
    exact failManagerState_spec h he hc

/-! ### Steps of the manager on the owned entry -/

theorem propose_known {logs : AttemptLogs} {contract : NegotiatedContract} {c : ConnectionHandle}
    {requirements : NegotiationRequirements} {r : Except NegotiationManagerError Unit}
    (hi : m.Inv logs) (h : m.propose c contract requirements = (r, m₁)) : ∃ logs, m₁.Inv logs := by
  have hi' := propose_keeps hi c contract requirements
  rw [h] at hi'
  exact ⟨_, hi'⟩

theorem validateParty_known {logs : AttemptLogs} {c : ConnectionHandle} {authority : Bool}
    {r : Except NegotiationManagerError NegotiationStatus} (hi : m.Inv logs)
    (h : m.validateParty c authority = .ok (r, m₁)) : ∃ logs, m₁.Inv logs := by
  obtain ⟨_, _, h', hi'⟩ := validateParty_keeps hi c authority
  rw [h] at h'
  cases h'
  exact ⟨_, hi'⟩

theorem Custody.propose {contract : NegotiatedContract} {requirements : NegotiationRequirements}
    {r : Except NegotiationManagerError Unit} (h : Custody before x m)
    (hown : x.managerOwned = true) (hp : m.propose x.connection contract requirements = (r, m₁)) :
    Custody before x m₁ ∧ OnlyAt x.connection m m₁ ∧ r ≠ .error .unknownConnection := by
  obtain ⟨logs, hi⟩ := h.known
  have hholds := (h.owned hown).2
  obtain ⟨honly, ⟨e, rfl, rfl, he⟩ | ⟨rfl, hsome⟩⟩ := propose_entries hp
  · exact ⟨h, honly, fun heq => he hholds (by cases heq; rfl)⟩
  · exact ⟨h.next hown (propose_known hi hp) (.inl hsome), honly, nofun⟩

theorem Custody.validate {authority : Bool} {r : Except NegotiationManagerError NegotiationStatus}
    (h : Custody before x m) (hown : x.managerOwned = true)
    (hv : m.validateParty x.connection authority = .ok (r, m₁)) :
    Custody before x m₁ ∧ OnlyAt x.connection m m₁ ∧ r ≠ .error .unknownConnection ∧
      (r = .ok .established → (m₁.established.get? x.connection).isSome) := by
  obtain ⟨logs, hi⟩ := h.known
  have hholds := (h.owned hown).2
  have hknown := validateParty_known hi hv
  obtain ⟨honly, ⟨e, rfl, he⟩ | ⟨status, rfl, hest, hpending⟩⟩ := validateParty_entries hv
  · obtain ⟨hholds', hne⟩ := he hholds
    exact ⟨h.next hown hknown hholds', honly, fun heq => hne (by cases heq; rfl), nofun⟩
  · have hholds' : m₁.Holds x.connection := by
      by_cases hstatus : status = .established
      · exact .inr (hest hstatus)
      · exact .inl (hpending hstatus)
    exact ⟨h.next hown hknown hholds', honly, nofun, fun heq => hest (by cases heq; rfl)⟩

/-! ### Local calls -/

theorem prepareOffer_spec (h : Owns before x m) {offer : CompatibilityOffer}
    {r : Except NegotiationControlError ControlFrame}
    (hr : x.prepareOffer alloc m offer = .ok (r, x', m')) :
    Closed before x m r x' m' ∨
      ∃ frame, r = .ok frame ∧ Proceeds before x m x' m' [.sent frame.frameType] := by
  unfold prepareOffer at hr
  split at hr
  · exact .inl (failProtocol_spec h.toCustody hr)
  · rename_i hstate
    rw [not_not] at hstate
    split at hr
    · exact .inl (failLocal_spec h.toCustody hr)
    · split at hr
      · exact .inl (failLocal_spec h.toCustody hr)
      · simp only [Checked.bind_eq_ok] at hr
        obtain ⟨encoded, -, hr⟩ := hr
        cases encoded with
        | error outcome => exact .inl (failLocal_spec h.toCustody hr)
        | ok body =>
          cases hr
          refine .inr ⟨_, rfl, {
            owns := {
              known := h.known
              owned := h.owned
              unowned := h.unowned
              owning := by
                rw [h.owning, hstate]
                rfl
              offer := ⟨fun _ => rfl, fun _ => rfl⟩
              contract := nofun }
            connection := rfl
            role := rfl
            others := .refl
            advances := ?_ }⟩
          rw [hstate]
          cases x.role <;> exact ⟨_, rfl, rfl⟩

theorem proposeAuthority_spec (h : Owns before x m)
    {order : ∀ c : NegotiatedContract, ContractOrder c} {contract : NegotiatedContract}
    {requirements : NegotiationRequirements} {r : Except NegotiationControlError ControlFrame}
    (hr : x.proposeAuthority alloc order m contract requirements = .ok (r, x', m')) :
    Closed before x m r x' m' ∨
      ∃ frame, r = .ok frame ∧ Proceeds before x m x' m' [.sent frame.frameType] := by
  unfold proposeAuthority at hr
  split at hr
  · exact .inl (failProtocol_spec h.toCustody hr)
  · rename_i hrole
    rw [not_not] at hrole
    split at hr
    · exact .inl (failProtocol_spec h.toCustody hr)
    · rename_i hstate
      rw [not_not] at hstate
      have hown : x.managerOwned = true := by
        rw [h.owning, hstate]
        rfl
      generalize hp : m.propose x.connection contract requirements = proposed at hr
      obtain ⟨res, m₁⟩ := proposed
      obtain ⟨hc₁, ho₁, hne₁⟩ := h.toCustody.propose hown hp
      cases res with
      | error e =>
        exact .inl ((failFromManager_spec hc₁ (fun heq => hne₁ (by rw [heq])) hr).after ho₁)
      | ok u =>
        simp only [validateAuthority, Checked.bind_eq_ok] at hr
        obtain ⟨⟨res, m₂⟩, hv, hr⟩ := hr
        obtain ⟨hc₂, ho₂, hne₂, -⟩ := hc₁.validate hown hv
        have ho := ho₁.trans ho₂
        cases res with
        | error e =>
          exact .inl ((failManagerState_spec hc₂ (fun heq => hne₂ (by rw [heq])) hr).after ho)
        | ok status =>
          simp only at hr
          split at hr
          · exact .inl ((failUnexpectedStatus_spec hc₂ hr).after ho)
          · split at hr
            · rename_i e he
              refine .inl ((failManagerState_spec hc₂ ?_ hr).after ho)
              unfold attemptProposal at he
              split at he
              · rename_i e' he'
                cases he
                exact attempt_known (hc₂.owned hown).2 he'
              · split at he <;> cases he
                simp
            · rename_i proposal _
              simp only [Checked.bind_eq_ok] at hr
              obtain ⟨encoded, -, hr⟩ := hr
              cases encoded with
              | error outcome => exact .inl ((failLocal_spec hc₂ hr).after ho)
              | ok body =>
                cases hr
                refine .inr ⟨_, rfl, {
                  owns := {
                    known := hc₂.known
                    owned := hc₂.owned
                    unowned := hc₂.unowned
                    owning := hown
                    offer := ⟨fun hsome => ?_, fun hawaits => by cases hawaits⟩
                    contract := fun hestablished => by cases hestablished }
                  connection := rfl
                  role := rfl
                  others := ho
                  advances := ?_ }⟩
                · rw [h.offer, hstate] at hsome
                  cases hsome
                · rw [hrole, hstate]
                  exact ⟨_, rfl, rfl⟩

/-! ### Received frames -/

/-- The exchange went on by a received frame. -/
def Receives (before : NegotiationManager) (x : NegotiationExchange) (m : NegotiationManager)
    (type : ControlFrameType) (r : Except NegotiationControlError NegotiationProgress)
    (x' : NegotiationExchange) (m' : NegotiationManager) : Prop :=
  Closed before x m r x' m' ∨
    ∃ progress, r = .ok progress ∧ Proceeds before x m x' m' (.received type :: progress.sent)

variable {body : List UInt8} {r : Except NegotiationControlError NegotiationProgress}

/-- What is closed without the offer it was about to use. -/
theorem Closed.withoutOffer
    (h : Closed before { x with localOffer := none } m r x' m') : Closed before x m r x' m' :=
  ⟨h.owns, h.failed, h.connection, h.role, h.others, h.known⟩

theorem startAttempt_spec (h : Custody before x m) (hnot : x.managerOwned = false)
    {localOffer peerOffer : CompatibilityOffer} {res : Except NegotiationManagerError Unit}
    (hs : x.startAttempt m localOffer peerOffer = .ok (res, m₁)) :
    OnlyAt x.connection m m₁ ∧ ((∃ e, res = .error e ∧ e ≠ .unknownConnection ∧ m₁ = m) ∨
      res = .ok () ∧ ¬ before.Holds x.connection ∧ m₁.Holds x.connection ∧
        ∃ logs, m₁.Inv logs) := by
  have start : ∀ {a p : CompatibilityOffer}, m.start x.connection a p = .ok (res, m₁) →
      OnlyAt x.connection m m₁ ∧ ((∃ e, res = .error e ∧ e ≠ .unknownConnection ∧ m₁ = m) ∨
        res = .ok () ∧ ¬ before.Holds x.connection ∧ m₁.Holds x.connection ∧
          ∃ logs, m₁.Inv logs) := by
    intro a p hs
    obtain ⟨honly, herr | ⟨rfl, hfree, hsome⟩⟩ := start_entries hs
    · exact ⟨honly, .inl herr⟩
    · obtain ⟨logs, hi⟩ := h.known
      obtain ⟨_, _, hs', hi'⟩ := start_keeps hi x.connection a p
      rw [hs] at hs'
      cases hs'
      rw [(h.unowned hnot).holds] at hfree
      exact ⟨honly, .inr ⟨rfl, hfree, .inl hsome, _, hi'⟩⟩
  unfold startAttempt at hs
  split at hs
  · exact start hs
  · exact start hs

/-- The started attempt is the exchange's own. -/
theorem started_spec (hstate : x.state = .awaitingPeerOffer) (hoffer : x.localOffer = none)
    (honly : OnlyAt x.connection m m₁) (hfree : ¬ before.Holds x.connection)
    (hholds : m₁.Holds x.connection) (hknown : ∃ logs, m₁.Inv logs)
    (hr : x.started m₁ = (r, x', m')) : Receives before x m .negotiationOffer r x' m' := by
  have owns : ∀ state : NegotiationState, state.owning = true → state ≠ .established →
      Owns before { x with managerOwned := true, state := state } m₁ := fun state hs hne => {
    known := hknown
    owned := fun _ => ⟨hfree, hholds⟩
    unowned := nofun
    owning := hs.symm
    offer := by
      rw [hoffer]
      refine ⟨nofun, fun heq => ?_⟩
      simp only at heq
      rw [heq] at hs
      cases hs
    contract := fun heq => absurd heq hne }
  unfold started at hr
  split at hr
  · rename_i hrole
    cases hr
    refine .inr ⟨_, rfl, owns .awaitingAuthoritySelection rfl nofun, rfl, rfl, honly, ?_⟩
    rw [hrole, hstate]
    exact ⟨_, rfl, rfl⟩
  · rename_i hrole
    cases hr
    refine .inr ⟨_, rfl, owns .awaitingProposal rfl nofun, rfl, rfl, honly, ?_⟩
    rw [hrole, hstate]
    exact ⟨_, rfl, rfl⟩

theorem receiveOffer_spec (h : Owns before x m) (hstate : x.state = .awaitingPeerOffer)
    (hr : x.receiveOffer alloc m body = .ok (r, x', m')) :
    Receives before x m .negotiationOffer r x' m' := by
  have hnot : x.managerOwned = false := by
    rw [h.owning, hstate]
    rfl
  unfold receiveOffer at hr
  split at hr
  · exact .inl (failDecode_spec h.toCustody hr)
  · split at hr
    · rename_i hnone
      have hsome := h.offer.mpr hstate
      rw [hnone] at hsome
      cases hsome
    · have hcustody : Custody before { x with localOffer := none } m :=
        ⟨h.known, h.owned, h.unowned⟩
      simp only [Checked.bind_eq_ok] at hr
      obtain ⟨⟨res, m₁⟩, hs, hr⟩ := hr
      obtain ⟨honly, ⟨e, rfl, hne, rfl⟩ | ⟨rfl, hfree, hholds, hknown⟩⟩ :=
        startAttempt_spec hcustody hnot hs
      · exact .inl (failFromManager_spec hcustody hne hr).withoutOffer
      · simp only [Checked.pure_eq, Except.ok.injEq] at hr
        rcases started_spec (x := { x with localOffer := none }) hstate rfl honly hfree hholds
          hknown hr with hclosed | ⟨progress, hok, hp⟩
        · exact .inl hclosed.withoutOffer
        · exact .inr ⟨progress, hok,
            ⟨hp.owns, hp.connection, hp.role, hp.others, hp.advances⟩⟩

theorem Custody.contracted (h : Custody before x m) (hown : x.managerOwned = true)
    (hoffer : x.localOffer = none) {state : NegotiationState} (hs : state.owning = true)
    (hcontract : state = .established → (m.established.get? x.connection).isSome) :
    Owns before { x with state := state } m where
  known := h.known
  owned := h.owned
  unowned := h.unowned
  owning := hown.trans hs.symm
  offer := by
    rw [hoffer]
    refine ⟨nofun, fun heq => ?_⟩
    simp only at heq
    rw [heq] at hs
    cases hs
  contract := hcontract

/-- Past its offers an exchange owns its entry and has no offer left. -/
theorem Owns.past (h : Owns before x m) (hs : x.state.owning = true) :
    x.managerOwned = true ∧ x.localOffer = none := by
  refine ⟨h.owning.trans hs, ?_⟩
  cases hoffer : x.localOffer with
  | none => rfl
  | some offer =>
    have hstate := h.offer.mp (by rw [hoffer]; rfl)
    rw [hstate] at hs
    cases hs

theorem receiveProposal_spec (h : Owns before x m) (hstate : x.state = .awaitingProposal)
    (hrole : x.role = .nonAuthority) {requirements : NegotiationRequirements}
    (hr : x.receiveProposal alloc m requirements body = .ok (r, x', m')) :
    Receives before x m .negotiationProposal r x' m' := by
  obtain ⟨hown, hoffer⟩ := h.past (by rw [hstate]; rfl)
  simp only [receiveProposal, Checked.bind_eq_ok] at hr
  obtain ⟨decoded, -, hr⟩ := hr
  cases decoded with
  | error e => exact .inl (failDecode_spec h.toCustody hr)
  | ok contract =>
    simp only at hr
    generalize hp : m.propose x.connection contract requirements = proposed at hr
    obtain ⟨res, m₁⟩ := proposed
    obtain ⟨hc₁, ho₁, hne₁⟩ := h.toCustody.propose hown hp
    cases res with
    | error e =>
      exact .inl ((failFromManager_spec hc₁ (fun heq => hne₁ (by rw [heq])) hr).after ho₁)
    | ok u =>
      simp only [validatePeer, Checked.bind_eq_ok] at hr
      obtain ⟨⟨res, m₂⟩, hv, hr⟩ := hr
      obtain ⟨hc₂, ho₂, hne₂, -⟩ := hc₁.validate hown hv
      have ho := ho₁.trans ho₂
      cases res with
      | error e =>
        exact .inl ((failManagerState_spec hc₂ (fun heq => hne₂ (by rw [heq])) hr).after ho)
      | ok status =>
        simp only at hr
        split at hr
        · exact .inl ((failUnexpectedStatus_spec hc₂ hr).after ho)
        · cases hr
          refine .inr ⟨_, rfl, hc₂.contracted hown hoffer rfl (by simp), rfl, rfl, ho, ?_⟩
          rw [hrole, hstate]
          exact ⟨_, rfl, rfl⟩

/-- The last validation establishes the exchange. -/
theorem receiveAcknowledgement_spec (h : Owns before x m) {authority : Bool}
    {type : ControlFrameType} {progress : NegotiationProgress} (hs : x.state.owning = true)
    (hsteps : Advances x.role x.state .established (.received type :: progress.sent))
    (hr : receiveAcknowledgement type authority progress x m body = .ok (r, x', m')) :
    Receives before x m type r x' m' := by
  obtain ⟨hown, hoffer⟩ := h.past hs
  unfold receiveAcknowledgement at hr
  split at hr
  · exact .inl (failProtocol_spec h.toCustody hr)
  · simp only [Checked.bind_eq_ok] at hr
    obtain ⟨⟨res, m₁⟩, hv, hr⟩ := hr
    obtain ⟨hc, ho, hne, hcontract⟩ := h.toCustody.validate hown hv
    cases res with
    | error e =>
      exact .inl ((failManagerState_spec hc (fun heq => hne (by rw [heq])) hr).after ho)
    | ok status =>
      simp only at hr
      split at hr
      · exact .inl ((failUnexpectedStatus_spec hc hr).after ho)
      · rename_i hstatus
        rw [not_not] at hstatus
        cases hr
        exact .inr ⟨_, rfl, hc.contracted hown hoffer rfl fun _ => hcontract (by rw [hstatus]),
          rfl, rfl, ho, hsteps⟩

theorem receiveValidated_spec (h : Owns before x m) (hstate : x.state = .awaitingValidated)
    (hrole : x.role = .authority) (hr : x.receiveValidated m body = .ok (r, x', m')) :
    Receives before x m .negotiationValidated r x' m' := by
  refine receiveAcknowledgement_spec h (by rw [hstate]; rfl) ?_ hr
  rw [hrole, hstate]
  exact ⟨_, rfl, rfl⟩

theorem receiveEstablished_spec (h : Owns before x m) (hstate : x.state = .awaitingEstablished)
    (hrole : x.role = .nonAuthority) (hr : x.receiveEstablished m body = .ok (r, x', m')) :
    Receives before x m .negotiationEstablished r x' m' := by
  refine receiveAcknowledgement_spec h (by rw [hstate]; rfl) ?_ hr
  rw [hrole, hstate]
  exact ⟨_, rfl, rfl⟩

theorem receiveFailure_spec (h : Owns before x m) (hr : x.receiveFailure m body = .ok (r, x', m')) :
    Closed before x m r x' m' := by
  unfold receiveFailure at hr
  split at hr
  · exact failProtocol_spec h.toCustody hr
  · refine closeWith_spec h.toCustody ?_ hr
    nofun

/-- Only the authority proposes and awaits the validation of its proposal. -/
theorem role_of_handshake {done : List HandshakeStep} {role : SemanticRole} {state : NegotiationState}
    (h : handshake role state = some done) :
    (state = .awaitingProposal ∨ state = .awaitingEstablished → role = .nonAuthority) ∧
      (state = .awaitingValidated → role = .authority) := by
  refine ⟨?_, ?_⟩
  · rintro (rfl | rfl) <;> cases role <;> first | rfl | cases h
  · rintro rfl
    cases role <;> first | rfl | cases h

/-- Any frame in any state: it closes the exchange or is the next one of the handshake. -/
theorem receive_spec (h : Owns before x m)
    (hon : x.state = .failed ∨ ∃ done, handshake x.role x.state = some done)
    {requirements : NegotiationRequirements} {frame : ControlFrame}
    (hr : x.receive alloc m requirements frame = .ok (r, x', m')) :
    Receives before x m frame.frameType r x' m' := by
  have hroles : (x.state = .awaitingProposal ∨ x.state = .awaitingEstablished →
      x.role = .nonAuthority) ∧ (x.state = .awaitingValidated → x.role = .authority) := by
    rcases hon with hfailed | ⟨done, hdone⟩
    · rw [hfailed]
      refine ⟨?_, nofun⟩
      rintro (h | h) <;> cases h
    · exact role_of_handshake hdone
  unfold receive at hr
  split at hr
  · exact .inl (receiveFailure_spec h hr)
  · split at hr
    · rename_i hstate htype
      rw [htype]
      exact receiveOffer_spec h hstate hr
    · rename_i hstate htype
      rw [htype]
      exact receiveProposal_spec h hstate (hroles.1 (.inl hstate)) hr
    · rename_i hstate htype
      rw [htype]
      exact receiveValidated_spec h hstate (hroles.2 hstate) hr
    · rename_i hstate htype
      rw [htype]
      exact receiveEstablished_spec h hstate (hroles.1 (.inr hstate)) hr
    · exact .inl (failProtocol_spec h.toCustody hr)

theorem abort_spec (h : Owns before x m) {r : Except NegotiationControlError Unit}
    (hr : x.abort m = .ok (r, x', m')) : Closed before x m r x' m' := by
  refine closeWith_spec h.toCustody ?_ hr
  nofun

/-! ### No operation panics -/

open Checked

theorem closeWith_returns (h : Custody before x m) (result : Except NegotiationControlError α) :
    Returns (x.closeWith m result) := by
  have hclose : Returns (x.close m) := by
    unfold close releaseManager
    split
    · exact .ok _
    · obtain ⟨logs, hi⟩ := h.known
      obtain ⟨r, m₁, hterm, -⟩ := terminate_keeps hi x.connection
      exact .bind ⟨_, hterm⟩ fun _ _ => .ok _
  refine .bind hclose fun ⟨res, _, _⟩ _ => ?_
  cases res <;> exact .ok _

theorem failDecode_returns (h : Custody before x m) (e : BodyDecodeError) :
    Returns ((x.failDecode alloc m e : Checked (Exchanged α))) := by
  cases e <;> exact closeWith_returns h _

theorem failFromManager_returns (h : Custody before x m) (e : NegotiationManagerError) :
    Returns ((x.failFromManager alloc m e : Checked (Exchanged α))) := by
  unfold failFromManager
  split <;> exact closeWith_returns h _

theorem validate_returns (h : Custody before x m) (authority : Bool) :
    Returns (m.validateParty x.connection authority) := by
  obtain ⟨logs, hi⟩ := h.known
  obtain ⟨r, m₁, hv, -⟩ := validateParty_keeps hi x.connection authority
  exact ⟨_, hv⟩

theorem prepareOffer_returns (h : Custody before x m) (offer : CompatibilityOffer) :
    Returns (x.prepareOffer alloc m offer) := by
  unfold prepareOffer
  split
  · exact closeWith_returns h _
  · split
    · exact closeWith_returns h _
    · split
      · exact closeWith_returns h _
      · obtain ⟨encoded, hencoded, -⟩ := encodeOffer_cases alloc.body _ x.maxNegotiationFrameBytes
        refine .bind ⟨encoded, hencoded⟩ fun res _ => ?_
        cases res with
        | error outcome => exact closeWith_returns h _
        | ok body => exact .ok _

theorem proposeAuthority_returns (h : Owns before x m)
    (order : ∀ c : NegotiatedContract, ContractOrder c) (contract : NegotiatedContract)
    (requirements : NegotiationRequirements) :
    Returns (x.proposeAuthority alloc order m contract requirements) := by
  unfold proposeAuthority
  split
  · exact closeWith_returns h.toCustody _
  · split
    · exact closeWith_returns h.toCustody _
    · rename_i hstate
      rw [not_not] at hstate
      have hown := (h.past (by rw [hstate]; rfl)).1
      generalize hp : m.propose x.connection contract requirements = proposed
      obtain ⟨res, m₁⟩ := proposed
      have hc₁ := (h.toCustody.propose hown hp).1
      cases res with
      | error e => exact failFromManager_returns hc₁ e
      | ok u =>
        refine .bind (validate_returns hc₁ true) fun ⟨res, m₂⟩ hv => ?_
        have hc₂ := (hc₁.validate hown hv).1
        cases res with
        | error e => exact closeWith_returns hc₂ _
        | ok status =>
          simp only
          split
          · exact closeWith_returns hc₂ _
          · split
            · exact closeWith_returns hc₂ _
            · rename_i proposal _
              obtain ⟨encoded, hencoded, -⟩ := encodeProposal_cases alloc.body proposal
                (order proposal) x.maxNegotiationFrameBytes
              refine .bind ⟨encoded, hencoded⟩ fun res _ => ?_
              cases res with
              | error outcome => exact closeWith_returns hc₂ _
              | ok body => exact .ok _

theorem receiveOffer_returns (h : Custody before x m) (hnot : x.managerOwned = false)
    (body : List UInt8) : Returns (x.receiveOffer alloc m body) := by
  unfold receiveOffer
  split
  · exact failDecode_returns h _
  · rename_i peerOffer _
    split
    · exact .ok _
    · rename_i localOffer _
      have hcustody : Custody before { x with localOffer := none } m :=
        ⟨h.known, h.owned, h.unowned⟩
      obtain ⟨logs, hi⟩ := h.known
      have hstart : Returns (startAttempt { x with localOffer := none } m localOffer peerOffer) := by
        unfold startAttempt
        split
        · obtain ⟨r, m₁, hs, -⟩ := start_keeps hi x.connection localOffer peerOffer
          exact ⟨_, hs⟩
        · obtain ⟨r, m₁, hs, -⟩ := start_keeps hi x.connection peerOffer localOffer
          exact ⟨_, hs⟩
      refine .bind hstart fun ⟨res, m₁⟩ hs => ?_
      obtain ⟨-, ⟨e, rfl, -, rfl⟩ | ⟨rfl, -⟩⟩ := startAttempt_spec hcustody hnot hs
      · exact failFromManager_returns hcustody e
      · exact .ok _

theorem receiveProposal_returns (h : Owns before x m) (hstate : x.state = .awaitingProposal)
    (requirements : NegotiationRequirements) (body : List UInt8) :
    Returns (x.receiveProposal alloc m requirements body) := by
  have hown := (h.past (by rw [hstate]; rfl)).1
  obtain ⟨decoded, hdecoded, -⟩ := decodeProposal_cases alloc.list body m.offerLimits
  refine .bind ⟨decoded, hdecoded⟩ fun res _ => ?_
  cases res with
  | error e => exact failDecode_returns h.toCustody e
  | ok contract =>
    simp only
    generalize hp : m.propose x.connection contract requirements = proposed
    obtain ⟨res, m₁⟩ := proposed
    have hc₁ := (h.toCustody.propose hown hp).1
    cases res with
    | error e => exact failFromManager_returns hc₁ e
    | ok u =>
      refine .bind (validate_returns hc₁ false) fun ⟨res, m₂⟩ hv => ?_
      have hc₂ := (hc₁.validate hown hv).1
      cases res with
      | error e => exact closeWith_returns hc₂ _
      | ok status =>
        simp only
        split
        · exact closeWith_returns hc₂ _
        · exact .ok _

theorem receiveAcknowledgement_returns (h : Owns before x m) (hs : x.state.owning = true)
    (type : ControlFrameType) (authority : Bool) (progress : NegotiationProgress)
    (body : List UInt8) : Returns (receiveAcknowledgement type authority progress x m body) := by
  have hown := (h.past hs).1
  unfold receiveAcknowledgement
  split
  · exact closeWith_returns h.toCustody _
  · refine .bind (validate_returns h.toCustody authority) fun ⟨res, m₁⟩ hv => ?_
    have hc := (h.toCustody.validate hown hv).1
    cases res with
    | error e => exact closeWith_returns hc _
    | ok status =>
      simp only
      split
      · exact closeWith_returns hc _
      · exact .ok _

theorem receive_returns (h : Owns before x m) (requirements : NegotiationRequirements)
    (frame : ControlFrame) : Returns (x.receive alloc m requirements frame) := by
  unfold receive
  split
  · unfold receiveFailure
    split <;> exact closeWith_returns h.toCustody _
  · split
    · rename_i hstate _
      exact receiveOffer_returns h.toCustody (by rw [h.owning, hstate]; rfl) _
    · rename_i hstate _
      exact receiveProposal_returns h hstate requirements _
    · rename_i hstate _
      exact receiveAcknowledgement_returns h (by rw [hstate]; rfl) _ _ _ _
    · rename_i hstate _
      exact receiveAcknowledgement_returns h (by rw [hstate]; rfl) _ _ _ _
    · exact closeWith_returns h.toCustody _

end NegotiationExchange

/-! ### Runs -/

/-- An exchange and the manager it shares. `before` is the manager as the exchange began and
`done` what was sent and received; neither is read. -/
structure ExchangeRun where
  exchange : NegotiationExchange
  manager : NegotiationManager
  before : NegotiationManager
  done : List HandshakeStep

inductive ExchangeOp where
  | prepareOffer (alloc : NegotiationAllocator) (offer : CompatibilityOffer)
  | proposeAuthority (alloc : NegotiationAllocator)
      (order : ∀ c : NegotiatedContract, ContractOrder c) (contract : NegotiatedContract)
      (requirements : NegotiationRequirements)
  | receive (alloc : NegotiationAllocator) (requirements : NegotiationRequirements)
      (frame : ControlFrame)
  | abort
  /-- Another user of the manager. -/
  | other (op : NegotiationOp)

inductive ExchangeReply where
  | offered (r : Except NegotiationControlError ControlFrame)
  | proposed (r : Except NegotiationControlError ControlFrame)
  | received (type : ControlFrameType) (r : Except NegotiationControlError NegotiationProgress)
  | aborted (r : Except NegotiationControlError Unit)
  | other (reply : NegotiationReply)

namespace ExchangeReply

/-- What a reply says was sent and received. -/
def steps : ExchangeReply → List HandshakeStep
  | .offered (.ok frame) | .proposed (.ok frame) => [.sent frame.frameType]
  | .received type (.ok progress) => .received type :: progress.sent
  | _ => []

/-- The error of an operation of the exchange. -/
def error : ExchangeReply → Option NegotiationControlError
  | .offered (.error e) | .proposed (.error e) | .received _ (.error e) | .aborted (.error e) =>
    some e
  | _ => none

/-- A reply that ends the exchange: an error, an abort, or a failure that the peer reported. -/
def fails : ExchangeReply → Bool
  | .received _ (.ok (.remoteFailed _)) | .aborted _ => true
  | reply => reply.error.isSome

end ExchangeReply

namespace ExchangeRun

open NegotiationManager NegotiationExchange

variable {s s' : ExchangeRun}

def after (s : ExchangeRun) (reply : ExchangeReply) (x : NegotiationExchange)
    (m : NegotiationManager) : ExchangeReply × ExchangeRun :=
  (reply, ⟨x, m, s.before, s.done ++ reply.steps⟩)

def exec (s : ExchangeRun) : ExchangeOp → Checked (ExchangeReply × ExchangeRun)
  | .prepareOffer alloc offer => do
    let (r, x, m) ← s.exchange.prepareOffer alloc s.manager offer
    return s.after (.offered r) x m
  | .proposeAuthority alloc order contract requirements => do
    let (r, x, m) ← s.exchange.proposeAuthority alloc order s.manager contract requirements
    return s.after (.proposed r) x m
  | .receive alloc requirements frame => do
    let (r, x, m) ← s.exchange.receive alloc s.manager requirements frame
    return s.after (.received frame.frameType r) x m
  | .abort => do
    let (r, x, m) ← s.exchange.abort s.manager
    return s.after (.aborted r) x m
  | .other op => do
    let (reply, m) ← s.manager.exec op
    return s.after (.other reply) s.exchange m

/-- The other users leave the entry of the connection to the exchange. -/
def Apart (s : ExchangeRun) : ExchangeOp → Prop
  | .other op => op.connection ≠ s.exchange.connection
  | _ => True

def Step (s s' : ExchangeRun) : Prop := ∃ op reply, Apart s op ∧ s.exec op = .ok (reply, s')

/-- A new exchange over a manager in any state it can reach. -/
structure Starts (s : ExchangeRun) : Prop where
  exchange : ∃ connection localSettings peerSettings,
    s.exchange = .fromProfile connection localSettings peerSettings
  manager : ∃ logs, Reachable NegotiationRun.Starts NegotiationRun.Step ⟨s.manager, logs⟩
  before : s.before = s.manager
  done : s.done = []

structure Inv (s : ExchangeRun) : Prop where
  owns : s.exchange.Owns s.before s.manager
  done : s.exchange.state = .failed ∨
    handshake s.exchange.role s.exchange.state = some s.done

theorem start_inv (h : Starts s) : Inv s := by
  obtain ⟨⟨connection, localSettings, peerSettings, hx⟩, ⟨logs, hm⟩, hbefore, hdone⟩ := h
  refine ⟨?_, .inr ?_⟩
  · rw [hbefore]
    exact {
      known := ⟨logs, NegotiationRun.inv_of_reachable hm⟩
      owned := fun hown => by
        rw [hx] at hown
        cases hown
      unowned := fun _ => .refl
      owning := by rw [hx]; rfl
      offer := by
        rw [hx]
        exact ⟨nofun, nofun⟩
      contract := fun hstate => by
        rw [hx] at hstate
        cases hstate }
  · rw [hx, hdone]
    cases localSettings.semanticRole <;> rfl

/-- What one step does: nothing to the entries of others if the exchange acts, nothing to its own
if others do. -/
structure StepEffect (s : ExchangeRun) (op : ExchangeOp) (reply : ExchangeReply)
    (s' : ExchangeRun) : Prop where
  inv : Inv s'
  connection : s'.exchange.connection = s.exchange.connection
  before : s'.before = s.before
  failed : s.exchange.state = .failed → s'.exchange.state = .failed
  others : (∀ o, op ≠ .other o) → OnlyAt s.exchange.connection s.manager s'.manager
  known : reply.error ≠ some (.managerState .unknownConnection)
  fails : reply.fails = true → s'.exchange.state = .failed

/-- An operation of the exchange closed it or took the next step. -/
theorem effect_of_spec {α : Type} {r : Except NegotiationControlError α} {x : NegotiationExchange}
    {m : NegotiationManager} {op : ExchangeOp} {reply : ExchangeReply} (hi : Inv s)
    (hspec : Closed s.before s.exchange s.manager r x m ∨
      ∃ a, r = .ok a ∧ Proceeds s.before s.exchange s.manager x m reply.steps)
    (hreply : reply.error = match r with | .error e => some e | .ok _ => none)
    (hfails : ∀ a, r = .ok a → reply.fails = true → x.state = .failed) :
    StepEffect s op reply (s.after reply x m).2 := by
  rcases hspec with hc | ⟨a, rfl, hp⟩
  · refine ⟨⟨hc.owns, .inl hc.failed⟩, hc.connection, rfl, fun _ => hc.failed, fun _ => hc.others,
      ?_, fun _ => hc.failed⟩
    rw [hreply]
    cases r with
    | error e =>
      intro heq
      cases heq
      exact hc.known rfl
    | ok a => nofun
  · obtain ⟨done, hdone, hnext⟩ := hp.advances
    have hne : s.exchange.state ≠ .failed := fun hfailed => by
      rw [hfailed] at hdone
      cases s.exchange.role <;> cases hdone
    refine ⟨⟨hp.owns, ?_⟩, hp.connection, rfl, fun hfailed => absurd hfailed hne,
      fun _ => hp.others, ?_, hfails a rfl⟩
    · right
      rcases hi.done with hfailed | hcurrent
      · exact absurd hfailed hne
      · cases hdone.symm.trans hcurrent
        show handshake x.role x.state = some (s.done ++ reply.steps)
        rw [hp.role]
        exact hnext
    · rw [hreply]
      nofun

theorem other_effect {op : NegotiationOp} {reply : NegotiationReply} {m : NegotiationManager}
    (hi : Inv s) (hapart : op.connection ≠ s.exchange.connection)
    (h : s.manager.exec op = .ok (reply, m)) :
    StepEffect s (.other op) (.other reply) (s.after (.other reply) s.exchange m).2 := by
  obtain ⟨logs, hm⟩ := hi.owns.known
  have hsame : SameAt s.manager m s.exchange.connection := exec_onlyAt hm h _ hapart.symm
  have hknown : ∃ logs, m.Inv logs := by
    obtain ⟨_, _, h', hm'⟩ := exec_keeps hm op
    rw [h] at h'
    cases h'
    exact ⟨_, hm'⟩
  exact {
    inv := {
      owns := {
        known := hknown
        owned := fun hown => (hi.owns.owned hown).imp_right hsame.holds.mpr
        unowned := fun hnot => (hi.owns.unowned hnot).trans hsame
        owning := hi.owns.owning
        offer := hi.owns.offer
        contract := fun hstate => by
          show (m.established.get? s.exchange.connection).isSome
          rw [hsame.2]
          exact hi.owns.contract hstate }
      done := hi.done.imp_right fun hdone => by
        show _ = some (s.done ++ [])
        rw [List.append_nil]
        exact hdone }
    connection := rfl
    before := rfl
    failed := id
    others := fun hne => absurd rfl (hne op)
    known := nofun
    fails := fun hfails => by cases hfails }

/-- Every operation closes the exchange, takes its next step or is another's. -/
theorem exec_effect {op : ExchangeOp} {reply : ExchangeReply} (hi : Inv s) (hapart : Apart s op)
    (h : s.exec op = .ok (reply, s')) : StepEffect s op reply s' := by
  cases op with
  | prepareOffer alloc offer =>
    simp only [exec, Checked.bind_eq_ok, Checked.pure_eq, Except.ok.injEq] at h
    obtain ⟨⟨r, x, m⟩, hop, h⟩ := h
    cases h
    refine effect_of_spec hi ((prepareOffer_spec hi.owns hop).imp_right ?_) (by cases r <;> rfl) ?_
    · rintro ⟨frame, rfl, hp⟩
      exact ⟨frame, rfl, hp⟩
    · rintro frame rfl hfails
      cases hfails
  | proposeAuthority alloc order contract requirements =>
    simp only [exec, Checked.bind_eq_ok, Checked.pure_eq, Except.ok.injEq] at h
    obtain ⟨⟨r, x, m⟩, hop, h⟩ := h
    cases h
    refine effect_of_spec hi ((proposeAuthority_spec hi.owns hop).imp_right ?_)
      (by cases r <;> rfl) ?_
    · rintro ⟨frame, rfl, hp⟩
      exact ⟨frame, rfl, hp⟩
    · rintro frame rfl hfails
      cases hfails
  | receive alloc requirements frame =>
    simp only [exec, Checked.bind_eq_ok, Checked.pure_eq, Except.ok.injEq] at h
    obtain ⟨⟨r, x, m⟩, hop, h⟩ := h
    cases h
    have hspec := receive_spec hi.owns (hi.done.imp_right fun hdone => ⟨_, hdone⟩) hop
    refine effect_of_spec hi (hspec.imp_right ?_) (by cases r <;> rfl) ?_
    · rintro ⟨progress, rfl, hp⟩
      exact ⟨progress, rfl, hp⟩
    · rintro progress rfl hfails
      cases progress with
      | remoteFailed outcome => exact (receive_answers hop).failed_of_remote
      | waiting => cases hfails
      | authoritySelectionRequired => cases hfails
      | send frame => cases hfails
      | established => cases hfails
  | abort =>
    simp only [exec, Checked.bind_eq_ok, Checked.pure_eq, Except.ok.injEq] at h
    obtain ⟨⟨r, x, m⟩, hop, h⟩ := h
    cases h
    have hclosed := abort_spec hi.owns hop
    exact effect_of_spec hi (.inl hclosed) (by cases r <;> rfl) fun _ _ _ => hclosed.failed
  | other op =>
    simp only [exec, Checked.bind_eq_ok, Checked.pure_eq, Except.ok.injEq] at h
    obtain ⟨⟨reply, m⟩, hop, h⟩ := h
    cases h
    exact other_effect hi hapart hop

theorem reachable_inv (h : Reachable Starts Step s) : Inv s := by
  refine h.invariant (P := Inv) (fun _ => start_inv) ?_
  rintro s t hi ⟨op, reply, hapart, hexec⟩
  exact (exec_effect hi hapart hexec).inv

/-- A failed exchange stays failed. -/
theorem failed_stays (hi : Inv s) (hfailed : s.exchange.state = .failed)
    (hrun : Relation.ReflTransGen Step s s') : s'.exchange.state = .failed := by
  have hboth : Inv s' ∧ s'.exchange.state = .failed := by
    induction hrun with
    | refl => exact ⟨hi, hfailed⟩
    | tail _ hstep ih =>
      obtain ⟨op, reply, hapart, hexec⟩ := hstep
      have heff := exec_effect ih.1 hapart hexec
      exact ⟨heff.inv, heff.failed ih.2⟩
  exact hboth.2

/-- Every operation returns. -/
theorem exec_returns (hi : Inv s) (op : ExchangeOp) : ∃ reply s', s.exec op = .ok (reply, s') := by
  have hreturns : Checked.Returns (s.exec op) := by
    cases op with
    | prepareOffer alloc offer =>
      exact .bind (prepareOffer_returns hi.owns.toCustody offer) fun _ _ => .ok _
    | proposeAuthority alloc order contract requirements =>
      exact .bind (proposeAuthority_returns hi.owns order contract requirements) fun _ _ => .ok _
    | receive alloc requirements frame =>
      exact .bind (receive_returns hi.owns requirements frame) fun _ _ => .ok _
    | abort => exact .bind (closeWith_returns hi.owns.toCustody _) fun _ _ => .ok _
    | other op =>
      obtain ⟨logs, hm⟩ := hi.owns.known
      obtain ⟨reply, m, hop, -⟩ := exec_keeps hm op
      exact .bind ⟨_, hop⟩ fun _ _ => .ok _
  obtain ⟨⟨reply, s'⟩, hexec⟩ := hreturns
  exact ⟨reply, s', hexec⟩

/-- In every state of every run an exchange owns exactly the entry it placed, leaves any other
entry of its connection alone, has nothing left once it failed, and is established only by the
whole handshake of its role; every operation returns, none of the exchange's touches another
connection's entry or misses its own, and one that is refused, aborts or reports the peer's failure
leaves it failed. -/
theorem exchange_ownership (h : Reachable Starts Step s) :
    (s.exchange.managerOwned = true ↔ ¬ s.before.Holds s.exchange.connection ∧
      s.manager.Holds s.exchange.connection) ∧
    (s.exchange.managerOwned = false → SameAt s.before s.manager s.exchange.connection) ∧
    (s.exchange.state = .failed → s.exchange.managerOwned = false ∧ s.exchange.localOffer = none ∧
      ∀ s', Relation.ReflTransGen Step s s' → s'.exchange.state = .failed) ∧
    s.manager.reservedBytes = s.manager.attempts.size * s.manager.perAttemptReservation +
      (s.manager.established.sum fun _ e => e.accountedBytes) ∧
    (s.exchange.state = .established →
      handshake s.exchange.role .established = some s.done ∧
      (s.manager.established.get? s.exchange.connection).isSome) ∧
    (∀ op, ∃ reply s', s.exec op = .ok (reply, s')) ∧
    ∀ op reply s', Apart s op → s.exec op = .ok (reply, s') →
      reply.error ≠ some (.managerState .unknownConnection) ∧
      ((∀ o, op ≠ .other o) → OnlyAt s.exchange.connection s.manager s'.manager) ∧
      (reply.fails = true → s'.exchange.state = .failed) := by
  have hi := reachable_inv h
  refine ⟨⟨hi.owns.owned, fun hplaced => ?_⟩, hi.owns.unowned, fun hfailed => ⟨?_, ?_, ?_⟩, ?_,
    fun hstate => ⟨?_, hi.owns.contract hstate⟩, exec_returns hi, fun op reply s' hapart hexec => ?_⟩
  · cases hown : s.exchange.managerOwned with
    | true => rfl
    | false => exact absurd ((hi.owns.unowned hown).holds.mp hplaced.2) hplaced.1
  · rw [hi.owns.owning, hfailed]
    rfl
  · cases hoffer : s.exchange.localOffer with
    | none => rfl
    | some offer =>
      have hstate := hi.owns.offer.mp (by rw [hoffer]; rfl)
      rw [hfailed] at hstate
      cases hstate
  · exact fun s' hrun => failed_stays hi hfailed hrun
  · obtain ⟨logs, hm⟩ := hi.owns.known
    exact hm.reserved
  · rcases hi.done with hfailed | hdone
    · rw [hstate] at hfailed
      cases hfailed
    · rw [← hstate]
      exact hdone
  · have heff := exec_effect hi hapart hexec
    exact ⟨heff.known, heff.others, heff.fails⟩

/-! The client's whole handshake, while another connection starts its own. -/

def play (s : ExchangeRun) : List ExchangeOp → Checked ExchangeRun
  | [] => .ok s
  | op :: ops => do
    let (_, s) ← s.exec op
    play s ops

theorem play_connection {s s' : ExchangeRun} {op : ExchangeOp} {reply : ExchangeReply}
    (hs : Reachable Starts Step s) (hapart : Apart s op) (h : s.exec op = .ok (reply, s')) :
    s'.exchange.connection = s.exchange.connection :=
  (exec_effect (reachable_inv hs) hapart h).connection

theorem play_reachable {ops : List ExchangeOp} (hs : Reachable Starts Step s)
    (hops : ∀ op ∈ ops, ∀ o, op = .other o → o.connection ≠ s.exchange.connection)
    (h : play s ops = .ok s') : Reachable Starts Step s' := by
  induction ops generalizing s with
  | nil =>
    cases h
    exact hs
  | cons op ops ih =>
    simp only [play, Checked.bind_eq_ok] at h
    obtain ⟨⟨reply, s₁⟩, hexec, h⟩ := h
    have hapart : Apart s op := by
      cases op with
      | other o => exact hops _ List.mem_cons_self o rfl
      | _ => trivial
    refine ih (hs.next ⟨op, reply, hapart, hexec⟩) (fun op' hop' o ho => ?_) h
    rw [play_connection hs hapart hexec]
    exact hops op' (List.mem_cons_of_mem _ hop') o ho

def sampleStart : ExchangeRun :=
  let manager : NegotiationManager :=
    ⟨.default, ⟨64, 16777216⟩, 196608, 0, .empty, .empty⟩
  ⟨.fromProfile ⟨1⟩ ⟨.nonAuthority, 1024, 1024, 4, 64⟩ ⟨.authority, 1024, 1024, 4, 64⟩, manager,
    manager, []⟩

def sampleAlloc : NegotiationAllocator := ⟨true, true, fun _ => true⟩

def sampleOps : List ExchangeOp :=
  [.prepareOffer sampleAlloc NegotiationAttempt.sampleOffer,
    .receive sampleAlloc ⟨[], []⟩ ⟨.negotiationOffer, NegotiationAttempt.sampleOffer.bytes⟩,
    .other (.start ⟨2⟩ NegotiationAttempt.sampleOffer NegotiationAttempt.sampleOffer),
    .receive sampleAlloc ⟨[], []⟩ ⟨.negotiationProposal,
      ProposalLists.bytes (⟨⟨1⟩, ⟨1⟩⟩, [⟨2⟩], [(⟨3⟩, ⟨⟨4⟩, ⟨6⟩⟩)])⟩,
    .receive sampleAlloc ⟨[], []⟩ ⟨.negotiationEstablished, []⟩]

theorem sampleStart_starts : Starts sampleStart where
  exchange := ⟨_, _, _, rfl⟩
  manager := ⟨fun _ => none, .start ⟨⟨.default, ⟨64, 16777216⟩, rfl⟩, rfl⟩⟩
  before := rfl
  done := rfl

theorem exchange_ownership_sample : ∃ s, play sampleStart sampleOps = .ok s ∧
    s.exchange.state = .established ∧ s.exchange.managerOwned = true ∧
    ¬ s.before.Holds s.exchange.connection ∧ s.manager.Holds s.exchange.connection ∧
    handshake .nonAuthority .established = some s.done := by
  have hplayed : ((play sampleStart sampleOps).toOption.any fun s =>
      s.exchange.state = .established && s.exchange.managerOwned &&
        s.exchange.role = .nonAuthority) = true := by
    decide +kernel
  obtain ⟨s, hs, hstate⟩ := (Option.any_eq_true _ _).mp hplayed
  simp only [Bool.and_eq_true, decide_eq_true_eq] at hstate
  obtain ⟨⟨hstate, hown⟩, hrole⟩ := hstate
  have hplay : play sampleStart sampleOps = .ok s := by
    cases hp : play sampleStart sampleOps with
    | error e =>
      rw [hp] at hs
      cases hs
    | ok s₁ =>
      rw [hp] at hs
      exact congrArg Except.ok (Option.some.inj hs)
  have hreach : Reachable Starts Step s := by
    refine play_reachable (.start sampleStart_starts) ?_ hplay
    rintro op hop o rfl
    simp only [sampleOps, List.mem_cons, reduceCtorEq, ExchangeOp.other.injEq, List.not_mem_nil,
      or_false, false_or] at hop
    subst hop
    decide
  obtain ⟨howned, -, -, -, hest, -⟩ := exchange_ownership hreach
  obtain ⟨hfresh, hholds⟩ := howned.mp hown
  exact ⟨s, hplay, hstate, hown, hfresh, hholds, hrole ▸ (hest hstate).1⟩

end ExchangeRun

end RunenNet

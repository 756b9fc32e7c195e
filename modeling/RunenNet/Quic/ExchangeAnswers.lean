import RunenNet.Quic.NegotiationExchange

/-!
# What a negotiation exchange answers

Whatever an operation of the exchange answers says which state the exchange is in then: a call of
the host sends a frame and awaits the next, a received frame leads on in the handshake, and
anything else fails the exchange.
-/

namespace RunenNet

open Foundation

namespace NegotiationExchange

variable {m m' : NegotiationManager} {x x' : NegotiationExchange} {alloc : NegotiationAllocator}
  {α : Type} {r : Except NegotiationControlError α}

/-- A report is one of a failure. -/
def Reports (r : Except NegotiationControlError α) : Prop :=
  ∀ outcome frame, r = .error (.localFailure outcome (some frame)) →
    frame.frameType = .negotiationFailed

theorem reports_ok (a : α) : Reports (.ok a : Except NegotiationControlError α) :=
  fun _ _ h => by cases h

theorem closeWith_fails {result : Except NegotiationControlError α} (hresult : Reports result)
    (h : x.closeWith m result = .ok (r, x', m')) :
    x'.state = .failed ∧ Reports r ∧ ∀ a, r = .ok a → result = .ok a := by
  simp only [closeWith, Checked.bind_eq_ok] at h
  obtain ⟨⟨res, x₁, m₁⟩, hclose, h⟩ := h
  have hfailed : x₁.state = .failed := by
    unfold close releaseManager at hclose
    split at hclose
    · cases hclose
      rfl
    · simp only [Checked.bind_eq_ok, Checked.pure_eq, Except.ok.injEq, Prod.mk.injEq] at hclose
      obtain ⟨⟨_, _⟩, -, -, rfl, -⟩ := hclose
      rfl
  cases res with
  | error e =>
    cases h
    exact ⟨hfailed, fun _ _ h => by (cases h), fun _ h => by cases h⟩
  | ok _ =>
    cases h
    exact ⟨hfailed, hresult, fun _ h => h⟩

theorem failLocal_fails {outcome : NegotiationOutcome}
    (h : x.failLocal alloc m outcome = .ok (r, x', m')) :
    x'.state = .failed ∧ Reports r ∧ ∀ a, r ≠ .ok a := by
  have hreports : Reports (.error (.localFailure outcome (failureFrame alloc.report outcome)) :
      Except NegotiationControlError α) := by
    intro outcome' frame heq
    rw [Except.error.injEq, NegotiationControlError.localFailure.injEq] at heq
    unfold failureFrame at heq
    split at heq
    · cases heq.2
      rfl
    · cases heq.2
  obtain ⟨hfailed, hr, hok⟩ := closeWith_fails hreports h
  exact ⟨hfailed, hr, fun a ha => by cases hok a ha⟩

theorem failProtocol_fails {e : NegotiationProtocolError}
    (h : x.failProtocol m e = .ok (r, x', m')) :
    x'.state = .failed ∧ Reports r ∧ ∀ a, r ≠ .ok a := by
  obtain ⟨hfailed, hr, hok⟩ := closeWith_fails (fun _ _ heq => by cases heq) h
  exact ⟨hfailed, hr, fun a ha => by cases hok a ha⟩

theorem failUnexpectedStatus_fails {status : NegotiationStatus}
    (h : x.failUnexpectedStatus m status = .ok (r, x', m')) :
    x'.state = .failed ∧ Reports r ∧ ∀ a, r ≠ .ok a := by
  obtain ⟨hfailed, hr, hok⟩ := closeWith_fails (fun _ _ heq => by cases heq) h
  exact ⟨hfailed, hr, fun a ha => by cases hok a ha⟩

theorem failManagerState_fails {e : NegotiationManagerError}
    (h : x.failManagerState m e = .ok (r, x', m')) :
    x'.state = .failed ∧ Reports r ∧ ∀ a, r ≠ .ok a := by
  obtain ⟨hfailed, hr, hok⟩ := closeWith_fails (fun _ _ heq => by cases heq) h
  exact ⟨hfailed, hr, fun a ha => by cases hok a ha⟩

theorem failDecode_fails {e : BodyDecodeError} (h : x.failDecode alloc m e = .ok (r, x', m')) :
    x'.state = .failed ∧ Reports r ∧ ∀ a, r ≠ .ok a := by
  cases e with
  | protocol e => exact failProtocol_fails h
  | failure outcome => exact failLocal_fails h

theorem failFromManager_fails {e : NegotiationManagerError}
    (h : x.failFromManager alloc m e = .ok (r, x', m')) :
    x'.state = .failed ∧ Reports r ∧ ∀ a, r ≠ .ok a := by
  unfold failFromManager at h
  split at h
  · exact failLocal_fails h
  · exact failManagerState_fails h

/-- A call of the host sends one frame and awaits the next, or fails. -/
def Calls (next : NegotiationState) (x' : NegotiationExchange) :
    Except NegotiationControlError ControlFrame → Prop
  | .ok _ => x'.state = next
  | .error e => x'.state = .failed ∧ Reports (.error e : Except NegotiationControlError ControlFrame)

theorem Calls.failed {next : NegotiationState} {r : Except NegotiationControlError ControlFrame}
    (h : x'.state = .failed ∧ Reports r ∧ ∀ a, r ≠ .ok a) : Calls next x' r := by
  obtain ⟨hfailed, hr, hne⟩ := h
  cases r with
  | ok frame => exact absurd rfl (hne frame)
  | error e => exact ⟨hfailed, hr⟩

theorem prepareOffer_calls {offer : CompatibilityOffer}
    {r : Except NegotiationControlError ControlFrame}
    (h : x.prepareOffer alloc m offer = .ok (r, x', m')) : Calls .awaitingPeerOffer x' r := by
  unfold prepareOffer at h
  split at h
  · exact .failed (failProtocol_fails h)
  · split at h
    · exact .failed (failLocal_fails h)
    · split at h
      · exact .failed (failLocal_fails h)
      · simp only [Checked.bind_eq_ok] at h
        obtain ⟨res, -, h⟩ := h
        cases res with
        | error outcome => exact .failed (failLocal_fails h)
        | ok body =>
          cases h
          exact rfl

theorem proposeAuthority_calls {order : ∀ c : NegotiatedContract, ContractOrder c}
    {contract : NegotiatedContract} {requirements : NegotiationRequirements}
    {r : Except NegotiationControlError ControlFrame}
    (h : x.proposeAuthority alloc order m contract requirements = .ok (r, x', m')) :
    Calls .awaitingValidated x' r := by
  unfold proposeAuthority at h
  split at h
  · exact .failed (failProtocol_fails h)
  · split at h
    · exact .failed (failProtocol_fails h)
    · split at h
      · exact .failed (failFromManager_fails h)
      · simp only [Checked.bind_eq_ok] at h
        obtain ⟨⟨res, m₁⟩, -, h⟩ := h
        cases res with
        | error e => exact .failed (failManagerState_fails h)
        | ok status =>
          simp only at h
          split at h
          · exact .failed (failUnexpectedStatus_fails h)
          · split at h
            · exact .failed (failManagerState_fails h)
            · simp only [Checked.bind_eq_ok] at h
              obtain ⟨res, -, h⟩ := h
              cases res with
              | error outcome => exact .failed (failLocal_fails h)
              | ok body =>
                cases h
                exact rfl

/-- What a received frame is answered with, and the state it leads to. -/
inductive Answers (x' : NegotiationExchange) :
    Except NegotiationControlError NegotiationProgress → Prop where
  | waiting : x'.state = .awaitingProposal → Answers x' (.ok .waiting)
  | selection : x'.state = .awaitingAuthoritySelection → x'.role = .authority →
    Answers x' (.ok .authoritySelectionRequired)
  | validated {frame : ControlFrame} : frame.frameType = .negotiationValidated →
    x'.state = .awaitingEstablished → Answers x' (.ok (.send frame))
  | establishing {frame : ControlFrame} : frame.frameType = .negotiationEstablished →
    x'.state = .established → Answers x' (.ok (.send frame))
  | established : x'.state = .established → Answers x' (.ok .established)
  | remoteFailed {outcome : NegotiationOutcome} : x'.state = .failed →
    Answers x' (.ok (.remoteFailed outcome))
  | failed {e : NegotiationControlError} : x'.state = .failed →
    Reports (.error e : Except NegotiationControlError NegotiationProgress) →
    Answers x' (.error e)

theorem Answers.of_fails {r : Except NegotiationControlError NegotiationProgress}
    (h : x'.state = .failed ∧ Reports r ∧ ∀ a, r ≠ .ok a) : Answers x' r := by
  obtain ⟨hfailed, hr, hne⟩ := h
  cases r with
  | ok progress => exact absurd rfl (hne progress)
  | error e => exact .failed hfailed hr

theorem Answers.failed_of_remote {outcome : NegotiationOutcome}
    (h : Answers x' (.ok (.remoteFailed outcome))) : x'.state = .failed := by
  cases h with
  | remoteFailed hfailed => exact hfailed

variable {body : List UInt8} {r : Except NegotiationControlError NegotiationProgress}

theorem receiveOffer_answers (h : x.receiveOffer alloc m body = .ok (r, x', m')) :
    Answers x' r := by
  unfold receiveOffer at h
  split at h
  · exact .of_fails (failDecode_fails h)
  · split at h
    · cases h
      exact .failed rfl fun _ _ heq => by cases heq
    · simp only [Checked.bind_eq_ok] at h
      obtain ⟨⟨res, m₁⟩, -, h⟩ := h
      cases res with
      | error e => exact .of_fails (failFromManager_fails h)
      | ok _ =>
        simp only [Checked.pure_eq, Except.ok.injEq] at h
        unfold started at h
        split at h
        · rename_i hrole
          cases h
          exact .selection rfl hrole
        · cases h
          exact .waiting rfl

theorem receiveProposal_answers {requirements : NegotiationRequirements}
    (h : x.receiveProposal alloc m requirements body = .ok (r, x', m')) : Answers x' r := by
  simp only [receiveProposal, Checked.bind_eq_ok] at h
  obtain ⟨res, -, h⟩ := h
  cases res with
  | error e => exact .of_fails (failDecode_fails h)
  | ok contract =>
    simp only at h
    split at h
    · exact .of_fails (failFromManager_fails h)
    · simp only [Checked.bind_eq_ok] at h
      obtain ⟨⟨res, m₁⟩, -, h⟩ := h
      cases res with
      | error e => exact .of_fails (failManagerState_fails h)
      | ok status =>
        simp only at h
        split at h
        · exact .of_fails (failUnexpectedStatus_fails h)
        · cases h
          exact .validated rfl rfl

theorem receiveAcknowledgement_answers {type : ControlFrameType} {authority : Bool}
    {progress : NegotiationProgress}
    (hprogress : ∀ x' : NegotiationExchange, x'.state = .established → Answers x' (.ok progress))
    (h : receiveAcknowledgement type authority progress x m body = .ok (r, x', m')) :
    Answers x' r := by
  unfold receiveAcknowledgement at h
  split at h
  · exact .of_fails (failProtocol_fails h)
  · simp only [Checked.bind_eq_ok] at h
    obtain ⟨⟨res, m₁⟩, -, h⟩ := h
    cases res with
    | error e => exact .of_fails (failManagerState_fails h)
    | ok status =>
      simp only at h
      split at h
      · exact .of_fails (failUnexpectedStatus_fails h)
      · cases h
        exact hprogress _ rfl

theorem receive_answers {requirements : NegotiationRequirements} {frame : ControlFrame}
    (h : x.receive alloc m requirements frame = .ok (r, x', m')) : Answers x' r := by
  unfold receive at h
  split at h
  · unfold receiveFailure at h
    split at h
    · exact .of_fails (failProtocol_fails h)
    · obtain ⟨hfailed, hr, hok⟩ := closeWith_fails (reports_ok _) h
      cases r with
      | error e => exact .failed hfailed hr
      | ok progress =>
        cases hok progress rfl
        exact .remoteFailed hfailed
  · split at h
    · exact receiveOffer_answers h
    · exact receiveProposal_answers h
    · exact receiveAcknowledgement_answers (fun _ hstate => .establishing rfl hstate) h
    · exact receiveAcknowledgement_answers (fun _ hstate => .established hstate) h
    · exact .of_fails (failProtocol_fails h)

end NegotiationExchange

end RunenNet

import RunenNet.Core.Session

/-!
# Authority input

The inputs an authority retains for each participant, between the bounds of a window that only
moves forward. Every operation returns its result and the state after it.
-/

namespace RunenNet

open Foundation

/-- The ticks at which input is admissible. -/
@[ext] structure InputWindow where
  minimum : SimulationTick
  maximum : SimulationTick
  minimum_le : minimum ≤ maximum
  deriving DecidableEq, Repr

def InputWindow.span (w : InputWindow) : Nat := w.maximum.get - w.minimum.get

structure AuthorityInputLimits where
  maxBatchBytes : NonZeroUsize
  maxRetainedKeysPerParticipant : NonZeroUsize
  maxRetainedBytesPerParticipant : NonZeroUsize
  maxFutureTickDistance : Nat
  batch_le : maxBatchBytes.get ≤ maxRetainedBytesPerParticipant.get
  deriving DecidableEq, Repr

structure AuthorityInputAggregateLimits where
  maxRetainedKeys : NonZeroUsize
  maxRetainedBytes : NonZeroUsize
  deriving DecidableEq, Repr

inductive AuthorityInputOutcome where
  | inputAccepted
  | duplicateInput
  | conflictingInput
  | staleInput
  | futureInputOutsideWindow
  | inputResourceRejected
  | unauthorizedInput
  deriving DecidableEq, Repr

inductive AuthorityInputError where
  | sessionMismatch
  | participantAlreadyConfigured
  | participantNotConfigured
  | participantNotLive
  | windowMinimumRegression
  | windowMaximumRegression
  | windowExceedsFutureHorizon
  | accountingOverflow
  | accountingInvariantViolation
  deriving DecidableEq, Repr

structure RetainedInput (I : Type) where
  value : I
  accountedBytes : Nat
  deriving DecidableEq, Repr

structure ParticipantInputState (I : Type) where
  limits : AuthorityInputLimits
  window : InputWindow
  retained : SortedMap SimulationTick (RetainedInput I)
  retainedBytes : Nat

def ParticipantInputState.new {I : Type} (limits : AuthorityInputLimits) (window : InputWindow) :
    ParticipantInputState I := ⟨limits, window, .empty, 0⟩

structure AuthorityInputSession (I : Type) where
  session : SessionId
  limits : AuthorityInputAggregateLimits
  participants : SortedMap ParticipantId (ParticipantInputState I)
  retainedKeys : Nat
  retainedBytes : Nat

namespace AuthorityInputSession

variable {I : Type}

def new (session : SessionId) (limits : AuthorityInputAggregateLimits) :
    AuthorityInputSession I := ⟨session, limits, .empty, 0, 0⟩

/-- `ensure_session` fails for any other session. -/
def ensureSession (a : AuthorityInputSession I) (session : Session) : Bool := session.id = a.session

def addParticipant (a : AuthorityInputSession I) (session : Session) (p : ParticipantId)
    (window : InputWindow) (limits : AuthorityInputLimits) :
    Except AuthorityInputError Unit × AuthorityInputSession I :=
  if ¬ a.ensureSession session then (.error .sessionMismatch, a)
  else if (session.membershipState p).isNone then (.error .participantNotLive, a)
  else if a.participants.contains p then (.error .participantAlreadyConfigured, a)
  else if window.span > limits.maxFutureTickDistance then (.error .windowExceedsFutureHorizon, a)
  else (.ok (), { a with participants := a.participants.insert p (.new limits window) })

/-- Counts what is removed: so many keys and bytes for each entry, in checked arithmetic. -/
def removedTotals {α : Type} (keys bytes : α → Nat) (removed : List α) : Option (Nat × Nat) :=
  removed.foldlM (fun total x => do
    let removedKeys ← checkedAdd usizeMax total.1 (keys x)
    let removedBytes ← checkedAdd usizeMax total.2 (bytes x)
    return (removedKeys, removedBytes)) (0, 0)

def advanceWindow (a : AuthorityInputSession I) (p : ParticipantId) (next : InputWindow) :
    Except AuthorityInputError Unit × AuthorityInputSession I :=
  match a.participants.get? p with
  | none => (.error .participantNotConfigured, a)
  | some state =>
    if next.minimum < state.window.minimum then (.error .windowMinimumRegression, a)
    else if next.maximum < state.window.maximum then (.error .windowMaximumRegression, a)
    else if next.span > state.limits.maxFutureTickDistance then
      (.error .windowExceedsFutureHorizon, a)
    else match removedTotals (fun _ => 1) (fun e => e.2.accountedBytes)
        (state.retained.below next.minimum) with
      | none => (.error .accountingOverflow, a)
      | some (removedKeys, removedBytes) =>
        match checkedSub state.retainedBytes removedBytes, checkedSub a.retainedKeys removedKeys,
            checkedSub a.retainedBytes removedBytes with
        | some nextParticipantBytes, some nextRetainedKeys, some nextRetainedBytes =>
          (.ok (), { a with
            participants := a.participants.insert p { state with
              retained := state.retained.splitOff next.minimum
              retainedBytes := nextParticipantBytes
              window := next }
            retainedKeys := nextRetainedKeys
            retainedBytes := nextRetainedBytes })
        | _, _, _ => (.error .accountingInvariantViolation, a)

/-- The configured participants without a membership, by increasing identity. -/
def departed (a : AuthorityInputSession I) (session : Session) :
    List (ParticipantId × ParticipantInputState I) :=
  a.participants.entries.filter fun e => (session.membershipState e.1).isNone

def reconcileMemberships (a : AuthorityInputSession I) (session : Session) :
    Except AuthorityInputError (List ParticipantId) × AuthorityInputSession I :=
  if ¬ a.ensureSession session then (.error .sessionMismatch, a)
  else match removedTotals (fun e => e.2.retained.size) (fun e => e.2.retainedBytes)
      (a.departed session) with
    | none => (.error .accountingOverflow, a)
    | some (removedKeys, removedBytes) =>
      match checkedSub a.retainedKeys removedKeys, checkedSub a.retainedBytes removedBytes with
      | some nextRetainedKeys, some nextRetainedBytes =>
        let removed := (a.departed session).map Prod.fst
        (.ok removed, { a with
          participants := removed.foldl SortedMap.erase a.participants
          retainedKeys := nextRetainedKeys
          retainedBytes := nextRetainedBytes })
      | _, _ => (.error .accountingInvariantViolation, a)

/-- The totals after one more input of `bytes`: the participant's bytes and the keys and bytes of
the session. `none` when a limit does not allow it. -/
def admissible (a : AuthorityInputSession I) (state : ParticipantInputState I) (bytes : Nat) :
    Option (Nat × Nat × Nat) :=
  if bytes > state.limits.maxBatchBytes.get ∨
      state.retained.size ≥ state.limits.maxRetainedKeysPerParticipant.get ∨
      a.retainedKeys ≥ a.limits.maxRetainedKeys.get then none
  else do
    let nextParticipantBytes ← checkedAdd usizeMax state.retainedBytes bytes
    if nextParticipantBytes > state.limits.maxRetainedBytesPerParticipant.get then none
    else
      let nextRetainedKeys ← checkedAdd usizeMax a.retainedKeys 1
      if nextRetainedKeys > a.limits.maxRetainedKeys.get then none
      else
        let nextRetainedBytes ← checkedAdd usizeMax a.retainedBytes bytes
        if nextRetainedBytes > a.limits.maxRetainedBytes.get then none
        else return (nextParticipantBytes, nextRetainedKeys, nextRetainedBytes)

def submit [DecidableEq I] (a : AuthorityInputSession I) (session : Session) (p : ParticipantId)
    (c : ConnectionHandle) (tick : SimulationTick) (input : I) (accountedBytes : Nat) :
    Except AuthorityInputError AuthorityInputOutcome × AuthorityInputSession I :=
  if ¬ a.ensureSession session then (.error .sessionMismatch, a)
  else if ¬ session.isAuthorized p c then (.ok .unauthorizedInput, a)
  else match a.participants.get? p with
    | none => (.error .participantNotConfigured, a)
    | some state =>
      if tick < state.window.minimum then (.ok .staleInput, a)
      else match state.retained.get? tick with
        | some retained =>
          (.ok (if retained.value = input then .duplicateInput else .conflictingInput), a)
        | none =>
          if tick > state.window.maximum then (.ok .futureInputOutsideWindow, a)
          else match a.admissible state accountedBytes with
            | none => (.ok .inputResourceRejected, a)
            | some (nextParticipantBytes, nextRetainedKeys, nextRetainedBytes) =>
              (.ok .inputAccepted, { a with
                participants := a.participants.insert p { state with
                  retained := state.retained.insert tick ⟨input, accountedBytes⟩
                  retainedBytes := nextParticipantBytes }
                retainedKeys := nextRetainedKeys
                retainedBytes := nextRetainedBytes })

end AuthorityInputSession

end RunenNet

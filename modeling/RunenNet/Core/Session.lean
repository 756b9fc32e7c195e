import RunenNet.Core.Protocol

/-!
# Session membership

Participant memberships, their bound connections and the retention of unbound memberships.
Every operation returns its result and the session after it.
-/

namespace RunenNet

open Foundation

inductive SessionPhase where
  | open
  | closed
  deriving DecidableEq, Repr

structure SessionLimits where
  maxParticipantIncarnations : NonZeroUsize
  maxMemberships : NonZeroUsize
  memberships_le : maxMemberships.get ≤ maxParticipantIncarnations.get
  deriving DecidableEq, Repr

/-- A position on the host's recovery clock. -/
abbrev RecoveryTime := Ident .recoveryTime

/-- A positive retention span. -/
@[ext] structure RecoveryDuration where
  get : Nat
  pos : 0 < get
  deriving Repr

instance : DecidableEq RecoveryDuration := fun _ _ => decidable_of_iff _ RecoveryDuration.ext_iff.symm

inductive MembershipState where
  | bound (connection : ConnectionHandle)
  | unbound (expiresAt : RecoveryTime)
  deriving DecidableEq, Repr

inductive RetentionPolicy where
  | terminate
  | retainForRecovery (duration : RecoveryDuration)
  deriving DecidableEq, Repr

inductive ConnectionLossOutcome where
  | terminated
  | retained (expiresAt : RecoveryTime)
  deriving DecidableEq, Repr

inductive SessionError where
  | closed
  | participantIdAlreadyUsed
  | participantIncarnationLimitExceeded
  | membershipLimitExceeded
  | connectionAlreadyBound
  | participantNotFound
  | bindingMismatch
  | membershipNotUnbound
  | membershipExpired
  | previousConnectionCannotReplaceItself
  | recoveryClockRegression
  | recoveryExpiryOverflow
  deriving DecidableEq, Repr

structure MembershipRecord where
  state : MembershipState
  previousConnection : Option ConnectionHandle
  deriving DecidableEq, Repr

structure Session where
  id : SessionId
  phase : SessionPhase
  limits : SessionLimits
  recoveryClock : RecoveryTime
  usedParticipants : IncarnationRegistry ParticipantId
  memberships : SortedMap ParticipantId MembershipRecord
  bindings : SortedMap ConnectionHandle ParticipantId

namespace Session

def new (id : SessionId) (limits : SessionLimits) : Session where
  id := id
  phase := .open
  limits := limits
  recoveryClock := ⟨0⟩
  usedParticipants := .new limits.maxParticipantIncarnations.get
  memberships := .empty
  bindings := .empty

def membershipState (s : Session) (p : ParticipantId) : Option MembershipState :=
  (s.memberships.get? p).map MembershipRecord.state

def isAuthorized (s : Session) (p : ParticipantId) (c : ConnectionHandle) : Bool :=
  s.bindings.get? c = some p && s.membershipState p = some (.bound c)

def mapParticipantClaimError : IncarnationClaimError → SessionError
  | .alreadyUsed => .participantIdAlreadyUsed
  | .capacityExceeded => .participantIncarnationLimitExceeded

def admitNew (s : Session) (p : ParticipantId) (established : EstablishedNegotiation) :
    Except SessionError Unit × Session :=
  let connection := established.connection
  if s.phase ≠ .open then (.error .closed, s)
  else if s.memberships.size ≥ s.limits.maxMemberships.get then (.error .membershipLimitExceeded, s)
  else if s.bindings.contains connection then (.error .connectionAlreadyBound, s)
  else if s.usedParticipants.contains p then (.error .participantIdAlreadyUsed, s)
  else match s.usedParticipants.claim p with
    | (.error e, used) =>
      (.error (mapParticipantClaimError e), { s with usedParticipants := used })
    | (.ok (), used) => (.ok (), { s with
        usedParticipants := used
        bindings := s.bindings.insert connection p
        memberships := s.memberships.insert p ⟨.bound connection, none⟩ })

def connectionLost (s : Session) (p : ParticipantId) (c : ConnectionHandle)
    (policy : RetentionPolicy) : Except SessionError ConnectionLossOutcome × Session :=
  if s.phase ≠ .open then (.error .closed, s)
  else match s.membershipState p with
    | none => (.error .participantNotFound, s)
    | some state =>
      if state ≠ .bound c ∨ ¬ s.isAuthorized p c then (.error .bindingMismatch, s)
      else match policy with
        | .terminate => (.ok .terminated, { s with
            bindings := s.bindings.erase c
            memberships := s.memberships.erase p })
        | .retainForRecovery duration =>
          match s.recoveryClock.checkedAdd duration.get with
          | none => (.error .recoveryExpiryOverflow, s)
          | some expiresAt => (.ok (.retained expiresAt), { s with
              bindings := s.bindings.erase c
              memberships := s.memberships.insert p ⟨.unbound expiresAt, some c⟩ })

def bindReplacement (s : Session) (p : ParticipantId) (established : EstablishedNegotiation) :
    Except SessionError Unit × Session :=
  let connection := established.connection
  if s.phase ≠ .open then (.error .closed, s)
  else if s.bindings.contains connection then (.error .connectionAlreadyBound, s)
  else match s.memberships.get? p with
    | none => (.error .participantNotFound, s)
    | some record => match record.state with
      | .bound _ => (.error .membershipNotUnbound, s)
      | .unbound expiresAt =>
        if expiresAt ≤ s.recoveryClock then
          (.error .membershipExpired, { s with memberships := s.memberships.erase p })
        else if record.previousConnection = some connection then
          (.error .previousConnectionCannotReplaceItself, s)
        else (.ok (), { s with
          bindings := s.bindings.insert connection p
          memberships := s.memberships.insert p ⟨.bound connection, none⟩ })

def removeParticipant (s : Session) (p : ParticipantId) :
    Except SessionError MembershipState × Session :=
  if s.phase ≠ .open then (.error .closed, s)
  else match s.memberships.get? p with
    | none => (.error .participantNotFound, s)
    | some record =>
      let bindings := match record.state with
        | .bound c => s.bindings.erase c
        | .unbound _ => s.bindings
      (.ok record.state, { s with memberships := s.memberships.erase p, bindings := bindings })

/-- The participants whose retention ends by `now`, by increasing identity. -/
def expired (s : Session) (now : RecoveryTime) : List ParticipantId :=
  s.memberships.entries.filterMap fun e => match e.2.state with
    | .unbound expiresAt => if expiresAt ≤ now then some e.1 else none
    | .bound _ => none

def advanceRecoveryClock (s : Session) (now : RecoveryTime) :
    Except SessionError (List ParticipantId) × Session :=
  if s.phase ≠ .open then (.error .closed, s)
  else if now < s.recoveryClock then (.error .recoveryClockRegression, s)
  else (.ok (s.expired now), { s with
    recoveryClock := now
    memberships := (s.expired now).foldl SortedMap.erase s.memberships })

def close (s : Session) : Session :=
  { s with phase := .closed, bindings := .empty, memberships := .empty }

end Session

end RunenNet

import Mathlib.Data.Nat.Notation

/-!
# Control frames and settings

The frames of the control stream and the settings the two sides exchanged before the profile was
ready.
-/

namespace RunenNet

inductive SemanticRole where
  | nonAuthority
  | authority
  deriving DecidableEq, Repr

inductive ControlFrameType where
  | settings
  | negotiationOffer
  | negotiationProposal
  | negotiationValidated
  | negotiationEstablished
  | negotiationFailed
  | openFlow
  | flowAccept
  | flowReject
  | flowTerminate
  deriving DecidableEq, Repr

namespace ControlFrameType

def wire : ControlFrameType → Nat
  | .settings => 0
  | .negotiationOffer => 1
  | .negotiationProposal => 2
  | .negotiationValidated => 3
  | .negotiationEstablished => 4
  | .negotiationFailed => 5
  | .openFlow => 6
  | .flowAccept => 7
  | .flowReject => 8
  | .flowTerminate => 9

/-- The error is the value of `UnknownFrameType`. -/
def fromWire : Nat → Except Nat ControlFrameType
  | 0 => .ok .settings
  | 1 => .ok .negotiationOffer
  | 2 => .ok .negotiationProposal
  | 3 => .ok .negotiationValidated
  | 4 => .ok .negotiationEstablished
  | 5 => .ok .negotiationFailed
  | 6 => .ok .openFlow
  | 7 => .ok .flowAccept
  | 8 => .ok .flowReject
  | 9 => .ok .flowTerminate
  | value => .error value

theorem fromWire_eq_ok {value : Nat} {type : ControlFrameType} :
    fromWire value = .ok type ↔ value = type.wire := by
  constructor
  · intro h
    unfold fromWire at h
    split at h
    all_goals cases h
    all_goals rfl
  · rintro rfl
    cases type <;> rfl

end ControlFrameType

structure ControlFrame where
  frameType : ControlFrameType
  body : List UInt8
  deriving DecidableEq, Repr

structure Settings where
  semanticRole : SemanticRole
  maxControlFrameBytes : Nat
  maxNegotiationFrameBytes : Nat
  maxActiveIncomingFlows : Nat
  maxIncomingMessageBytes : Nat
  deriving DecidableEq, Repr

end RunenNet

import RunenNet.Core.Delivery.Model

/-!
# Replication vocabulary

Lineage keys, cursors, snapshots and retention limits shared by the authority and the client.
-/

namespace RunenNet

open Foundation

structure ReplicationLineageKey where
  session : SessionId
  participant : ParticipantId
  deriving DecidableEq, Repr

namespace ReplicationLineageKey

/-- Lexicographic on the two identities. -/
def lexKey (k : ReplicationLineageKey) : Nat ×ₗ Nat := toLex (k.session.get, k.participant.get)

theorem lexKey_injective : Function.Injective lexKey := fun a b h => by
  obtain ⟨⟨x⟩, ⟨y⟩⟩ := a
  obtain ⟨⟨x'⟩, ⟨y'⟩⟩ := b
  cases h
  rfl

instance : LinearOrder ReplicationLineageKey := LinearOrder.lift' lexKey lexKey_injective

end ReplicationLineageKey

/-- Orders the snapshots of one lineage. -/
abbrev ReplicationCursor := Ident .cursor

abbrev RecoveryGeneration := Ident .recoveryGeneration

def RecoveryGeneration.checkedNext (g : RecoveryGeneration) : Option RecoveryGeneration :=
  g.checkedAdd 1

/-- A host state with the bytes it is accounted for. -/
structure AccountedState (S : Type) where
  state : S
  accountedBytes : Nat
  deriving DecidableEq, Repr

@[ext] structure ReplicationRetentionLimits where
  maxStateImageBytes : NonZeroUsize
  maxRetainedImagesPerLineage : NonZeroUsize
  maxRetainedStateBytesPerLineage : NonZeroUsize
  maxCandidateBytesPerLineage : NonZeroUsize
  maxEmissionEvidencePerLineage : NonZeroUsize
  image_le_retained : maxStateImageBytes.get ≤ maxRetainedStateBytesPerLineage.get
  image_le_candidate : maxStateImageBytes.get ≤ maxCandidateBytesPerLineage.get
  deriving Repr

instance : DecidableEq ReplicationRetentionLimits := fun _ _ =>
  decidable_of_iff _ ReplicationRetentionLimits.ext_iff.symm

structure ClientAggregateLimits where
  maxLineages : NonZeroUsize
  maxRetainedImages : NonZeroUsize
  maxRetainedStateBytes : NonZeroUsize
  deriving DecidableEq, Repr

structure AuthorityAggregateLimits where
  maxLineages : NonZeroUsize
  maxStateBytes : NonZeroUsize
  maxRetainedImages : NonZeroUsize
  maxRetainedStateBytes : NonZeroUsize
  maxEmissionEvidence : NonZeroUsize
  deriving DecidableEq, Repr

structure FullSnapshot (S : Type) where
  targetCursor : ReplicationCursor
  targetTick : SimulationTick
  image : AccountedState S
  deriving DecidableEq, Repr

structure DeltaSnapshot (D : Type) where
  baseCursor : ReplicationCursor
  targetCursor : ReplicationCursor
  targetTick : SimulationTick
  delta : D
  deriving DecidableEq, Repr

/-- A retained image and the tick it represents. -/
structure RetainedState (S : Type) where
  tick : SimulationTick
  image : AccountedState S
  deriving DecidableEq, Repr

/-- Images retained by cursor. -/
abbrev RetainedImages (S : Type) := SortedMap ReplicationCursor (RetainedState S)

section ImageBytes

variable {S : Type}

/-- The bytes the images of a map are accounted for. -/
def imageBytes (m : RetainedImages S) : Nat := m.sum fun _ r => r.image.accountedBytes

theorem imageBytes_erase {m : RetainedImages S} {c : ReplicationCursor} {r : RetainedState S}
    (h : m.get? c = some r) : imageBytes m = r.image.accountedBytes + imageBytes (m.erase c) :=
  SortedMap.sum_of_get? _ h

theorem imageBytes_erase_le (m : RetainedImages S) (c : ReplicationCursor) :
    imageBytes (m.erase c) ≤ imageBytes m := by
  unfold imageBytes
  rw [SortedMap.sum_split _ m c]
  exact Nat.le_add_left _ _

theorem imageBytes_insert {m : RetainedImages S} {c : ReplicationCursor} (r : RetainedState S)
    (h : m.get? c = none) :
    imageBytes (m.insert c r) = imageBytes m + r.image.accountedBytes := by
  unfold imageBytes
  rw [SortedMap.sum_insert, SortedMap.erase_of_get?_none h, Nat.add_comm]

end ImageBytes

end RunenNet

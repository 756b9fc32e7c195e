import RunenNet.Foundation.SortedMap
import RunenNet.Foundation.Machine
import Mathlib.Order.Nat
import Mathlib.Data.Finset.Card

/-!
# Identity domains

Every identity of the core is a number behind its own type. The types share one definition,
indexed by the domain, and are ordered by their number.
-/

namespace RunenNet

open Foundation

/-- The identity domains. -/
inductive Domain where
  | session | participant | networkEntity | simulationTick | connectionHandle | flowHandle
  | cursor | recoveryGeneration | recoveryTime
  | protocolId | protocolRevision | schemaId | schemaContractId | codecId | capabilityId

/-- A number of one identity domain. -/
@[ext] structure Ident (domain : Domain) where
  get : Nat
  deriving Repr

namespace Ident

variable {d : Domain}

theorem get_injective : Function.Injective (Ident.get : Ident d → Nat) := fun _ _ h => Ident.ext h

instance : LinearOrder (Ident d) := LinearOrder.lift' Ident.get get_injective

theorem lt_iff {a b : Ident d} : a < b ↔ a.get < b.get := Iff.rfl

/-- `checked_add` on a 64-bit identity. -/
def checkedAdd (a : Ident d) (n : Nat) : Option (Ident d) :=
  (Foundation.checkedAdd u64Max a.get n).map Ident.mk

theorem checkedAdd_eq_some {a b : Ident d} {n : Nat} (h : a.checkedAdd n = some b) :
    b.get = a.get + n := by
  simp only [checkedAdd, Option.map_eq_some_iff, Foundation.checkedAdd_eq_some] at h
  obtain ⟨c, ⟨-, rfl⟩, rfl⟩ := h
  rfl

end Ident

abbrev SessionId := Ident .session
abbrev ParticipantId := Ident .participant
abbrev SimulationTick := Ident .simulationTick

/-- One transport-connection lifetime. -/
abbrev ConnectionHandle := Ident .connectionHandle

/-! ### Claimed incarnations -/

inductive IncarnationClaimError where
  | alreadyUsed
  | capacityExceeded
  deriving DecidableEq, Repr

/-- Identities that have been used; entries are never released. -/
structure IncarnationRegistry (I : Type) where
  maxClaims : Nat
  used : Finset I

namespace IncarnationRegistry

variable {I : Type} [DecidableEq I]

def new (maxClaims : Nat) : IncarnationRegistry I := ⟨maxClaims, ∅⟩

def contains (r : IncarnationRegistry I) (id : I) : Bool := id ∈ r.used

def claim (r : IncarnationRegistry I) (id : I) :
    Except IncarnationClaimError Unit × IncarnationRegistry I :=
  if id ∈ r.used then (.error .alreadyUsed, r)
  else if r.used.card ≥ r.maxClaims then (.error .capacityExceeded, r)
  else (.ok (), { r with used := insert id r.used })

end IncarnationRegistry

end RunenNet

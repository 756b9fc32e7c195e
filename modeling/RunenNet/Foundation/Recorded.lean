import RunenNet.Foundation.Machine
import Mathlib.Control.Monad.Writer

/-!
# Recorded computations

`Recorded ε α` is a checked computation that also records events. `plain` forgets the events: a
recorded version of a program is faithful when its `plain` is the program.
-/

namespace Foundation

variable {ε α β : Type}

abbrev Recorded (ε α : Type) := WriterT (List ε) Checked α

namespace Recorded

/-- Record one event. -/
def note (event : ε) : Recorded ε Unit := WriterT.mk (.ok ((), [event]))

/-- The computation without its events. -/
def plain (x : Recorded ε α) : Checked α := x.run.map Prod.fst

@[simp] theorem plain_pure (a : α) : plain (pure a : Recorded ε α) = .ok a := rfl

@[simp] theorem plain_note (event : ε) : plain (note event) = .ok () := rfl

@[simp] theorem plain_lift (x : Checked α) : plain (liftM x : Recorded ε α) = x := by
  cases x <;> rfl

@[simp] theorem plain_bind (x : Recorded ε α) (f : α → Recorded ε β) :
    plain (x >>= f) = plain x >>= fun a => plain (f a) := by
  unfold plain
  change (x.run >>= fun p => (fun q : β × List ε => (q.1, p.2 ++ q.2)) <$> (f p.1).run).map _ = _
  cases x.run with
  | error => rfl
  | ok p =>
    change ((fun q : β × List ε => (q.1, p.2 ++ q.2)) <$> (f p.1).run).map _ = (f p.1).run.map _
    cases (f p.1).run <;> rfl

theorem pure_eq_ok {a b : α} {events : List ε} :
    (pure a : Recorded ε α).run = .ok (b, events) ↔ b = a ∧ events = [] := by
  constructor
  · intro h
    cases h
    exact ⟨rfl, rfl⟩
  · rintro ⟨rfl, rfl⟩
    rfl

theorem note_eq_ok {event : ε} {u : Unit} {events : List ε} :
    (note event).run = .ok (u, events) ↔ events = [event] := by
  constructor
  · intro h
    cases h
    rfl
  · rintro rfl
    rfl

theorem lift_eq_ok {x : Checked α} {a : α} {events : List ε} :
    (liftM x : Recorded ε α).run = .ok (a, events) ↔ x = .ok a ∧ events = [] := by
  cases x with
  | error => exact ⟨nofun, nofun⟩
  | ok b =>
    constructor
    · intro h
      cases h
      exact ⟨rfl, rfl⟩
    · rintro ⟨h, rfl⟩
      cases h
      rfl

/-- The events of a sequence are those of its parts, in order. -/
theorem bind_eq_ok {x : Recorded ε α} {f : α → Recorded ε β} {b : β} {events : List ε} :
    (x >>= f).run = .ok (b, events) ↔ ∃ a before after, x.run = .ok (a, before) ∧
      (f a).run = .ok (b, after) ∧ events = before ++ after := by
  change (x.run >>= fun p => (fun q : β × List ε => (q.1, p.2 ++ q.2)) <$> (f p.1).run) = _ ↔ _
  cases x.run with
  | error =>
    refine ⟨nofun, ?_⟩
    rintro ⟨a, before, after, h, -⟩
    cases h
  | ok p =>
    obtain ⟨a, before⟩ := p
    change ((fun q : β × List ε => (q.1, before ++ q.2)) <$> (f a).run) = _ ↔ _
    cases hf : (f a).run with
    | error =>
      refine ⟨nofun, ?_⟩
      rintro ⟨a', before', after, ha, hafter, -⟩
      cases ha
      rw [hf] at hafter
      cases hafter
    | ok q =>
      constructor
      · intro h
        cases h
        exact ⟨a, before, q.2, rfl, hf, rfl⟩
      · rintro ⟨a', before', after, ha, hafter, rfl⟩
        cases ha
        rw [hf] at hafter
        cases hafter
        rfl

end Recorded

end Foundation

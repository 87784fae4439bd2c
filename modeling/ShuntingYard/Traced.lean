import ShuntingYard.Event
import ShuntingYard.Failure

/-! Computations that leave a log and may fail. A failure ends the computation, but what was logged
    before it stays in the log. -/

namespace ShuntingYard

/-- The outcome of a computation with the events on the way to it, oldest first. -/
@[ext] structure Traced (α : Type) where
  log : List Event
  outcome : Except Failure α

namespace Traced

/-- An outcome without events. -/
def ofExcept {α : Type} (outcome : Except Failure α) : Traced α := ⟨[], outcome⟩

/-- Logs an event. -/
def note (event : Event) : Traced Unit := ⟨[event], .ok ()⟩

/-- Goes on with the result of a computation, if it has one. -/
def bind {α β : Type} (x : Traced α) (f : α → Traced β) : Traced β :=
  match x.outcome with
  | .ok a =>
    let y := f a
    ⟨x.log ++ y.log, y.outcome⟩
  | .error e => ⟨x.log, .error e⟩

instance : Monad Traced where
  pure a := ofExcept (.ok a)
  bind := bind

@[simp] theorem log_pure {α : Type} (a : α) : (pure a : Traced α).log = [] := rfl

@[simp] theorem outcome_pure {α : Type} (a : α) : (pure a : Traced α).outcome = .ok a := rfl

/-- A failed computation is not gone on with. -/
theorem bind_of_error {α β : Type} {x : Traced α} {e : Failure} (h : x.outcome = .error e)
    (f : α → Traced β) : x >>= f = ⟨x.log, .error e⟩ := by
  show bind x f = _
  simp [bind, h]

/-- The log of a computation is followed by that of what goes on with its result. -/
theorem bind_of_ok {α β : Type} {x : Traced α} {a : α} (h : x.outcome = .ok a)
    (f : α → Traced β) : x >>= f = ⟨x.log ++ (f a).log, (f a).outcome⟩ := by
  show bind x f = _
  simp [bind, h]

instance : LawfulMonad Traced := LawfulMonad.mk' Traced
  (fun x => by
    cases h : x.outcome <;> ext <;> simp [Functor.map, bind, h, Function.comp, ofExcept])
  (fun _ _ => rfl)
  (fun x f g => by
    show bind (bind x f) g = bind x fun a => bind (f a) g
    cases h : x.outcome with
    | error e => simp [bind, h]
    | ok a => cases h' : (f a).outcome <;> simp [bind, h, h'])

end Traced

end ShuntingYard

import QueryOutline.Reading.Event
import QueryOutline.Reading.Fault

namespace QueryOutline

/-- What comes out of a reading: the events up to its end, in order, and a value or the fault that
ended it. -/
structure Outcome (α : Type) where
  events : List Event
  result : Except Fault α

namespace Outcome

protected def pure {α : Type} (value : α) : Outcome α :=
  ⟨[], .ok value⟩

/-- One reading after another. A fault ends both, and the events before it are kept. -/
protected def bind {α β : Type} (first : Outcome α) (second : α → Outcome β) : Outcome β :=
  match first.result with
  | .error fault => ⟨first.events, .error fault⟩
  | .ok value =>
      let next := second value
      ⟨first.events ++ next.events, next.result⟩

instance : Monad Outcome where
  pure := Outcome.pure
  bind := Outcome.bind

def fail {α : Type} (fault : Fault) : Outcome α :=
  ⟨[], .error fault⟩

def emit (event : Event) : Outcome Unit :=
  ⟨[event], .ok ()⟩

@[simp]
theorem result_pure {α : Type} (value : α) : (pure value : Outcome α).result = .ok value := rfl

@[simp]
theorem events_pure {α : Type} (value : α) : (pure value : Outcome α).events = [] := rfl

/-- The result of two readings is that of their results, whatever the events. -/
@[simp]
theorem result_bind {α β : Type} (first : Outcome α) (second : α → Outcome β) :
    (first >>= second).result = first.result.bind fun value => (second value).result := by
  change (Outcome.bind first second).result = _
  unfold Outcome.bind
  cases first.result <;> rfl

/-- Two readings give a value exactly if the first gives one from which the second gives it. -/
theorem result_bind_eq_ok {α β : Type} {first : Outcome α} {second : α → Outcome β} {value : β} :
    (first >>= second).result = .ok value ↔
      ∃ middle, first.result = .ok middle ∧ (second middle).result = .ok value := by
  rw [result_bind]
  cases first.result <;> simp [Except.bind]

/-- The events of two readings are those of the first, and then those of the second if it is
reached. -/
theorem events_bind_ok {α β : Type} {first : Outcome α} {value : α} (second : α → Outcome β)
    (hResult : first.result = .ok value) :
    (first >>= second).events = first.events ++ (second value).events := by
  change (Outcome.bind first second).events = _
  simp [Outcome.bind, hResult]

theorem bind_assoc {α β γ : Type} (first : Outcome α) (second : α → Outcome β)
    (third : β → Outcome γ) :
    first >>= second >>= third = first >>= fun value => second value >>= third := by
  change Outcome.bind (Outcome.bind first second) third =
    Outcome.bind first fun value => Outcome.bind (second value) third
  rcases first with ⟨events, _ | value⟩
  · rfl
  · rcases hSecond : second value with ⟨secondEvents, _ | next⟩ <;>
      simp [Outcome.bind, hSecond, List.append_assoc]

theorem id_map {α : Type} (outcome : Outcome α) : id <$> outcome = outcome := by
  change Outcome.bind outcome Outcome.pure = outcome
  rcases outcome with ⟨events, _ | value⟩ <;> simp [Outcome.bind, Outcome.pure]

instance : LawfulMonad Outcome :=
  LawfulMonad.mk' Outcome id_map (fun _ _ => rfl) bind_assoc

@[simp]
theorem result_fail {α : Type} (fault : Fault) :
    (fail fault : Outcome α).result = .error fault := rfl

@[simp]
theorem result_emit (event : Event) : (emit event).result = .ok () := rfl

end Outcome

/-- Reads a value from the start of a sequence of lexemes and gives it with the lexemes after
it. -/
abbrev Reader (α : Type) := List Lexeme → Outcome (α × List Lexeme)

end QueryOutline

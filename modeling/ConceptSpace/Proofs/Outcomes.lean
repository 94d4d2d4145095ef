/-! Outcomes that are taken apart.
What a chain of fallible steps returned tells what its first step returned, and so step after step. -/
namespace ConceptSpace

universe u v
variable {ε : Type u} {α β : Type v}

theorem bindOk {x : Except ε α} {next : α → Except ε β} {b : β} (ok : x >>= next = .ok b) :
    ∃ a, x = .ok a ∧ next a = .ok b := by
  cases x with
  | error e => cases ok
  | ok a => exact ⟨a, rfl, ok⟩

theorem bindFailed {x : Except ε α} {next : α → Except ε β} {e : ε} (failed : x >>= next = .error e) :
    x = .error e ∨ ∃ a, x = .ok a ∧ next a = .error e := by
  cases x with
  | error other =>
    cases failed
    exact .inl rfl
  | ok a => exact .inr ⟨a, rfl, failed⟩

theorem mapOk {f : α → β} {x : Except ε α} {b : β} (ok : x.map f = .ok b) :
    ∃ a, x = .ok a ∧ f a = b := by
  cases x with
  | error e => cases ok
  | ok a => exact ⟨a, rfl, Except.ok.inj ok⟩

theorem mapFailed {f : α → β} {x : Except ε α} {e : ε} (failed : x.map f = .error e) : x = .error e := by
  cases x with
  | error other => exact congrArg Except.error (Except.error.inj failed)
  | ok a => cases failed

end ConceptSpace

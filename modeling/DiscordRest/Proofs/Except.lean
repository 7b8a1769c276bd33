/-!
Results, each of which is a value or a failure: where a result made of others is a value, and when
two results match.
-/

namespace DiscordRest

variable {ε α β : Type}

namespace Except

theorem map_eq_ok_iff {result : Except ε α} {f : α → β} {value : β}
    : result.map f = .ok value ↔ ∃ given, result = .ok given ∧ f given = value := by
  cases result <;> simp [Except.map]

theorem map_eq_error_iff {result : Except ε α} {f : α → β} {failure : ε}
    : result.map f = .error failure ↔ result = .error failure := by
  cases result <;> simp [Except.map]

theorem exists_of_bind {result : Except ε α} {next : α → Except ε β} {value : β}
    (given : result >>= next = .ok value)
    : ∃ middle, result = .ok middle ∧ next middle = .ok value := by
  cases result with
  | error failure => cases given
  | ok middle => exact ⟨middle, rfl, given⟩

end Except

/-- Two results that are the same failure, or alike. -/
inductive Matches (alike : α → α → Prop) : Except ε α → Except ε α → Prop
  | error (failure : ε) : Matches alike (.error failure) (.error failure)
  | ok {value other : α} (similar : alike value other) : Matches alike (.ok value) (.ok other)

/-- What shows alike results in the same way shows results that match in the same way. -/
theorem Matches.map_eq {alike : α → α → Prop} {result other : Except ε α}
    (same : Matches alike result other) {f : α → β}
    (shows : ∀ {value other}, alike value other → f value = f other)
    : result.map f = other.map f := by
  cases same with
  | error failure => rfl
  | ok similar => exact congrArg Except.ok (shows similar)

/-- What is made of alike results in alike ways matches where they do. -/
theorem Matches.map {alike : α → α → Prop} {alikeNext : β → β → Prop}
    {result other : Except ε α} (same : Matches alike result other) {f : α → β}
    (made : ∀ {value other}, alike value other → alikeNext (f value) (f other))
    : Matches alikeNext (result.map f) (other.map f) := by
  cases same with
  | error failure => exact .error failure
  | ok similar => exact .ok (made similar)

theorem Matches.bind {alike : α → α → Prop} {alikeNext : β → β → Prop}
    {result other : Except ε α} (same : Matches alike result other) {next otherNext : α → Except ε β}
    (later : ∀ {value other}, alike value other → Matches alikeNext (next value) (otherNext other))
    : Matches alikeNext (result.bind next) (other.bind otherNext) := by
  cases same with
  | error failure => exact .error failure
  | ok similar => exact later similar

end DiscordRest

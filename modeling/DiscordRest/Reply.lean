import DiscordRest.Log

/-! Replies of stateful services: what they answer, their next state, and what they report. -/

namespace DiscordRest

/-- What a service gives back for a request. -/
structure Reply (σ α : Type) where
  /-- The service after the request. -/
  state : σ
  /-- The answer, or why there is none. -/
  answer : Except Error α
  /-- What the service reports. -/
  events : List Log.Event

namespace Reply

variable {σ α β : Type}

/-- A failure without any request. -/
def failure (state : σ) (error : Error) : Reply σ α :=
  ⟨state, .error error, []⟩

/-- The reply with its answer read further. -/
def read (reply : Reply σ α) (f : α → Except Error β) : Reply σ β :=
  { reply with answer := reply.answer.bind f }

end Reply

end DiscordRest

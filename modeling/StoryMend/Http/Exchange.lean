import StoryMend.Http.Address

/-!
Exchanges with a server: what is handed to the client that sends it, what comes back,
and why nothing comes back.
-/

namespace StoryMend.Http

/-- A request that sends a text. -/
structure Post where
  /-- The address as it is handed to the client. -/
  address : String
  contentType : String := "application/json"
  authorization : Option String := none
  body : String
deriving Repr, DecidableEq

/-- An answer that has come in full. -/
structure Answer where
  status : Nat
  /-- The bytes of the body. -/
  body : List UInt8
  /-- The body as its client shows it, also where bytes of it form no character. -/
  text : String
deriving Repr, DecidableEq

/-- Why there is no answer, in the words of the client. -/
structure Outage where
  message : String
deriving Repr, DecidableEq

namespace Outage

/-- The address of the server is not well formed. -/
def badAddress : Outage := ⟨"builder error"⟩

/-- The request could not be sent or was not answered. -/
def unanswered (address : Address) : Outage :=
  ⟨s!"error sending request for url ({address.text})"⟩

end Outage

/-- A client with the server behind it: a request is answered or not, and changes the state
of the world. -/
abbrev Peer (σ : Type) := Post → σ → Except Outage Answer × σ

/-- A client that reaches no server. -/
def silent {σ : Type} : Peer σ := fun post s =>
  match Address.read? post.address with
  | none => (.error .badAddress, s)
  | some address => (.error (.unanswered address), s)

end StoryMend.Http

import Jrok.Proto

/-!
# Answers to HTTP requests

What the handlers answer, before axum writes it out.
-/

namespace Jrok

/-- The values in the objects that the handlers serialise. -/
inductive Json where
  | null
  | bool (b : Bool)
  | str (s : String)
  | natInfo (info : NatInfo)
  deriving DecidableEq

/-- A value or `null`. -/
def Json.opt {α : Type} (f : α → Json) : Option α → Json
  | some a => f a
  | none => .null

inductive Response where
  | text (status : Nat) (body : String)
  | redirect (location body : String)
  | json (status : Nat) (fields : List (String × Json))
  /-- what an extractor rejects a request with, in words of its own -/
  | rejection (status : Nat)
  /-- what `into_response` makes of an agent's response -/
  | agent (response : HttpResponse)
  deriving DecidableEq

/-- The conversions of `HeaderValue`: what `to_str` reads, and the texts that `try_from` takes. -/
structure HeaderValues where
  toStr : List UInt8 → Option String
  accepts : String → Bool

/-- A redirect, unless `location` is no header value. -/
def HeaderValues.redirect (H : HeaderValues) (location body : String) : Response :=
  if H.accepts location then .redirect location body
  else .text 500 "failed to parse header value"

end Jrok

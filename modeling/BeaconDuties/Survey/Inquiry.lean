import BeaconDuties.Node.Request

/-!
Computations that ask a node.

An `Inquiry` is either done or asks a request and goes on with the answer. It says nothing about
where answers come from, so that the same inquiry can be run against fixed answers, with the
requests that it made (`Inquiry.run`), or be put to a node in any monad (`Inquiry.converse`).
-/

namespace BeaconDuties

/-- A computation that asks a node. -/
inductive Inquiry (α : Type) where
  | done (result : α)
  | ask (request : Request) (next : Except NodeFault request.Answer → Inquiry α)

namespace Inquiry

variable {α β : Type}

/-- Goes on with the result. -/
def bind : Inquiry α → (α → Inquiry β) → Inquiry β
  | done result, f => f result
  | ask request next, f => ask request fun answer => (next answer).bind f

instance : Monad Inquiry where
  pure := done
  bind := bind

/-- The result for fixed answers, and the requests that were made. -/
def run (node : Answers) : Inquiry α → α × List Request
  | done result => (result, [])
  | ask request next =>
    let (result, requests) := (next (node request)).run node
    (result, request :: requests)

/-- Puts the requests to a node, one after another. -/
def converse {m : Type → Type} [Monad m]
    (node : (request : Request) → m (Except NodeFault request.Answer)) : Inquiry α → m α
  | done result => pure result
  | ask request next => do (next (← node request)).converse node

end Inquiry

end BeaconDuties

import Mathlib.Data.List.Infix

/-!
# Pipes

A producer offers messages to a bounded queue. A consumer takes them off one at a time, and hands
each on before it takes the next. Once the queue is shut, what is offered is refused.

A `Pipe` is everything that has happened on the way. Its balance is part of it: what was offered is,
in this order, what has been delivered, what is in the consumer's hand, what is queued and what was
refused, so that nothing is lost on the way, made up or moved.
-/

namespace Concurrency

structure Pipe (α : Type) (bound : Nat) where
  offered : List α
  delivered : List α
  hand : Option α
  queue : List α
  refused : List α
  isOpen : Bool
  balance : offered = delivered ++ (hand.toList ++ (queue ++ refused))
  bounded : queue.length ≤ bound
  none_refused : isOpen = true → refused = []

namespace Pipe

variable {α : Type} {bound : Nat} {a : α} {rest : List α}

/-- The pipe before anything has happened. -/
def new : Pipe α bound := ⟨[], [], none, [], [], true, rfl, Nat.zero_le _, fun _ => rfl⟩

/-- There is room in the queue. -/
def enqueue (p : Pipe α bound) (a : α) (hopen : p.isOpen = true)
    (hroom : p.queue.length < bound) : Pipe α bound :=
  { p with
    offered := p.offered ++ [a]
    queue := p.queue ++ [a]
    balance := by simp [p.balance, p.none_refused hopen]
    bounded := by simpa using Nat.succ_le_of_lt hroom }

/-- The queue is shut. -/
def refuse (p : Pipe α bound) (a : α) (hshut : p.isOpen = false) : Pipe α bound :=
  { p with
    offered := p.offered ++ [a]
    refused := p.refused ++ [a]
    balance := by simp [p.balance]
    none_refused := by simp [hshut] }

/-- The consumer, whose hand is empty, takes the first message. -/
def take (p : Pipe α bound) (hhand : p.hand = none) (hqueue : p.queue = a :: rest) :
    Pipe α bound :=
  { p with
    hand := some a
    queue := rest
    balance := by simp [p.balance, hhand, hqueue]
    bounded := Nat.le_of_succ_le (by simpa [hqueue] using p.bounded) }

/-- The consumer hands on what it has in its hand. -/
def deliver (p : Pipe α bound) (hhand : p.hand = some a) : Pipe α bound :=
  { p with
    delivered := p.delivered ++ [a]
    hand := none
    balance := by simp [p.balance, hhand] }

/-- The consumer is gone. -/
def shut (p : Pipe α bound) : Pipe α bound :=
  { p with
    isOpen := false
    none_refused := nofun }

/-- What has been delivered is what was offered first, in that order. -/
theorem delivered_prefix (p : Pipe α bound) : p.delivered <+: p.offered := by
  rw [p.balance]
  exact List.prefix_append _ _

/-- While the queue is open, all that was offered is on its way. -/
theorem offered_of_open (p : Pipe α bound) (hopen : p.isOpen = true) :
    p.offered = p.delivered ++ (p.hand.toList ++ p.queue) := by
  rw [p.balance, p.none_refused hopen, List.append_nil]

end Pipe

end Concurrency

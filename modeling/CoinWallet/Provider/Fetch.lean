import CoinWallet.Error.Manager
import CoinWallet.Provider.Attempt
import CoinWallet.Provider.Query

set_option autoImplicit false

/-!
Several requests made together. They start in order and run side by side, and all have to be
answered. The first failure ends a small group; in a large one it waits for the answers to all
requests before it.
-/

namespace CoinWallet

/-- Queries, and what their answers add up to. All but the `apart` first queries are one group. -/
structure Plan (α : Type) where
  queries : List Query
  apart : Nat := 0
  conclude : Replies queries → Outcome ManagerError α

def Plan.map {α β : Type} (f : α → β) (plan : Plan α) : Plan β where
  queries := plan.queries
  apart := plan.apart
  conclude := fun replies => (plan.conclude replies).map f

inductive Attempts : List Query → Type
  | nil : Attempts []
  | cons {q : Query} {qs : List Query} (a : Attempt q.Reply) (rest : Attempts qs) :
    Attempts (q :: qs)

namespace Attempts

def waiting : (qs : List Query) → Attempts qs
  | [] => nil
  | _ :: qs => cons .waiting (waiting qs)

def step? (providers cursor : Nat) (event : (q : Query) → Attempt.Event q.Reply) :
    {qs : List Query} → (member : Nat) → Attempts qs → Option (Attempts qs × Nat)
  | _, _, nil => none
  | q :: _, 0, cons a rest =>
    (a.step? providers cursor (event q)).map fun (a, cursor) => (cons a rest, cursor)
  | _, member + 1, cons a rest =>
    (step? providers cursor event member rest).map fun (rest, cursor) => (cons a rest, cursor)

def toList : {qs : List Query} → Attempts qs → List (Σ q : Query, Attempt q.Reply)
  | _, nil => []
  | q :: _, cons a rest => ⟨q, a⟩ :: rest.toList

def mayStart {qs : List Query} (as : Attempts qs) (member : Nat) : Bool :=
  (as.toList.take member).all fun ⟨_, a⟩ => a.hasBegun

def result? : {qs : List Query} → Attempts qs → Option (Outcome NetworkError (Replies qs))
  | _, nil => some (.ok .nil)
  | _, cons a rest =>
    match a.result?, rest.result? with
    | some (.error fault), _ => some (.error fault)
    | _, some (.error fault) => some (.error fault)
    | some (.ok r), some (.ok replies) => some (.ok (.cons r replies))
    | _, _ => none

def inOrder? : {qs : List Query} → Attempts qs → Option (Outcome NetworkError (Replies qs))
  | _, nil => some (.ok .nil)
  | _, cons a rest =>
    match a.result? with
    | some (.ok r) => rest.inOrder?.map fun replies => replies.map (.cons r)
    | some (.error fault) => some (.error fault)
    | none => none

-- the largest group that its first failure ends
def smallGroup : Nat := 30

-- an overflow waits for nothing
def groupResult? {qs : List Query} (as : Attempts qs) :
    Option (Outcome NetworkError (Replies qs)) :=
  if qs.length ≤ smallGroup then as.result?
  else if as.toList.any fun ⟨_, a⟩ => a.overflows then some (.error .overflow)
  else as.inOrder?

def outcome? : (apart : Nat) → {qs : List Query} → Attempts qs →
    Option (Outcome NetworkError (Replies qs))
  | apart + 1, _, cons a rest =>
    match a.result?, outcome? apart rest with
    | some (.error fault), _ => some (.error fault)
    | _, some (.error fault) => some (.error fault)
    | some (.ok r), some (.ok replies) => some (.ok (.cons r replies))
    | _, _ => none
  | _, _, as => as.groupResult?

end Attempts

structure Fetch (α : Type) where
  plan : Plan α
  attempts : Attempts plan.queries

/-- What happens to a member of a fetch. A reply is what the provider answers to any query at that
moment. -/
inductive Fetch.Event
  | start
  | reply (provider : Provider)
  | move

namespace Fetch

variable {α : Type}

def ofPlan (plan : Plan α) : Fetch α where
  plan := plan
  attempts := .waiting plan.queries

def Event.on (q : Query) : Event → Attempt.Event q.Reply
  | start => .start
  | reply provider => .reply (q.settle (provider q))
  | move => .move

def outcome? (f : Fetch α) : Option (Outcome NetworkError (Replies f.plan.queries)) :=
  f.attempts.outcome? f.plan.apart

def permits (f : Fetch α) (member : Nat) : Event → Bool
  | .start => f.attempts.mayStart member && f.outcome?.isNone
  | _ => true

def step? (f : Fetch α) (providers cursor member : Nat) (event : Event) : Option (Fetch α × Nat) :=
  if f.permits member event then
    (f.attempts.step? providers cursor (fun q => event.on q) member).map fun (attempts, cursor) =>
      ({ f with attempts := attempts }, cursor)
  else none

def result? (f : Fetch α) : Option (Outcome ManagerError α) :=
  f.outcome?.map fun r =>
    match r with
    | .ok replies => f.plan.conclude replies
    | .error fault => .error (fault.map .network)

end Fetch

end CoinWallet

/-!
# Cancellation tokens

A token stands for a cancellation that may come. A copy of a token stands for the same
cancellation; when it comes, it comes for all copies and it stays.

* `Tokens`: some tokens and the cancellations behind them.
* `Tokens.cancel`, `Tokens.copy`, `Tokens.fresh`: the operations; `Tokens.isCancelled`: what a
  token shows.
-/

namespace QueryBatch

/-- **Tokens**: for each token the number of its cancellation, and the numbers of those that have
come. -/
structure Tokens where
  sources : List Nat
  cancelled : List Nat
deriving DecidableEq, Inhabited

namespace Tokens

/-- One token. -/
def single : Tokens := ⟨[0], []⟩

/-- The cancellation of a token has come. -/
def isCancelled (t : Tokens) (i : Nat) : Bool :=
  match t.sources[i]? with
  | some s => t.cancelled.contains s
  | none => false

def cancel (t : Tokens) (i : Nat) : Tokens :=
  match t.sources[i]? with
  | some s => { t with cancelled := s :: t.cancelled }
  | none => t

def copy (t : Tokens) (i : Nat) : Tokens :=
  match t.sources[i]? with
  | some s => { t with sources := t.sources ++ [s] }
  | none => t

/-- Adds a token with a cancellation of its own. The number of a cancellation is the number of its
first token. -/
def fresh (t : Tokens) : Tokens := { t with sources := t.sources ++ [t.sources.length] }

/-- What all tokens show. -/
def states (t : Tokens) : List Bool := t.sources.map t.cancelled.contains

end Tokens

end QueryBatch

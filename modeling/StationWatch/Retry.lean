import StationWatch.Decimal.Shortest
import StationWatch.Network

/-!
# Repeated attempts

A call that fails for a passing reason is tried again, up to a number of attempts, with a pause in
between.  The result is that of the last attempt.

How long the pauses are, and what is said about failed attempts, is left to whoever repeats calls.
The usual pauses double from attempt to attempt within bounds.

## Main definitions

* `RetryPolicy` — the number of attempts and the bounds of the pauses.
* `Backoff` — how long to pause, and what to say.
* `Backoff.exponential` — pauses that double within bounds.
* `Around` — what is done around the attempts of a call.
* `RetryPolicy.run` — a call with its attempts.

## References

`SPEC_FULL.md`, section 10.2.
-/

namespace StationWatch

/-- How often a call is tried, and how long the pauses are. -/
structure RetryPolicy where
  /-- The number of attempts; below one it counts as one. -/
  attempts : Int := 3
  /-- The least pause in seconds. -/
  minWait : Float := 1.0
  /-- The greatest pause in seconds. -/
  maxWait : Float := 10.0
  /-- The pause after the first attempt, before it is bounded. -/
  multiplier : Float := 2.0
  deriving Repr, Inhabited

/-- How long to pause after failed attempts, which are counted from one, and what to say. -/
structure Backoff where
  pauseAfter : RetryPolicy → (attempt : Nat) → Float
  /-- What is said of an attempt that failed. -/
  failedLine : (attempt : Nat) → NetworkFailure → RawText
  /-- What is said before a pause. -/
  pauseLine : (pause : Float) → NetworkFailure → RawText
  deriving Inhabited

namespace RetryPolicy

/-- A pause within the bounds: at most the greatest one, and then at least the least one, which is
never below zero. -/
def bounded (p : RetryPolicy) (pause : Float) : Float :=
  let least := if 0.0 < p.minWait then p.minWait else 0.0
  let capped := if p.maxWait < pause then p.maxWait else pause
  if least < capped then capped else least

/-- Powers of two from this exponent on are no doubles. -/
def exponentLimit : Nat := 1024

/-- The multiplier doubled so many times, within the bounds; the greatest pause if the power of two
is no double. -/
def doubled (p : RetryPolicy) (doublings : Nat) : Float :=
  if exponentLimit ≤ doublings then p.maxWait
  else p.bounded (p.multiplier * Float.ofNat (Nat.pow 2 doublings))

end RetryPolicy

/-- Pauses that double from attempt to attempt. -/
def Backoff.exponential : Backoff where
  pauseAfter p attempt := p.doubled (attempt - 1)
  failedLine attempt _ := "Attempt " ++ toString attempt ++ " failed"
  pauseLine pause failure :=
    "Retrying in " ++ Decimal.text pause ++ " seconds as it raised " ++ failure.kind.name ++ ": " ++
      failure.message

/-- What is done around the attempts of a call. -/
structure Around (m : Type → Type) (ε : Type) where
  /-- An attempt failed for a passing reason. -/
  failed : (attempt : Nat) → ε → m Unit
  /-- Another attempt follows after a pause. -/
  retry : (pause : Float) → ε → m Unit
  pause : (seconds : Float) → m Unit

namespace RetryPolicy

variable {m : Type → Type} [Monad m] {ε α : Type}

/-- Attempt `n` of a call, and what follows if it fails for a passing reason. -/
def tryOnce (around : Around m ε) (passing : ε → Bool) (call : m (Except ε α)) (n : Nat)
    (again : ε → m (Except ε α)) : m (Except ε α) := do
  match ← call with
  | .ok value => pure (.ok value)
  | .error e =>
    if passing e then
      around.failed n e
      again e
    else pure (.error e)

/-- Attempt `n` of a call, with `left` more to follow if it fails for a passing reason. -/
def attempt (around : Around m ε) (pauseAfter : Nat → Float) (passing : ε → Bool)
    (call : m (Except ε α)) : (left n : Nat) → m (Except ε α)
  | 0, n => tryOnce around passing call n fun e => pure (.error e)
  | left + 1, n =>
    tryOnce around passing call n fun e => do
      around.retry (pauseAfter n) e
      around.pause (pauseAfter n)
      attempt around pauseAfter passing call left (n + 1)

/-- A call with its attempts. -/
def run (p : RetryPolicy) (b : Backoff) (around : Around m ε) (passing : ε → Bool)
    (call : m (Except ε α)) : m (Except ε α) :=
  attempt around (b.pauseAfter p) passing call (p.attempts - 1).toNat 1

end RetryPolicy

end StationWatch

import QuoteMomentum.Indicator.Numeric
import QuoteMomentum.Value.Number

/-!
# Request pacing: a token bucket with reservations

The bucket holds up to `capacity` tokens and gains `rate` tokens per second.
Every request takes a token. Taking one first adds the tokens earned since the
last update, capped at the capacity; if the level is still at least zero
after taking, the request goes at once, otherwise it waits until the level is
back at zero, `-level / rate` seconds. Waiting requests thus queue as a
negative level, each behind the ones before it.

A wait can be cancelled: the request then gives its token back (again capped
at the capacity) and is not sent. A request whose stop event is already set
takes nothing and is not sent.

The bucket is a value and time is the caller's clock: `Bucket.acquire` takes
the clock and gives the new bucket, the outcome and the clock after any
sleep. Written over `Numeric`, it runs on doubles and reads exactly over the
rationals.
-/

namespace QuoteMomentum

open Numeric

/-- A token bucket at a moment of its life. -/
structure Bucket (α : Type) where
  capacity : α
  rate : α
  tokens : α
  updated : α

/-- How a request meets the stop event. -/
inductive Cancel where
  /-- No stop event: the request sleeps out its wait. -/
  | none
  /-- The stop event was set before the request. -/
  | already
  /-- The stop event fires during the wait. -/
  | fires
  /-- The stop event exists but stays unset: the wait runs out. -/
  | holds
  deriving Repr, DecidableEq

namespace Bucket

variable {α : Type} [Numeric α]

/-- A full bucket at time `now`. -/
def full (capacity rate now : α) : Bucket α := ⟨capacity, rate, capacity, now⟩

/-- Adds the tokens earned since the last update, up to the capacity. -/
def refill (b : Bucket α) (now : α) : Bucket α :=
  { b with tokens := keepMin b.capacity (b.tokens + (now - b.updated) * b.rate), updated := now }

/-- Takes a token at time `now`: the bucket after, and the wait before the
token may be used. -/
def reserve (b : Bucket α) (now : α) : Bucket α × α :=
  let b := b.refill now
  let t := b.tokens - ofNat 1
  ({ b with tokens := t }, if ofNat 0 ≤ t then ofNat 0 else -t / b.rate)

/-- Gives a token back, up to the capacity. -/
def release (b : Bucket α) : Bucket α :=
  { b with tokens := keepMin b.capacity (b.tokens + ofNat 1) }

/-- The tokens available at time `now` (negative while requests queue). -/
def available (b : Bucket α) (now : α) : Bucket α × α :=
  let b := b.refill now
  (b, b.tokens)

/-- A request at clock `now`: the bucket after, the wait it took (none when
it is not sent), and the clock after it. -/
def acquire (b : Bucket α) (cancel : Cancel) (now : α) : Bucket α × Option α × α :=
  if cancel == .already then (b, none, now)
  else
    let (b', delay) := b.reserve now
    if delay ≤ ofNat 0 then (b', some (ofNat 0), now)
    else if cancel == .fires then (b'.release, none, now)
    else (b', some delay, now + delay)

end Bucket

/-- A bucket from the configured rate per minute and burst, full at `now`:
both must be positive numbers. -/
def Bucket.ofSettings (perMinute burst : Value) (now : Float) : Except Fault (Bucket Float) := do
  if ← perMinute.test .le (.int 0) then throw .rateNotPositive
  if ← burst.test .le (.int 0) then throw .rateNotPositive
  let capacity ← (burst.num?.getD (.whole 0)).toDouble
  let perMin ← (perMinute.num?.getD (.whole 0)).toDouble
  return Bucket.full capacity (perMin / 60.0) now

end QuoteMomentum

import QuoteMomentum.Feed.Url
import QuoteMomentum.Feed.Chart
import QuoteMomentum.Feed.Bucket
import QuoteMomentum.Json.Read
import QuoteMomentum.Text.Encoding

/-!
# Fetching a chart

A client is made from the feed settings: its request bucket holds `burst_limit`
tokens and gains `rate_limit_calls_per_minute / 60` a second, and its clock
starts at zero. Both settings must be positive numbers (`Bucket.ofSettings`).

Each request first takes its turn (`Client.acquire`): when the client's stop
event is set it is not sent at all, and fails as cancelled; otherwise it
takes a token and waits until the bucket is back at zero, on the stop event
when the client has one. The wait is `-level / rate` seconds, which fails
when the rate is zero (the division) or when the wait is too long to time: a
timed wait counts nanoseconds, and `2 ^ 63` of them is past its clock. A
sleep without an event also refuses a wait that is no number. The client's
clock moves on by the wait.

One request per symbol and poll, no retries. What the transport answers
decides the outcome:

* the transport raised: the fault `transport` with its message;
* a status of 400 or more: the reply's own reading of its body as JSON is
  taken, when it reads one; when its `chart` object carries an error object,
  that error is the fault, with the status; otherwise the fault is the bare
  status;
* any other status: the body must decode (by the encoding its first bytes
  suggest) and read as a JSON document, else the fault `undecodable` with the
  reason; the chart's first result is then the answer (`Feed.chartResult`).

The reply's reading is its own: the transport decides how it decodes the body
and what it refuses. `Answer.ofBody` gives a reply the reading of the body as
a JSON document, the one the lower statuses use.

Requests carry two headers, the configured user agent and `Accept:
application/json`.
-/

namespace QuoteMomentum.Feed

/-- What the transport answers to a request. -/
inductive Answer where
  /-- The transport raised, with this message. -/
  | raised (message : String)
  /-- A reply with a status code, a body, and what the reply's own JSON
  reading makes of the body: a document, none when it refuses the body as
  JSON, or the fault it raises otherwise. -/
  | reply (status : Int) (body : ByteArray) (json : Except Fault (Option Value))

/-- The document in a body, or why there is none. A body nested deeper than
the reader follows is a fault of its own, which no caller takes for a bad
body. -/
def bodyDocument (body : ByteArray) : Except Fault (Except String Value) :=
  match Text.decodeBody body with
  | .error e => .ok (.error e.message)
  | .ok t =>
    match Json.readChars Json.nestingLimit t.toList.toArray with
    | .ok v => .ok (.ok v)
    | .error (.tooDeep a) => .error (.recursion (Json.nestingWhere a))
    | .error e => .ok (.error e.message)

/-- A body read as a JSON document: the document, or none when there is none. -/
def jsonOf (body : ByteArray) : Except Fault (Option Value) :=
  (bodyDocument body).map Except.toOption

/-- A reply whose own reading of the body is `jsonOf`. -/
def Answer.ofBody (status : Int) (body : ByteArray) : Answer :=
  .reply status body (jsonOf body)

/-- The body of a successful answer, or the fault of a failed one. -/
def bodyOf (ans : Answer) : Except Fault ByteArray := do
  match ans with
  | .raised m => throw (.feed (.transport m))
  | .reply status body json =>
    if 400 ≤ status then
      let payload := (← json).getD .null
      match chartError (payload.getD "chart") (some status) with
      | some f => throw (.feed f)
      | none => throw (.feed (.httpStatus status))
    else return body

/-- The chart result an answer carries, or the fault. -/
def resultOf (ans : Answer) : Except Fault Value := do
  let body ← bodyOf ans
  match ← bodyDocument body with
  | .ok payload => chartResult payload
  | .error d => throw (.feed (.undecodable d))

/-- The headers every request carries, by name. -/
def headers (feed : Settings.Feed) : List (String × Value) :=
  [("Accept", .str "application/json"), ("User-Agent", feed.userAgent)]

/-! ## The client and its turns -/

/-- What a chart client keeps between requests: the bucket its requests draw
on, the clock that bucket reads, and the stop event its waits watch, when it
has one: whether that event is set. -/
structure Client where
  bucket : Bucket Float
  clock : Float
  stop : Option Bool

namespace Client

/-- A client for the feed settings, its bucket full at clock zero, with the
stop event `stop` when it has one. -/
def make (feed : Settings.Feed) (stop : Option Bool) : Except Fault Client := do
  let bucket ← Bucket.ofSettings feed.rateLimitCallsPerMinute feed.burstLimit 0.0
  return ⟨bucket, 0.0, stop⟩

/-- Whether a timed wait of `w` seconds is past the clock it is timed on: its
nanoseconds, as a double, reach `2 ^ 63`. -/
def tooLong (w : Float) : Bool := 9223372036854775808.0 ≤ w * 1000000000.0

/-- A request's turn: the client after it, and whether the request is sent.
With the stop event set nothing is taken and nothing sent. Otherwise the
request takes a token and sleeps out its wait, on the stop event when there
is one, unless the wait cannot be computed (a level below zero with a zero
rate), is too long to time, or, slept without an event, is no number. -/
def acquire (c : Client) : Except Fault (Client × Bool) :=
  if c.stop = some true then .ok (c, false)
  else
    let (bucket, delay) := c.bucket.reserve c.clock
    if !(0.0 ≤ bucket.tokens) && c.bucket.rate == 0.0 then .error .divisionByZero
    else if delay ≤ 0.0 then .ok ({ c with bucket }, true)
    else if tooLong delay then .error .waitTooLong
    else if c.stop.isNone && delay.isNaN then .error .waitNaN
    else .ok ({ c with bucket, clock := c.clock + delay }, true)

/-- A request for which the transport gives `answer`: the client after the
request's turn, whether it was sent, and the chart result or the fault; a
request that was not sent is cancelled. -/
def fetch (c : Client) (answer : Answer) : Except Fault (Client × Bool × Except Fault Value) := do
  let (c, sent) ← c.acquire
  return (c, sent, if sent then resultOf answer else .error (.feed .cancelled))

end Client

end QuoteMomentum.Feed

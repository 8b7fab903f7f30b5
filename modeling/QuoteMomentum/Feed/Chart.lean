import QuoteMomentum.Fault

/-!
# The chart envelope

A chart response is `{"chart": {"result": [R, ...], "error": E}}`. The result
of a request is the first entry `R`, which must be an object in a non-empty
list. When there is none, the feed's own error `E` explains why, if it is an
object: its `description` when that is a text, else a generic one, and its
`code` when that is a text. Without such an error the answer is the generic
rejection.
-/

namespace QuoteMomentum.Feed

/-- What a request is refused with when the feed gives no reason. -/
def noData : String := "Invalid ticker or no data"

/-- The feed's own error in a chart object, if it sent one; `status` is the
status code of the answer it came with. -/
def chartError (chart : Value) (status : Option Int := none) : Option FeedFault :=
  match chart.get? "error" with
  | some err@(.dict _) =>
    let description := match err.get? "description" with
      | some (.str d) => d
      | _ => noData
    let code := match err.get? "code" with
      | some (.str c) => some c
      | _ => none
    some (.rejected description code status)
  | _ => none

/-- The first result of a chart response, or the reason there is none. -/
def chartResult (payload : Value) : Except Fault Value :=
  let chart := payload.getD "chart"
  match chart.getD "result" with
  | .list (r@(.dict _) :: _) => .ok r
  | _ => .error (.feed ((chartError chart).getD (.rejected noData none none)))

end QuoteMomentum.Feed

import Storyboard.Net.Header

/-!
# Origins

A page in a browser may use the service only if the service agrees to the origin that the page came
from. Before certain requests the browser asks with an `OPTIONS` request, which is answered without
doing anything; every other response says what the page may do with it.
-/

namespace Storyboard.Service

/-- The origins whose pages may use the service. -/
inductive Origins
  /-- All, without credentials. -/
  | all
  /-- Some, with credentials. -/
  | listed (origins : List String)
deriving DecidableEq, Repr

namespace Origins

/-- The origins of a list. A star stands for all; what cannot stand in a header is passed over. -/
def ofList (origins : List String) : Origins :=
  if origins.contains "*" then .all else .listed (origins.filter Net.isHeaderValue)

/-- What a request's own choices have an effect on. -/
def vary : String × String :=
  ("vary", "origin, access-control-request-method, access-control-request-headers")

/-- The fields that say whether the page of a request may use the service. -/
def permission (o : Origins) (request : Net.Headers) : Net.Headers :=
  match o with
  | .all => [("access-control-allow-origin", "*"), vary]
  | .listed origins =>
    (match (request.first? "origin").filter origins.contains with
      | some origin => [("access-control-allow-origin", origin)]
      | none => []) ++
    [("access-control-allow-credentials", "true"), vary]

/-- The fields of the answer to a browser that asks beforehand. -/
def beforehand (o : Origins) (request : Net.Headers) : Net.Headers :=
  o.permission request ++
    (match o with
      | .all =>
        [("access-control-allow-methods", "*"), ("access-control-allow-headers", "*")]
      | .listed _ =>
        [("access-control-allow-methods", "GET,POST,OPTIONS"),
         ("access-control-allow-headers", "authorization,content-type,accept,origin")]) ++
    [("access-control-max-age", "600")]

/-- The fields that are added to any other response. -/
def afterwards (o : Origins) (request : Net.Headers) : Net.Headers :=
  o.permission request ++
    (match o with
      | .all => [("access-control-expose-headers", "*")]
      | .listed _ => [("access-control-expose-headers", "content-length,content-type")])

end Origins

end Storyboard.Service

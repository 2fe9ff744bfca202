import Storyboard.Json.Reader
import Storyboard.Net.MediaType
import Storyboard.Service.Message

/-!
# Reading bodies

The body of a request is a value as JSON. It is read only if the request says so, and only up to a
number of bytes: the least of what the service is set to, what the request announced, and two
mebibytes. What follows the value is ignored.
-/

namespace Storyboard.Service

open Json (Reader ReadError)

/-- Why a body cannot be used. -/
inductive BodyError
  /-- It is not said to be JSON. -/
  | wrongType
  /-- It is too long. -/
  | tooLong
  /-- It is no JSON, or no value of the type that is wanted. -/
  | unreadable (error : ReadError)

namespace BodyError

/-- The wording of an error. -/
def message : BodyError → String
  | .wrongType => "Expected request with `Content-Type: application/json`"
  | .tooLong => "Failed to buffer the request body: length limit exceeded"
  | .unreadable error =>
    match error.fault.kind with
    | .semantic =>
      "Failed to deserialize the JSON body into the target type: " ++ error.located
    | .ending | .syntactic => "Failed to parse the request body as JSON: " ++ error.located

end BodyError

namespace Request

/-- The number of bytes that a request announces. -/
def announcedSize? (r : Request) : Option Nat :=
  (r.headers.plain? "content-length").bind fun s => Text.unsigned 18446744073709551616 s.toList

/-- The most bytes that are ever read. -/
def mostBytes : Nat := 2 * 1024 * 1024

/-- The most bytes that are read of a body, where the service is set to `limit`. -/
def bodyLimit (r : Request) (limit : Nat) : Nat :=
  min mostBytes (min limit (r.announcedSize?.getD limit))

/-- Whether the body is said to be JSON. -/
def hasJson (r : Request) : Bool :=
  ((r.headers.plain? "content-type").map Net.isJsonType).getD false

/-- Reads the body. -/
def read {α : Type} (r : Request) (reader : Reader α) (limit : Nat) : Except BodyError α :=
  if !r.hasJson then .error .wrongType
  else if r.bodyLimit limit < r.body.length then .error .tooLong
  else (reader.ofBytes true r.body).mapError .unreadable

end Request

end Storyboard.Service

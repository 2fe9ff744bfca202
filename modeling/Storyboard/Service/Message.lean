import Storyboard.Json.Value
import Storyboard.Net.Address
import Storyboard.Net.Header
import Storyboard.Service.Error

/-!
# Requests and responses

What comes to the service and what it sends back. A response to an error that is not the caller's
carries the wording that takes its place in public.
-/

namespace Storyboard.Service

/-- A request to the service. -/
structure Request where
  /-- The method. -/
  method : String
  /-- The target: a path, perhaps with a query. -/
  target : String
  /-- The header fields. -/
  headers : Net.Headers := []
  /-- The address of the other end of the connection, if it is known. -/
  peer : Option Net.Address := none
  /-- The bytes of the body. -/
  body : List Nat := []
deriving DecidableEq, Repr

namespace Request

/-- The path of a request, without a query. -/
def path (r : Request) : List Char := r.target.toList.takeWhile fun c => c ≠ '?' && c ≠ '#'

end Request

/-- The body of a response. -/
inductive Content
  /-- Nothing. -/
  | empty
  /-- A text. -/
  | text (value : String)
  /-- A value as JSON. -/
  | json (value : Json)
deriving Repr

/-- A response of the service. -/
structure Response where
  /-- The status. -/
  status : Nat
  /-- The header fields. -/
  headers : Net.Headers
  /-- The body. -/
  content : Content
  /-- What takes the place of the body in public. -/
  redaction : Option Redaction := none
deriving Repr

namespace Response

/-- A response without a body. -/
def bare (status : Nat) : Response := ⟨status, [], .empty, none⟩

/-- A response with a value. -/
def ofJson (status : Nat) (value : Json) : Response :=
  ⟨status, [("content-type", "application/json")], .json value, none⟩

/-- A response with a text. -/
def ofText (status : Nat) (text : String) : Response :=
  ⟨status, [("content-type", "text/plain; charset=utf-8")], .text text, none⟩

/-- The value that tells of an error. -/
def errorJson (detail code : String) : Json :=
  .object [("detail", .text detail), ("code", .text code)]

/-- The response to an error. -/
def ofError (e : Error) : Response :=
  { ofJson e.statusCode (errorJson e.message e.code) with redaction := e.redaction? }

/-- The response with one value for a field. -/
def withHeader (r : Response) (name value : String) : Response :=
  { r with headers := r.headers.set name value }

/-- The response without its body. -/
def withoutContent (r : Response) : Response := { r with content := .empty }

/-- The response as the public gets to see it. -/
def redacted (r : Response) : Response :=
  match r.redaction with
  | some it => { r with content := .json (errorJson it.detail it.code) }
  | none => r

end Response

end Storyboard.Service

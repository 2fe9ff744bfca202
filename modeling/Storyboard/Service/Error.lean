import Storyboard.Engine.Basic
import Storyboard.Request.Rejection

/-!
# Errors of the service

Why a request to the service was not fulfilled. Errors that are not the caller's have a second
wording that says nothing about the inside; it takes the place of the first where the service is
open to the public.
-/

namespace Storyboard.Service

/-- Why a request was not fulfilled. -/
inductive Error
  /-- The request is at fault. -/
  | validation (message : String)
  /-- The engine is not set up. -/
  | configuration (message : String)
  /-- The engine did not accept a video. -/
  | submission (code : Option Nat) (message : String)
  /-- The engine did not report on a job. -/
  | status (code : Option Nat) (message : String)
  /-- There is no such thing. -/
  | notFound (message : String)
  /-- There were too many requests. -/
  | rateLimited
  /-- Something broke down. -/
  | internal (message : String)
deriving DecidableEq, Repr

/-- A wording that says nothing about the inside. -/
structure Redaction where
  /-- The wording. -/
  detail : String
  /-- The code of the error. -/
  code : String
deriving DecidableEq, Repr

namespace Error

/-- The status of the answer. -/
def statusCode : Error → Nat
  | .validation _ => 400
  | .notFound _ => 404
  | .rateLimited => 429
  | .submission .. | .status .. => 502
  | .configuration _ | .internal _ => 500

/-- A code for programs. -/
def code : Error → String
  | .validation _ => "validation_error"
  | .configuration _ => "configuration_error"
  | .submission .. => "render_submission_failed"
  | .status .. => "render_status_failed"
  | .notFound _ => "not_found"
  | .rateLimited => "rate_limited"
  | .internal _ => "internal_error"

/-- The wording of an error. -/
def message : Error → String
  | .validation message => "Validation error: " ++ message
  | .configuration message => "Configuration error: " ++ message
  | .submission _ message => "Render submission failed: " ++ message
  | .status _ message => "Render status check failed: " ++ message
  | .notFound message => "Not found: " ++ message
  | .rateLimited => "Rate limited"
  | .internal message => "Internal error: " ++ message

/-- The wording that says nothing about the inside, for errors that are not the caller's. -/
def generic? : Error → Option String
  | .configuration _ => some "The render service is not configured"
  | .submission .. => some "The render service rejected the request"
  | .status .. => some "The render service could not report status"
  | .internal _ => some "An internal error occurred"
  | .validation _ | .notFound _ | .rateLimited => none

/-- What the public gets to see in place of the error. -/
def redaction? (e : Error) : Option Redaction := e.generic?.map fun detail => ⟨detail, e.code⟩

/-- The error for a request that was rejected. -/
def ofRejection (r : Rejection) : Error := .validation r.message

/-- The error for an error of the engine. -/
def ofRenderError : RenderError → Error
  | .configuration message => .configuration message
  | .submission code message => .submission code message
  | .jobNotFound id => .notFound ("render job " ++ id.text)
  | .status code message => .status code message
  | .pollTimeout id attempts => .status none (RenderError.pollTimeout id attempts).message

/-- The error for a breakdown. -/
def ofBreakdown (b : Breakdown) : Error := .internal ("request handler panicked: " ++ b.message)

/-- What is noted down when an error is answered. -/
def logs : Error → List LogEntry
  | .internal message => [⟨.error, "Internal error", [("error", .text message)]⟩]
  | _ => []

end Error

end Storyboard.Service

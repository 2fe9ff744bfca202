import Storyboard.Engine.Config
import Storyboard.Net.Header
import Storyboard.Net.Status
import Storyboard.Wire.Plan

/-!
# The remote engine

The engine proper is reached over the network. A video is posted to it, and it is asked for a job at
an address that ends in the name of the job. It wraps every answer in an envelope that says whether
all went well, holds a message, and perhaps a response.

What the network does is not known beforehand, so it is part of the state: `Network` holds what will
come of the next requests. Whatever comes, the outcome is one of those of `RenderError` or a result;
the message of an error is never blank.
-/

namespace Storyboard

open Json (Reader Record Field)

/-- What comes of a request. -/
inductive Delivery
  /-- Nobody is there. -/
  | unreachable
  /-- The request arrives and the connection is closed. -/
  | dropped
  /-- The request is answered with a status and the bytes of a body. -/
  | answered (status : Nat) (body : List Nat)
deriving DecidableEq, Repr

/-- A request that has arrived. -/
structure Outbound where
  /-- The method. -/
  method : String
  /-- The address. -/
  url : Url
  /-- The credential. -/
  apiKey : String
  /-- The body. -/
  body : Option Json
deriving Repr

/-- The network between here and the engine. -/
structure Network where
  /-- What comes of the next requests; after these nobody is there. -/
  deliveries : List Delivery := []
  /-- The requests that have arrived, oldest first. -/
  sent : List Outbound := []
  /-- What the clock shows. -/
  now : Stamp := default
deriving Repr

/-- The envelope of an answer. -/
structure Envelope (α : Type) where
  /-- Whether all went well. -/
  success : Bool
  /-- A message. -/
  message : String
  /-- What was asked for. -/
  response : Option α

/-- The engine's report on a job. -/
structure StatusReport where
  /-- The name of the job. -/
  id : String
  /-- How far it has come, in the words of the engine. -/
  status : String
  /-- The address of the file. -/
  url : Option String
  /-- The address of a large still. -/
  poster : Option String
  /-- The address of a small still. -/
  thumbnail : Option String
  /-- Why it failed. -/
  error : Option String
  /-- When it was accepted. -/
  created : Option Stamp
  /-- When it changed last. -/
  updated : Option Stamp
deriving DecidableEq, Repr

/-- The wire form of a submission. -/
def RenderSubmission.toJson (s : RenderSubmission) : Json :=
  .object (Wire.member "timeline" s.timeline ++ Wire.member "output" s.output ++
    Wire.memberIfAny "callback" s.callback)

namespace Envelope

/-- Reads an envelope. -/
def reader {α : Type} (r : Reader α) : Reader (Envelope α) :=
  Record.of Envelope.mk
    |>.field (Wire.required "success")
    |>.field (.defaulted "message" Wire.reader "")
    |>.field (.optional "response" r)
    |>.reader "struct Envelope"

end Envelope

namespace StatusReport

/-- Reads a report. -/
def reader : Reader StatusReport :=
  Record.of StatusReport.mk
    |>.field (Wire.required "id")
    |>.field (Wire.required "status")
    |>.field (Wire.optional "url")
    |>.field (Wire.optional "poster")
    |>.field (Wire.optional "thumbnail")
    |>.field (Wire.optional "error")
    |>.field (Wire.optional "created")
    |>.field (Wire.optional "updated")
    |>.reader "struct StatusResponse"

/-- The job that a report is about. A status that is not known counts as being in the works; a
missing stamp is made up for by the one before it, and that by the clock. -/
def job (r : StatusReport) (now : Stamp) : RenderJob :=
  let created := r.created.getD now
  { id := ⟨r.id⟩
    status := (RenderStatus.ofEngine? r.status).getD .rendering
    url := r.url.filter (· ≠ "")
    poster := r.poster.filter (· ≠ "")
    thumbnail := r.thumbnail.filter (· ≠ "")
    error := r.error.filter (· ≠ "")
    createdAt := created
    updatedAt := r.updated.getD created }

/-- The warning about a status that is not known. -/
def logs (r : StatusReport) : List LogEntry :=
  match RenderStatus.ofEngine? r.status with
  | some _ => []
  | none =>
    [.warning "Unknown engine status, treating as rendering"
      [("job_id", .text r.id), ("engine_status", .text r.status)]]

end StatusReport

namespace Remote

/-! ## Requests -/

/-- The request that is to be sent, or why there is none. -/
def request (config : EngineConfig) (apiKey method path : String) (body : Option Json) :
    Except String Outbound :=
  match Url.parse (withoutSlashes config.baseUrl ++ "/" ++ path) with
  | .error _ => .error "builder error"
  | .ok url =>
    if url.host.isNone then .error s!"builder error for url ({url.text})"
    else if !Net.isHeaderValue apiKey then .error "builder error"
    else if !url.isWeb then .error s!"builder error for url ({url.text})"
    else .ok { method, url := { url with username := "", password := none }, apiKey, body }

/-- Sends a request and waits for what comes of it. Gives the status and the body of the answer. -/
def exchange (out : Outbound) (u : Network) : Except String (Nat × List Nat) × Network :=
  let rest := { u with deliveries := u.deliveries.drop 1 }
  let lost := s!"error sending request for url ({out.url.text})"
  match u.deliveries.head? with
  | none | some .unreachable => (.error lost, rest)
  | some .dropped => (.error lost, { rest with sent := u.sent ++ [out] })
  | some (.answered status body) => (.ok (status, body), { rest with sent := u.sent ++ [out] })

/-! ## Answers -/

/-- A message, or another one in place of a blank one. -/
def messageOr (message fallback : String) : String :=
  if Text.isBlankText message then fallback else message

/-- The response in the envelope of a successful answer, or why there is none. -/
def unwrap {α : Type} (r : Reader α) (body : List Nat) : Except String α :=
  match (Envelope.reader r).ofBytes false body with
  | .ok envelope =>
    if !envelope.success then .error (messageOr envelope.message "engine reported failure")
    else
      match envelope.response with
      | some a => .ok a
      | none => .error (messageOr envelope.message "engine response missing body")
  | .error _ => .error "invalid engine response: error decoding response body"

/-- The reason that the response of an envelope gives. -/
def givenReason? (response : Option Json) : Option String :=
  (response.bind fun v => (v.field? "error").bind Json.text?).filter (!Text.isBlankText ·)

/-- The message of an answer without success: the reason in the envelope, else its message; the body
as it is, if it is no envelope; and the phrase of the status in place of a blank one. -/
def errorMessage (status : Nat) (body : List Nat) : String :=
  let text := Text.ofBytesLossy body
  let message := match (Envelope.reader Reader.any).ofChars false text with
    | .ok envelope => (givenReason? envelope.response).getD envelope.message
    | .error _ => String.ofList text
  messageOr message ((Net.reason? status).getD "request failed")

/-! ## Operations -/

/-- The error for a missing credential. -/
def noKey : RenderError := .configuration "RENDER_API_KEY is not set"

/-- Reads the name of a new job. -/
def idReader : Reader String :=
  Record.of id |>.field (Wire.required "id") |>.reader "struct SubmitResponse"

/-- What the answer to a submission means. -/
def submitReply (status : Nat) (body : List Nat) : Reply JobId × List LogEntry :=
  if Net.isSuccess status then
    match unwrap idReader body with
    | .ok id => (.ok ⟨id⟩, [])
    | .error message => (.failed (.submission (some status) message), [])
  else
    let message := errorMessage status body
    (.failed (.submission (some status) message),
      [.warning "Render engine rejected submission"
        [("status", .number status), ("message", .text message)]])

/-- Posts a video. -/
def submit (config : EngineConfig) (submission : RenderSubmission) (u : Network) :
    Exchange Network JobId :=
  match config.apiKey with
  | none => ⟨.failed noKey, u, []⟩
  | some key =>
    match request config key "POST" "render" (some submission.toJson) with
    | .error message => ⟨.failed (.submission none message), u, []⟩
    | .ok out =>
      match exchange out u with
      | (.error message, u) => ⟨.failed (.submission none message), u, []⟩
      | (.ok (status, body), u) => ⟨(submitReply status body).1, u, (submitReply status body).2⟩

/-- What the answer to the question for a job means. -/
def statusReply (id : JobId) (now : Stamp) (status : Nat) (body : List Nat) :
    Reply RenderJob × List LogEntry :=
  if status = 404 then (.failed (.jobNotFound id), [])
  else if Net.isSuccess status then
    match unwrap StatusReport.reader body with
    | .ok report => (.ok (report.job now), report.logs)
    | .error message => (.failed (.status (some status) message), [])
  else
    let message := errorMessage status body
    (.failed (.status (some status) message),
      [.warning "Render status check failed"
        [("job_id", .text id.text), ("status", .number status), ("message", .text message)]])

/-- Asks for a job. -/
def status (config : EngineConfig) (id : JobId) (u : Network) : Exchange Network RenderJob :=
  match config.apiKey with
  | none => ⟨.failed noKey, u, []⟩
  | some key =>
    match request config key "GET" ("render/" ++ id.text) none with
    | .error message => ⟨.failed (.status none message), u, []⟩
    | .ok out =>
      match exchange out u with
      | (.error message, u) => ⟨.failed (.status none message), u, []⟩
      | (.ok (status, body), u) =>
        ⟨(statusReply id u.now status body).1, u, (statusReply id u.now status body).2⟩

/-- The remote engine with the given settings. -/
def engine (config : EngineConfig) : Engine Network := ⟨submit config, status config⟩

end Remote

end Storyboard

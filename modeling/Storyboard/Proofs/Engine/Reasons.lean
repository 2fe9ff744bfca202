import Storyboard.Proofs.Engine.Answers
import Storyboard.Proofs.Json.Members
import Storyboard.Proofs.Text.Utf8

/-!
# What becomes of the reason for a failure

An envelope that tells of failure says why: its response gives the reason, or else its message does.
How much of it comes back depends on the status, because there are two ways of reading an envelope.
Where the status does not tell of success, any response will do, and a reason in it goes before the
message. Where it does, the response is read as what was asked for: the reason in it is not looked
at, and a response of another shape takes the message with it. `Terms.Tells` says what is told in
each case.
-/

namespace Storyboard.Remote

open Json (Reader Record Field Form Key Doc deepest)
open Json.Record (takes_nil_iff takes_singleton_iff members_field_iff members_of_iff
  finish_field_eq_ok_iff)

/-! ## Envelopes that tell of failure -/

/-- The members of an object are those of an envelope that tells of failure, perhaps with others
between them. -/
structure FailsWith (ms : List (Key × Doc)) (message : String) (response : Option Doc) : Prop where
  /-- The names are texts, and the values are JSON. -/
  json : ∀ m ∈ ms, (∃ name, m.1 = .ok name) ∧ m.2.skipFault? = none
  /-- It says that something went wrong. -/
  success_eq : Doc.named "success" ms = [.boolean false]
  /-- It has a message. -/
  message_eq : Doc.named "message" ms = [.text (.ok message)]
  /-- The message can be seen. -/
  visible : Text.isBlankText message = false
  /-- It has a response or none. -/
  response_eq : Doc.named "response" ms = response.toList

/-- A body is the text of an object that tells of failure. -/
def TellsFailure (body : List Nat) (message : String) (response : Option Doc) : Prop :=
  ∃ cs ms, Text.ofBytes? body = some cs ∧ Doc.ofChars cs = (.object ms .closed, false) ∧
    FailsWith ms message response

/-- The reason for a failure: the one in the response, or else the message. -/
inductive Upstream (message : String) (response : Option Doc) : String → Prop
  /-- The response gives it. -/
  | given {d : Doc} {reason : String} (response_eq : response = some d)
      (gives : GivesReason d.value reason) : Upstream message response reason
  /-- The response gives none. -/
  | general (silent : ∀ d, response = some d → ∀ reason, ¬GivesReason d.value reason) :
      Upstream message response message

/-- There is one reason. -/
theorem Upstream.unique {message said other : String} {response : Option Doc}
    (h : Upstream message response said) (h' : Upstream message response other) : said = other := by
  rcases h with ⟨hd, hgives⟩ | ⟨hsilent⟩ <;> rcases h' with ⟨hd', hgives'⟩ | ⟨hsilent'⟩
  · obtain rfl := Option.some.inj (hd.symm.trans hd')
    exact Json.text.inj (Option.some.inj (hgives.1.symm.trans hgives'.1))
  · exact absurd hgives (hsilent' _ hd _)
  · exact absurd hgives' (hsilent _ hd' _)
  · rfl

/-- A response, if there is one, is read inside an envelope with the given result. -/
def ReadsAs {α : Type} (r : Reader α) : Option Doc → Option α → Prop
  | none, x => x = none
  | some d, x => r.optional.read (.text (deepest - 1)) d = .ok x

/-- A response, if there is one, can be read inside an envelope. -/
def Fits {α : Type} (r : Reader α) (response : Option Doc) : Prop := ∃ x, ReadsAs r response x

/-- An operation ends with an error that keeps the status, and tells what the envelope of a failure
says as far as it is read. -/
structure Terms.Tells {α β : Type} (t : Terms α β) (code : Nat) (body : List Nat)
    (message : String) (response : Option Doc) (reply : Reply α) : Prop where
  /-- If the status does not tell of success, the reason is told. -/
  refused : Net.isSuccess code = false → Fits Reader.any response →
    ∃ said, Upstream message response said ∧ reply = .failed (t.failure said)
  /-- If the response cannot be read at all then, the body is told as it stands. -/
  refused_unread : Net.isSuccess code = false → ¬Fits Reader.any response →
    ∃ cs, Text.ofBytes? body = some cs ∧ reply = .failed (t.failure (String.ofList cs))
  /-- If the status tells of success, the message is told. -/
  answered : Net.isSuccess code = true → Fits t.reader response →
    reply = .failed (t.failure message)
  /-- If the response is none of those that are asked for then, nothing of it is told. -/
  answered_unread : Net.isSuccess code = true → ¬Fits t.reader response →
    reply = .failed (t.failure "invalid engine response: error decoding response body")
  /-- So the reason is told where the response can be read, if the status does not tell of success
  or the response gives none. -/
  spared : (Net.isSuccess code = false ∧ Fits Reader.any response ∨
      Net.isSuccess code = true ∧ Fits t.reader response ∧
        ∀ d, response = some d → ∀ reason, ¬GivesReason d.value reason) →
    ∃ said, Upstream message response said ∧ reply = .failed (t.failure said)

/-! ## Reading them -/

section Reading

variable {α : Type} {r : Reader α} {ms : List (Key × Doc)} {message : String}
  {response : Option Doc} {body : List Nat}

/-- A response that is left out is read as none. -/
theorem ReadsAs.or_eq {x : Option α} (h : ReadsAs r response x) :
    (response.map fun _ => x).or (some none) = some x := by
  cases response with
  | none =>
    obtain rfl : x = none := h
    rfl
  | some d => rfl

/-- The field for the response takes what the response is read as. -/
theorem takes_response_iff (hjson : ∀ d ∈ response.toList, d.skipFault? = none)
    {p : Option (Option α)} :
    (Field.optional "response" r).Takes (.text (deepest - 1)) none response.toList p ↔
      ∃ x, ReadsAs r response x ∧ p = response.map fun _ => x := by
  cases response with
  | none => simp [takes_nil_iff, ReadsAs]
  | some d =>
    have hread : ∀ x, (Field.optional "response" r).reader.member (.text (deepest - 1)) "response"
        d = .ok x ↔ ReadsAs r (some d) x := fun x =>
      Reader.member_eq_ok_iff (hjson d (by simp))
    simp only [Option.toList_some, takes_singleton_iff, Option.map_some]
    exact exists_congr fun x => and_congr_left fun _ => hread x

theorem takes_success_iff {form : Form} {p : Option Bool} :
    (Wire.required "success").Takes form none [.boolean false] p ↔ p = some false := by
  rw [takes_singleton_iff]
  constructor
  · rintro ⟨b, hread, rfl⟩
    exact congrArg some (Except.ok.inj hread).symm
  · rintro rfl
    exact ⟨false, rfl, rfl⟩

theorem takes_message_iff {form : Form} {p : Option String} :
    (Field.defaulted "message" Wire.reader "").Takes form none [.text (.ok message)] p ↔
      p = some message := by
  rw [takes_singleton_iff]
  constructor
  · rintro ⟨s, hread, rfl⟩
    exact congrArg some (Except.ok.inj hread).symm
  · rintro rfl
    exact ⟨message, rfl, rfl⟩

/-- An envelope that tells of failure is read exactly if its response can be. -/
theorem FailsWith.read_eq_ok_iff (h : FailsWith ms message response) {e : Envelope α} :
    (Envelope.reader r).read (.text deepest) (.object ms .closed) = .ok e ↔
      ∃ x, ReadsAs r response x ∧ e = ⟨false, message, x⟩ := by
  have hmessage : Doc.named "message" (Doc.others "response" ms) = [.text (.ok message)] := by
    rw [Doc.named_others (by decide), h.message_eq]
  have hsuccess : Doc.named "success" (Doc.others "message" (Doc.others "response" ms)) =
      [.boolean false] := by
    rw [Doc.named_others (by decide), Doc.named_others (by decide), h.success_eq]
  have hjson : ∀ d ∈ response.toList, d.skipFault? = none := by
    intro d hd
    rw [← h.response_eq] at hd
    obtain ⟨m, hm, rfl⟩ := Doc.exists_of_mem_named hd
    exact (h.json m hm).2
  have hrest : ∀ m ∈ Doc.others "success" (Doc.others "message" (Doc.others "response" ms)),
      (∃ name, m.1 = .ok name) ∧ ((Form.text (deepest - 1)).isText = true →
        m.2.skipFault? = none) := by
    intro m hm
    obtain ⟨hname, hvalue⟩ := h.json m
      (Doc.mem_of_mem_others (Doc.mem_of_mem_others (Doc.mem_of_mem_others hm)))
    exact ⟨hname, fun _ => hvalue⟩
  unfold Envelope.reader
  rw [Record.reader_object_eq_ok_iff]
  constructor
  · rintro ⟨inner, ⟨⟨⟨u, success⟩, text⟩, answer⟩, henter, hmembers, -, hfinish⟩
    obtain rfl : Form.text (deepest - 1) = inner := Except.ok.inj henter
    obtain ⟨hmembers, hanswer⟩ := members_field_iff.mp hmembers
    obtain ⟨hmembers, htext⟩ := members_field_iff.mp hmembers
    obtain ⟨-, hfailed⟩ := members_field_iff.mp hmembers
    obtain ⟨x, hx, rfl⟩ := (takes_response_iff hjson).mp (h.response_eq ▸ hanswer)
    obtain rfl := takes_message_iff.mp (hmessage ▸ htext)
    obtain rfl := takes_success_iff.mp (hsuccess ▸ hfailed)
    obtain ⟨make, y, hmake, hy, rfl⟩ := finish_field_eq_ok_iff.mp hfinish
    obtain ⟨make', m, hmake', hm, rfl⟩ := finish_field_eq_ok_iff.mp hmake
    obtain ⟨make'', b, hmake'', hb, rfl⟩ := finish_field_eq_ok_iff.mp hmake'
    obtain rfl := Except.ok.inj hmake''
    obtain rfl := Option.some.inj hm
    obtain rfl := Option.some.inj hb
    obtain rfl : x = y := Option.some.inj (hx.or_eq.symm.trans hy)
    exact ⟨x, hx, rfl⟩
  · rintro ⟨x, hx, rfl⟩
    refine ⟨.text (deepest - 1), ⟨⟨⟨(), some false⟩, some message⟩, response.map fun _ => x⟩, rfl,
      members_field_iff.mpr ⟨members_field_iff.mpr ⟨members_field_iff.mpr
        ⟨members_of_iff.mpr hrest, ?_⟩, ?_⟩, ?_⟩, rfl, ?_⟩
    · exact hsuccess ▸ takes_success_iff.mpr rfl
    · exact hmessage ▸ takes_message_iff.mpr rfl
    · exact h.response_eq ▸ (takes_response_iff hjson).mpr ⟨x, hx, rfl⟩
    · exact finish_field_eq_ok_iff.mpr ⟨_, x, finish_field_eq_ok_iff.mpr
        ⟨_, message, finish_field_eq_ok_iff.mpr ⟨_, false, rfl, rfl, rfl⟩, rfl, rfl⟩, hx.or_eq, rfl⟩

/-- A response that is read as any value gives the reason that it has. -/
theorem ReadsAs.any {x : Option Json} (h : ReadsAs Reader.any response x) (reason : String) :
    (∃ v, x = some v ∧ GivesReason v reason) ↔
      ∃ d, response = some d ∧ GivesReason d.value reason := by
  cases response with
  | none =>
    obtain rfl : x = none := h
    simp
  | some d =>
    simp only [Option.some.injEq, exists_eq_left']
    rcases Reader.optional_eq_ok h with ⟨rfl, rfl⟩ | ⟨v, hread, rfl⟩
    · simp [GivesReason, Doc.value, Json.field?]
    · obtain rfl := Reader.value_of_any hread
      simp

/-- Any value that is not nested too deep can be read. -/
theorem fits_any_ofJson {v : Json} (h : Json.depth v ≤ deepest - 1) :
    Fits Reader.any (some (Doc.ofJson v)) := by
  have hany : Reader.any.read (.text (deepest - 1)) (Doc.ofJson v) =
      .ok (Doc.ofJson v).value := by
    simp only [Reader.any, Doc.readError?_ofJson v h, Json.demandNo, Except.map]
  cases v with
  | null => exact ⟨none, rfl⟩
  | _ => exact ⟨_, congrArg (Except.map some) hany⟩

/-- The envelope of an answer without success is read exactly if its response can be. -/
theorem wraps_iff (h : TellsFailure body message response) {e : Envelope Json} :
    Wraps body e ↔ ∃ x, ReadsAs Reader.any response x ∧ e = ⟨false, message, x⟩ := by
  obtain ⟨cs, ms, hbody, hdoc, hfails⟩ := h
  unfold Wraps
  rw [Text.ofBytesLossy_of_ofBytes? hbody, Reader.ofChars_of_doc hdoc]
  exact hfails.read_eq_ok_iff

/-- So is that of a successful one. -/
theorem holds_iff (h : TellsFailure body message response) {e : Envelope α} :
    Holds r body e ↔ ∃ x, ReadsAs r response x ∧ e = ⟨false, message, x⟩ := by
  obtain ⟨cs, ms, hbody, hdoc, hfails⟩ := h
  unfold Holds
  rw [Reader.ofBytes_of_ofBytes? hbody, Reader.ofChars_of_doc hdoc]
  exact hfails.read_eq_ok_iff

theorem errorMessage_of_visible {code : Nat} {said : String} (h : Says body said)
    (hvisible : Text.isBlankText said = false) : errorMessage code body = said := by
  refine (explains_iff.mp ⟨said, h, ?_⟩).symm
  rw [hvisible]
  rfl

/-- Where the status does not tell of success, the reason is what the body says. -/
theorem upstream_of_fits (code : Nat) (h : TellsFailure body message response)
    (hfits : Fits Reader.any response) :
    Upstream message response (errorMessage code body) := by
  obtain ⟨x, hx⟩ := hfits
  have hwraps := (wraps_iff h).mpr ⟨x, hx, rfl⟩
  by_cases hgiven : ∃ reason d, response = some d ∧ GivesReason d.value reason
  · obtain ⟨reason, d, hresponse, hgives⟩ := hgiven
    obtain ⟨v, hv, hgives'⟩ := (hx.any reason).mpr ⟨d, hresponse, hgives⟩
    rw [errorMessage_of_visible (.reason hwraps hv hgives') hgives.2]
    exact .given hresponse hgives
  · have hsilent : ∀ d, response = some d → ∀ reason, ¬GivesReason d.value reason :=
      fun d hd reason hgives => hgiven ⟨reason, d, hd, hgives⟩
    have hsays : Says body message := .message hwraps fun v hv reason hgives =>
      hgiven ⟨reason, (hx.any reason).mp ⟨v, hv, hgives⟩⟩
    obtain ⟨_, _, _, _, hfails⟩ := h
    rw [errorMessage_of_visible hsays hfails.visible]
    exact .general hsilent

/-- A body whose response cannot be read is told as it stands. -/
theorem errorMessage_of_not_fits (code : Nat) (h : TellsFailure body message response)
    (hfits : ¬Fits Reader.any response) :
    ∃ cs, Text.ofBytes? body = some cs ∧ errorMessage code body = String.ofList cs := by
  have hsays : Says body (String.ofList (Text.ofBytesLossy body)) := .text fun e hwraps =>
    let ⟨x, hx, _⟩ := (wraps_iff h).mp hwraps
    hfits ⟨x, hx⟩
  obtain ⟨cs, ms, hbody, hdoc, -⟩ := h
  rw [Text.ofBytesLossy_of_ofBytes? hbody] at hsays
  refine ⟨cs, hbody, errorMessage_of_visible hsays ?_⟩
  -- there is an object in it, and so there is something to be seen
  cases hblank : Text.isBlankText (String.ofList cs) with
  | false => rfl
  | true =>
    have hall : ∀ c ∈ cs, Text.isBlank c = true := by
      simpa [Text.isBlankText] using hblank
    obtain ⟨reason, hmissing⟩ := Doc.ofChars_of_blank hall
    exact absurd (hdoc.symm.trans hmissing) (by simp)

/-- Where it does, the message is told, and no response. -/
theorem unwrap_of_fits (h : TellsFailure body message response) (hfits : Fits r response) :
    unwrap r body = .error message := by
  obtain ⟨x, hx⟩ := hfits
  have hholds := holds_iff h |>.mpr ⟨x, hx, rfl⟩
  obtain ⟨_, _, _, _, hfails⟩ := h
  unfold unwrap
  rw [hholds]
  exact congrArg Except.error (messageOr_of_visible hfails.visible)

theorem unwrap_of_not_fits (h : TellsFailure body message response) (hfits : ¬Fits r response) :
    unwrap r body = .error "invalid engine response: error decoding response body" := by
  unfold unwrap
  cases hread : (Envelope.reader r).ofBytes false body with
  | error e => rfl
  | ok e =>
    obtain ⟨x, hx, -⟩ := (holds_iff h).mp hread
    exact absurd ⟨x, hx⟩ hfits

end Reading

/-! ## Operations -/

/-- Whoever follows the terms tells what becomes of the reason. -/
theorem Terms.Follows.tells {α β : Type} {t : Terms α β} {code : Nat} {body : List Nat}
    {reply : Reply α} {logs : List LogEntry} {message : String} {response : Option Doc}
    (h : t.Follows code body reply logs) (hbody : TellsFailure body message response) :
    t.Tells code body message response reply := by
  have hrefused : Net.isSuccess code = false → Fits Reader.any response →
      ∃ said, Upstream message response said ∧ reply = .failed (t.failure said) :=
    fun hcode hfits => ⟨_, upstream_of_fits code hbody hfits, (h.refused hcode).1⟩
  have hanswered : Net.isSuccess code = true → Fits t.reader response →
      reply = .failed (t.failure message) :=
    fun hcode hfits => (h.useless _ hcode (unwrap_of_fits hbody hfits)).1
  refine
    { refused := hrefused
      refused_unread := ?_
      answered := hanswered
      answered_unread := ?_
      spared := ?_ }
  · intro hcode hfits
    obtain ⟨cs, hcs, hmessage⟩ := errorMessage_of_not_fits code hbody hfits
    exact ⟨cs, hcs, hmessage ▸ (h.refused hcode).1⟩
  · intro hcode hfits
    exact (h.useless _ hcode (unwrap_of_not_fits hbody hfits)).1
  · rintro (⟨hcode, hfits⟩ | ⟨hcode, hfits, hsilent⟩)
    · exact hrefused hcode hfits
    · exact ⟨message, .general hsilent, hanswered hcode hfits⟩

/-- What is told of a failure that the engine tells of, by both operations. -/
theorem failures_told {config : EngineConfig} {u : Network} {code : Nat} {body : List Nat}
    {message : String} {response : Option Doc} (hbrings : u.Brings code body)
    (hbody : TellsFailure body message response) :
    (∀ submission, CanSubmit config submission →
      (submitTerms code).Tells code body message response (submit config submission u).reply) ∧
    ∀ id, CanAsk config id → code ≠ 404 →
      (statusTerms id u.now code).Tells code body message response (status config id u).reply := by
  refine ⟨?_, ?_⟩
  · intro submission hsend
    exact (submit_follows hbrings hsend).tells hbody
  · intro id hsend hknown
    exact (status_follows hbrings hsend hknown).tells hbody

/-! ## Two answers -/

/-- The body of an answer that tells of failure and has a response. -/
def failureBody (message : String) (response : Json) : List Nat :=
  Text.bytes (Json.toText (.object
    [("success", .boolean false), ("message", .text message), ("response", response)])).toList

theorem tellsFailure_failureBody {message : String} {response : Json}
    (hvisible : Text.isBlankText message = false)
    (hnumbers : ∀ n ∈ Json.numbers response, n.IsLegible) :
    TellsFailure (failureBody message response) message (some (Doc.ofJson response)) := by
  refine ⟨_, Doc.ofMembers [("success", .boolean false), ("message", .text message),
    ("response", response)], Text.ofBytes?_bytes _, ?_, ?_⟩
  · rw [Json.toText, String.toList_ofList]
    refine Doc.ofChars_chars ?_
    intro n hn
    exact hnumbers n (by simpa [Json.numbers, Json.memberNumbers] using hn)
  · refine
      { json := ?_
        success_eq := rfl
        message_eq := rfl
        visible := hvisible
        response_eq := rfl }
    exact List.forall_mem_cons.mpr ⟨⟨⟨_, rfl⟩, rfl⟩, List.forall_mem_cons.mpr ⟨⟨⟨_, rfl⟩, rfl⟩,
      List.forall_mem_singleton.mpr ⟨⟨_, rfl⟩, Doc.skipFault?_ofJson response⟩⟩⟩

/-- An engine that turns a video down for a reason, with a status that says so. -/
theorem failures_told_refused :
    let config : EngineConfig := { baseUrl := "http://[::1]:4000", apiKey := some "k" }
    let video : RenderSubmission := ⟨⟨"#000000", [], none, .zero⟩, OutputTokens.resolve {}, none⟩
    let response : Json := .object [("error", .text "clip length must be positive")]
    let u : Network := { deliveries := [.answered 400 (failureBody "Bad Request" response)] }
    TellsFailure (failureBody "Bad Request" response) "Bad Request" (some (Doc.ofJson response)) ∧
      (submit config video u).reply =
        .failed (.submission (some 400) "clip length must be positive") ∧
      (status config ⟨"job-1"⟩ u).reply =
        .failed (.status (some 400) "clip length must be positive") := by
  intro config video response u
  have hbody : TellsFailure (failureBody "Bad Request" response) "Bad Request"
      (some (Doc.ofJson response)) :=
    tellsFailure_failureBody (by decide) (by simp [response, Json.numbers, Json.memberNumbers])
  have hgiven : Upstream "Bad Request" (some (Doc.ofJson response))
      "clip length must be positive" := .given rfl ⟨rfl, by decide⟩
  have hfits : Fits Reader.any (some (Doc.ofJson response)) := fits_any_ofJson (by decide)
  have hvideo : CanSubmit config video := canSubmit_of_isOk rfl (by decide +kernel)
  have hjob : CanAsk config ⟨"job-1"⟩ := canAsk_of_isOk rfl (by decide +kernel)
  obtain ⟨hsubmit, hask⟩ := failures_told (u := u) rfl hbody
  obtain ⟨said, hsaid, hreply⟩ := (hsubmit video hvideo).refused rfl hfits
  obtain rfl := hsaid.unique hgiven
  obtain ⟨said, hsaid, hreply'⟩ := (hask ⟨"job-1"⟩ hjob (by decide)).refused rfl hfits
  obtain rfl := hsaid.unique hgiven
  exact ⟨hbody, hreply, hreply'⟩

/-- The same reason with a status that tells of success: neither the reason nor the message is
told. -/
theorem failures_told_not_always :
    let config : EngineConfig := { baseUrl := "http://[::1]:4000", apiKey := some "k" }
    let video : RenderSubmission := ⟨⟨"#000000", [], none, .zero⟩, OutputTokens.resolve {}, none⟩
    let response : Json := .object [("error", .text "clip length must be positive")]
    let u : Network := { deliveries := [.answered 200 (failureBody "Bad Request" response)] }
    TellsFailure (failureBody "Bad Request" response) "Bad Request" (some (Doc.ofJson response)) ∧
      Upstream "Bad Request" (some (Doc.ofJson response)) "clip length must be positive" ∧
      (submit config video u).reply = .failed (.submission (some 200)
        "invalid engine response: error decoding response body") := by
  intro config video response u
  refine ⟨tellsFailure_failureBody (by decide) (by simp [response, Json.numbers, Json.memberNumbers]),
    .given rfl ⟨rfl, by decide⟩, ?_⟩
  decide +kernel

end Storyboard.Remote

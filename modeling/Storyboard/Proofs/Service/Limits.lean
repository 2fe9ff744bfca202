import Storyboard.Proofs.Service.Preview

/-!
# Bodies and their sizes

How many bytes of a body are read is limited twice: by the settings of the service, and by the reader
of JSON, which stops at two mebibytes whatever the settings say. A body within both limits is
answered by what stands in it. A body beyond either of them is refused, and the engine does not get
to know of it, whether the request announced its size or not. So the limit of the settings is the
one that counts as long as no body lies between the two.
-/

namespace Storyboard.Service

/-! ## Reading -/

namespace Request

variable {α : Type} {r : Request} {limit : Nat}

/-- A request tells the size of its body if it tells any. -/
def TellsSize (r : Request) : Prop := ∀ n, r.announcedSize? = some n → n = r.body.length

theorem bodyLimit_le_mostBytes : r.bodyLimit limit ≤ mostBytes := Nat.min_le_left ..

theorem bodyLimit_le : r.bodyLimit limit ≤ limit :=
  Nat.le_trans (Nat.min_le_right ..) (Nat.min_le_left ..)

/-- Of a body within both limits nothing is cut off. -/
theorem le_bodyLimit (htells : r.TellsSize) (hlimit : r.body.length ≤ limit)
    (hmost : r.body.length ≤ mostBytes) : r.body.length ≤ r.bodyLimit limit := by
  refine Nat.le_min.mpr ⟨hmost, Nat.le_min.mpr ⟨hlimit, ?_⟩⟩
  cases hannounced : r.announcedSize? with
  | none => exact hlimit
  | some n => exact Nat.le_of_eq (htells n hannounced).symm

theorem read_of_fits (hjson : r.hasJson = true) (hfits : r.body.length ≤ r.bodyLimit limit)
    (reader : Json.Reader α) :
    r.read reader limit = (reader.ofBytes true r.body).mapError .unreadable := by
  unfold read
  rw [if_neg (by simp [hjson]), if_neg (Nat.not_lt.mpr hfits)]

theorem read_of_long (hjson : r.hasJson = true) (hlong : r.bodyLimit limit < r.body.length)
    (reader : Json.Reader α) : r.read reader limit = .error .tooLong := by
  unfold read
  rw [if_neg (by simp [hjson]), if_pos hlong]

end Request

/-! ## Routes at which a body is read -/

/-- The paths at which a body is read. -/
def bodyPaths : List String := previewPath :: videoPaths

/-- The routes at which a body is read. -/
def bodyRoutes : List Route := .preview :: videoRoutes

theorem mem_bodyPaths_iff {path : List Char} :
    path ∈ bodyPaths.map String.toList ↔ ∃ route ∈ bodyRoutes, Route.ofPath? path = some route := by
  rw [bodyPaths, bodyRoutes, List.map_cons, List.mem_cons, mem_videoPaths_iff]
  simp only [List.mem_cons, exists_eq_or_imp, Server.ofPath?_preview_iff]

/-- What a body asks for at a route, or why it cannot be read. At the place for previews it says
itself what kind of video it is about. -/
def Route.decode (body : List Nat) : Route → Except Json.ReadError VideoRequest
  | .title => ((Wire.reader : Json.Reader TitleRequest).ofBytes true body).map .singleTitle
  | .scenes => ((Wire.reader : Json.Reader ScenesRequest).ofBytes true body).map .scenes
  | .card => ((Wire.reader : Json.Reader CardRequest).ofBytes true body).map .card
  | _ => (Wire.reader : Json.Reader VideoRequest).ofBytes true body

theorem Route.decode_blanks (n : Nat) (cs : List Char) (route : Route) :
    route.decode (Text.bytes (List.replicate n ' ' ++ cs)) = route.decode (Text.bytes cs) := by
  cases route <;> simp only [decode, Json.Reader.ofBytes_bytes, Json.Reader.ofChars_blanks]

namespace Server

variable {σ : Type} {s : Server σ} {m : Moment} {r : Request} {session : Session σ} {w : World σ}
  {route : Route}

/-- The answer that a body comes to by what stands in it. -/
def decided (s : Server σ) (body : List Nat) (w : World σ) (route : Route) :
    Outcome Response × World σ :=
  match route.decode body with
  | .error e => refuse (.validation (BodyError.unreadable e).message) w
  | .ok video =>
    if route = .preview then previewVideo video w else s.submitVideo (videoJson video) video w

theorem withBody_of_fits {α : Type} [Wire α] (hjson : r.hasJson = true)
    (hfits : r.body.length ≤ r.bodyLimit s.config.maxBodySize)
    (next : α → World σ → Outcome Response × World σ) :
    s.withBody r next w =
      match (Wire.reader : Json.Reader α).ofBytes true r.body with
      | .ok a => next a w
      | .error e => refuse (.validation (BodyError.unreadable e).message) w := by
  unfold withBody
  rw [Request.read_of_fits hjson hfits]
  cases (Wire.reader : Json.Reader α).ofBytes true r.body <;> rfl

/-- A body that fits is answered by what stands in it. -/
theorem answer_of_fits (hroute : route ∈ bodyRoutes) (hjson : r.hasJson = true)
    (hfits : r.body.length ≤ r.bodyLimit s.config.maxBodySize) :
    s.answer m r w route = s.decided r.body w route := by
  simp only [bodyRoutes, videoRoutes, List.mem_cons, List.not_mem_nil, or_false] at hroute
  -- Each route has a reader of its own, so what is read is known only route by route.
  rcases hroute with rfl | rfl | rfl | rfl
  all_goals
    simp only [answer, withBody_of_fits hjson hfits, decided, Route.decode]
    rcases Json.Reader.ofBytes _ true r.body with e | a <;> rfl

theorem withBody_of_long {α : Type} [Wire α] (hjson : r.hasJson = true)
    (hlong : r.bodyLimit s.config.maxBodySize < r.body.length)
    (next : α → World σ → Outcome Response × World σ) :
    s.withBody r next w = refuse (.validation BodyError.tooLong.message) w := by
  unfold withBody
  rw [Request.read_of_long hjson hlong]

theorem answer_of_long (hroute : route ∈ bodyRoutes) (hjson : r.hasJson = true)
    (hlong : r.bodyLimit s.config.maxBodySize < r.body.length) :
    s.answer m r w route = refuse (.validation BodyError.tooLong.message) w := by
  simp only [bodyRoutes, videoRoutes, List.mem_cons, List.not_mem_nil, or_false] at hroute
  rcases hroute with rfl | rfl | rfl | rfl
  all_goals exact withBody_of_long hjson hlong _

/-! ## Layers -/

theorem bodyRoutes_kind :
    ∀ route ∈ bodyRoutes, route.isLimited = true ∧ route.isPosted = true := by decide

theorem route?_of_mem (hroute : route ∈ bodyRoutes) (hpath : Route.ofPath? r.path = some route) :
    s.route? r = some route := by
  refine (route?_eq_some_iff ?_).mpr hpath
  rintro rfl
  exact absurd hroute (by decide)

theorem reaches_of_posted (hposted : r.method = "POST") (hroute : route ∈ bodyRoutes)
    (hpath : Route.ofPath? r.path = some route) (hin : s.LetsIn m r session) :
    s.Reaches m r session route := by
  obtain ⟨hlimited, hisposted⟩ := bodyRoutes_kind route hroute
  exact hin.reaches hlimited (route?_of_mem hroute hpath) (by simp [hposted])
    (by simp [Route.accepts, hisposted, hposted])

/-- A body that is too long is not read, and the engine does not get to know of it. -/
theorem handle_of_long (hposted : r.method = "POST") (hroute : route ∈ bodyRoutes)
    (hpath : Route.ofPath? r.path = some route) (hjson : r.hasJson = true)
    (hlong : r.bodyLimit s.config.maxBodySize < r.body.length) :
    (400 ≤ (s.handle m r session).1.status ∧ (s.handle m r session).1.status < 500 ∧
      (s.handle m r session).2.world.engine = session.world.engine) ∧
    (s.LetsIn m r session → (s.handle m r session).1.status = 400 ∧
      (s.handle m r session).1.content = .json (Response.errorJson
        ("Validation error: " ++ BodyError.tooLong.message) "validation_error")) := by
  have hrefused (hreaches : s.Reaches m r session route) :
      ((s.handle m r session).1.status = 400 ∧
        (s.handle m r session).1.content = .json (Response.errorJson
          ("Validation error: " ++ BodyError.tooLong.message) "validation_error")) ∧
      (s.handle m r session).2.world.engine = session.world.engine := by
    have hanswer := @answer_of_long _ s m r (entered m r session route) route hroute hjson hlong
    exact ⟨handle_of_done hreaches (by simp [hposted]) rfl (congrArg Prod.fst hanswer),
      (handle_of_reaches hreaches).2.2.trans (congrArg (fun x => x.2.engine) hanswer)⟩
  constructor
  · -- An announced size above the settings is refused before the body is looked at, and so is a
    -- request that is one too many; neither reaches the route.
    by_cases hreaches : s.Reaches m r session route
    · obtain ⟨⟨hstatus, -⟩, hengine⟩ := hrefused hreaches
      exact ⟨by omega, by omega, hengine⟩
    · have hnone : ∀ other, ¬s.Reaches m r session other := by
        intro other hother
        obtain rfl : other = route :=
          Option.some.inj (hother.route_eq.symm.trans (route?_of_mem hroute hpath))
        exact hreaches hother
      obtain ⟨hengine, hstatus⟩ := handle_of_not_reaches hnone
      have hfailed := hstatus (by simp [hposted])
      simp only [List.mem_cons, List.not_mem_nil, or_false] at hfailed
      exact ⟨by omega, by omega, hengine⟩
  · intro hin
    exact (hrefused (reaches_of_posted hposted hroute hpath hin)).1

/-- A request that is one too many is turned away, whatever its body. -/
theorem handle_of_turnedAway (hposted : r.method = "POST") (hroute : route ∈ bodyRoutes)
    (hpath : Route.ofPath? r.path = some route)
    (hshort : r.announcedSize?.getD 0 ≤ s.config.maxBodySize)
    (hadmitted : ¬∀ a, r.client? = some a → (session.limiter.check m.elapsed a).1 = true) :
    (s.handle m r session).1.status = 429 ∧
      (s.handle m r session).2.world.engine = session.world.engine := by
  rw [← admits_eq_none_iff (bodyRoutes_kind route hroute).1] at hadmitted
  obtain ⟨a, ha⟩ := Option.ne_none_iff_exists'.mp hadmitted
  obtain ⟨hresponse, hengine⟩ := handle_of_short (by simp [hposted]) hshort
  have hdispatch : (s.dispatch m r (arrived session)).1.response.status = 429 ∧
      (s.dispatch m r (arrived session)).2.world.engine = session.world.engine := by
    simp only [dispatch, route?_of_mem hroute hpath, arrived, ha]
    exact ⟨rfl, rfl⟩
  rw [hresponse, hengine, shaped_status, Response.withHeaders_status]
  refine ⟨?_, hdispatch.2⟩
  split
  · rw [Response.redacted_status, hdispatch.1]
  · exact hdispatch.1

/-- A request is answered by what stands in its body, unless it is one too many. -/
structure GoesByContent (s : Server σ) (m : Moment) (r : Request) (session : Session σ)
    (route : Route) : Prop where
  /-- One too many is turned away. -/
  turned : (¬∀ a, r.client? = some a → (session.limiter.check m.elapsed a).1 = true) →
    (s.handle m r session).1.status = 429 ∧
      (s.handle m r session).2.world.engine = session.world.engine
  /-- Any other is answered as its content decides. -/
  answered : (∀ a, r.client? = some a → (session.limiter.check m.elapsed a).1 = true) →
    (s.handle m r session).1.status =
        (s.decided r.body (entered m r session route) route).1.response.status ∧
      (s.handle m r session).1.content =
        (if s.config.isProduction then
          (s.decided r.body (entered m r session route) route).1.response.redacted
        else (s.decided r.body (entered m r session route) route).1.response).content ∧
      (s.handle m r session).2.world.engine =
        (s.decided r.body (entered m r session route) route).2.engine

/-- Of a body within the limit of the settings, no byte counts but for what it says, as long as it is
not above two mebibytes. Of a body beyond the limit of the settings nothing counts. -/
theorem handle_limits (s : Server σ) (m : Moment) (session : Session σ)
    (hposted : r.method = "POST") (hpath : r.path ∈ bodyPaths.map String.toList)
    (hjson : r.hasJson = true) :
    ∃ route, Route.ofPath? r.path = some route ∧
      (r.body.length ≤ s.config.maxBodySize → r.body.length ≤ Request.mostBytes →
        r.TellsSize → s.GoesByContent m r session route) ∧
      (s.config.maxBodySize < r.body.length →
        400 ≤ (s.handle m r session).1.status ∧ (s.handle m r session).1.status < 500 ∧
          (s.handle m r session).2.world.engine = session.world.engine) := by
  obtain ⟨route, hroute, hat⟩ := mem_bodyPaths_iff.mp hpath
  refine ⟨route, hat, ?_, ?_⟩
  · intro hlimit hmost htells
    have hshort : r.announcedSize?.getD 0 ≤ s.config.maxBodySize := by
      cases hannounced : r.announcedSize? with
      | none => exact Nat.zero_le _
      | some n => exact htells n hannounced ▸ hlimit
    refine ⟨handle_of_turnedAway hposted hroute hat hshort, fun hadmitted => ?_⟩
    have hreaches := reaches_of_posted hposted hroute hat ⟨hshort, hadmitted⟩
    obtain ⟨hstatus, hcontent, hengine⟩ := handle_of_reaches hreaches
    rw [answer_of_fits hroute hjson (Request.le_bodyLimit htells hlimit hmost)]
      at hstatus hcontent hengine
    exact ⟨hstatus, hcontent (by simp [hposted]), hengine⟩
  · intro hlong
    exact (handle_of_long hposted hroute hat hjson
      (Nat.lt_of_le_of_lt Request.bodyLimit_le hlong)).1

/-- A title card in fourteen bytes, announced as such, where the settings allow for as many. -/
theorem handle_limits_exact :
    let s := onTrial { maxBodySize := 14 } none true true
    let r : Request := {
      method := "POST", target := "/api/render/title"
      headers := [("content-type", "application/json"), ("content-length", "14")]
      body := Text.bytes (Json.toText (.object [("title", .text "Hi")])).toList }
    r.body.length = 14 ∧ s.GoesByContent ⟨⟨0, 0⟩, 0, ""⟩ r (s.start {}) .title := by
  intro s r
  have hsize : r.body.length = 14 := by decide +kernel
  have htells : r.TellsSize := by
    intro n hn
    rw [show r.announcedSize? = some 14 by decide +kernel] at hn
    exact (Option.some.inj hn).symm.trans hsize.symm
  obtain ⟨route, hroute, hcontent, -⟩ :=
    handle_limits s ⟨⟨0, 0⟩, 0, ""⟩ (s.start {}) (r := r) rfl (by decide) (by decide +kernel)
  obtain rfl : Route.title = route :=
    Option.some.inj ((show Route.ofPath? r.path = some .title by decide).symm.trans hroute)
  exact ⟨hsize, hcontent (Nat.le_of_eq hsize) (by rw [hsize]; decide) htells⟩

/-! ## Between the two limits -/

/-- A request for a title card that stands in its body behind blanks. -/
def behindBlanks (n : Nat) : Request where
  method := "POST"
  target := "/api/render/title"
  headers := [("content-type", "application/json")]
  body := Text.bytes (List.replicate n ' ' ++ Json.chars (.object [("title", .text "Hi")]))

theorem size_behindBlanks (n : Nat) : (behindBlanks n).body.length = n + 14 := by
  have hblanks : (Text.bytes (List.replicate n ' ')).length = n := by
    rw [Text.bytes_of_lt fun c hc => by rw [List.eq_of_mem_replicate hc]; decide, List.length_map,
      List.length_replicate]
  rw [behindBlanks, Text.bytes_append, List.length_append, hblanks]
  exact congrArg (n + ·) (by decide +kernel)

theorem path_behindBlanks (n : Nat) : (behindBlanks n).path = "/api/render/title".toList := by
  show "/api/render/title".toList.takeWhile (fun c => c ≠ '?' && c ≠ '#') = _
  decide

theorem decided_behindBlanks (n : Nat) (w : World σ) :
    s.decided (behindBlanks n).body w .title = s.decided (behindBlanks 0).body w .title := by
  unfold decided
  rw [behindBlanks, Route.decode_blanks, behindBlanks, Route.decode_blanks]

theorem tellsSize_behindBlanks (n : Nat) : (behindBlanks n).TellsSize :=
  fun k hk => absurd (show none = some k from hk) (by simp)

theorem letsIn_behindBlanks (n : Nat) : s.LetsIn m (behindBlanks n) session :=
  ⟨Nat.zero_le _, fun a ha => absurd (show none = some a from ha) (by simp)⟩

/-- Behind more blanks than are ever read, the card is not found. -/
theorem handle_behindBlanks {n : Nat} (h : Request.mostBytes ≤ n) :
    (s.handle m (behindBlanks n) session).1.status = 400 ∧
      (s.handle m (behindBlanks n) session).2.world.engine = session.world.engine := by
  have hlong : (behindBlanks n).bodyLimit s.config.maxBodySize <
      (behindBlanks n).body.length := by
    have hmost := @Request.bodyLimit_le_mostBytes (behindBlanks n) s.config.maxBodySize
    rw [size_behindBlanks]
    omega
  obtain ⟨⟨-, -, hengine⟩, hrefused⟩ := @handle_of_long _ s m (behindBlanks n) session .title rfl
    (by decide) (ofPath?_title_iff.mpr (path_behindBlanks n))
    (show Net.isJsonType "application/json" = true by decide +kernel) hlong
  exact ⟨(hrefused (letsIn_behindBlanks n)).1, hengine⟩

/-- Two mebibytes of blanks and a title card, where the settings allow for three: what stands in the
body asks for a video that the engine would accept, but the request is refused. -/
theorem handle_limits_not_above :
    let s := onTrial { maxBodySize := 3 * 1024 * 1024 } none true true
    let m : Moment := ⟨⟨0, 0⟩, 0, ""⟩
    (behindBlanks Request.mostBytes).body.length ≤ s.config.maxBodySize ∧
      (behindBlanks Request.mostBytes).TellsSize ∧
      (s.handle m (behindBlanks Request.mostBytes) (s.start {})).1.status = 400 ∧
      (s.handle m (behindBlanks Request.mostBytes) (s.start {})).2.world.engine = {} ∧
      (s.decided (behindBlanks Request.mostBytes).body
        (entered m (behindBlanks Request.mostBytes) (s.start {}) .title) .title).1.response.status =
          200 ∧
      ¬s.GoesByContent m (behindBlanks Request.mostBytes) (s.start {}) .title := by
  intro s m
  obtain ⟨hstatus, hengine⟩ :=
    @handle_behindBlanks _ s m (s.start {}) _ (Nat.le_refl Request.mostBytes)
  have hdecided : (s.decided (behindBlanks Request.mostBytes).body
      (entered m (behindBlanks Request.mostBytes) (s.start {}) .title) .title).1.response.status =
        200 := by
    rw [decided_behindBlanks]
    decide +kernel
  have hin : s.LetsIn m (behindBlanks Request.mostBytes) (s.start {}) := letsIn_behindBlanks _
  refine ⟨?_, tellsSize_behindBlanks _, hstatus, hengine, hdecided, fun hcontent => ?_⟩
  · rw [size_behindBlanks]
    decide
  · have hsame := (hcontent.answered hin.admitted).1
    rw [hdecided, hstatus] at hsame
    exact absurd hsame (by decide)

end Server

end Storyboard.Service

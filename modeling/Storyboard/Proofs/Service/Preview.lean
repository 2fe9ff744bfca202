import Storyboard.Proofs.Service.Trial
import Storyboard.Proofs.Wire.Requests

/-!
# Previews

A video may be shown before it is made: with its type at the place for previews, or without at the
place for its form. The two bodies are read by different readers, but both give the same request
back if its numbers are legible, and from there on the same plan is made of it. So both are refused,
in the same words, or the engine is handed the plan that was shown.
-/

namespace Storyboard.Service

/-- The path at which a video is asked for. -/
def videoPath : VideoRequest → String
  | .singleTitle _ => "/api/render/title"
  | .scenes _ => "/api/render/scenes"
  | .card _ => "/api/render/intro-outro"

/-- The path at which any video is shown. -/
def previewPath : String := "/api/render/preview"

/-- A request brings a value to a path, and no limit of the service keeps it from there. -/
structure Server.Delivers {σ : Type} (s : Server σ) (m : Moment) (r : Request) (session : Session σ)
    (path : String) (v : Json) : Prop where
  /-- The request posts something. -/
  posted : r.method = "POST"
  /-- It goes to the path. -/
  path_eq : r.path = path.toList
  /-- It says that it brings JSON. -/
  json : r.hasJson = true
  /-- Its body is the text of the value. -/
  body_eq : r.body = Text.bytes v.toText.toList
  /-- It does not announce too long a body. -/
  short : r.announcedSize?.getD 0 ≤ s.config.maxBodySize
  /-- Its body is not too long. -/
  fits : r.body.length ≤ r.bodyLimit s.config.maxBodySize
  /-- The limiter has a permit for where it comes from, if that is known. -/
  admitted : ∀ a, r.client? = some a → (session.limiter.check m.elapsed a).1 = true

/-- The plain request that brings a value to a path. -/
def Request.bringing (path : String) (v : Json) : Request where
  method := "POST"
  target := path
  headers := [("content-type", "application/json")]
  body := Text.bytes v.toText.toList

/-- What comes of a video that is shown and made: two responses, and the engine before and after. -/
inductive Agreement (callback : Option String) (video : VideoRequest) (shown made : Response)
    (before after : Scripted) : Prop
  /-- Both are refused, in the same words, and the engine does not get to know of it. -/
  | refused {message : String}
      (shown_status : shown.status = 400) (made_status : made.status = 400)
      (shown_content : shown.content = .json (Response.errorJson message "validation_error"))
      (made_content : made.content = .json (Response.errorJson message "validation_error"))
      (after_eq : after = before)
  /-- The plan that is shown is handed to the engine, and the caller is told the same of it. -/
  | planned {plan : RenderPlan} {answer : Json}
      (shown_status : shown.status = 200) (made_status : made.status = 200)
      (shown_content : shown.content = .json (Wire.planJson plan))
      (made_content : made.content = .json answer)
      (answer_eq : answer = Grant.report ⟨video, plan⟩ (before.accepted + 1))
      (figures : ∀ name ∈ ["sceneCount", "totalDuration"], ∀ figure,
        answer.field? name = some figure → (Wire.planJson plan).field? name = some figure)
      (after_eq : after = before.accepting ⟨plan.timeline, plan.output, callback⟩)

/-- What the caller is told of a plan stands in the plan that is shown. -/
theorem Grant.report_figures (g : Grant) (number : Nat) :
    ∀ name ∈ ["sceneCount", "totalDuration"], ∀ figure,
      (g.report number).field? name = some figure →
        (Wire.planJson g.plan).field? name = some figure := by
  obtain ⟨video, plan⟩ := g
  have hcount : (Wire.planJson plan).field? "sceneCount" = some (.nat plan.sceneCount) := rfl
  have htotal :
      (Wire.planJson plan).field? "totalDuration" = some (.double plan.totalDuration.seconds) := rfl
  intro name hname figure hfigure
  simp only [List.mem_cons, List.not_mem_nil, or_false] at hname
  cases video with
  | singleTitle v =>
    rcases hname with rfl | rfl
    · exact absurd hfigure (by simp [Grant.report, Json.field?])
    · exact absurd hfigure (by simp [Grant.report, Json.field?])
  | scenes v =>
    rcases hname with rfl | rfl
    · exact hcount.trans hfigure
    · exact htotal.trans hfigure
  | card v =>
    rcases hname with rfl | rfl
    · exact absurd hfigure (by simp [Grant.report, Json.field?])
    · exact absurd hfigure (by simp [Grant.report, Json.field?])

namespace Server

/-! ## Bringing a value -/

section Delivery

variable {σ : Type} {s : Server σ} {m : Moment} {r : Request} {session : Session σ} {path : String}
  {v : Json}

/-- A plain request brings what it says, if that is short enough. -/
theorem delivers_bringing (hpath : (Request.bringing path v).path = path.toList)
    (hsize : 4 * (Json.chars v).length ≤ min Request.mostBytes s.config.maxBodySize) :
    s.Delivers m (Request.bringing path v) session path v where
  posted := rfl
  path_eq := hpath
  json := show Net.isJsonType "application/json" = true by decide +kernel
  body_eq := rfl
  short := Nat.zero_le _
  fits := by
    rw [Request.bodyLimit, show (Request.bringing path v).announcedSize? = none from rfl,
      Option.getD_none, Nat.min_self]
    refine Nat.le_trans (Text.length_bytes_le _) ?_
    rwa [Json.toText, String.toList_ofList]
  admitted := by
    intro a ha
    exact absurd ha (by simp [show (Request.bringing path v).client? = none from rfl])

/-- What is brought is read. -/
theorem Delivers.read_eq {α : Type} {reader : Json.Reader α} {a : α}
    (h : s.Delivers m r session path v) (hnumbers : ∀ n ∈ Json.numbers v, n.IsLegible)
    (hread : reader.Gets (.text Json.deepest) v a) :
    r.read reader s.config.maxBodySize = .ok a := by
  have hlong : ¬r.bodyLimit s.config.maxBodySize < r.body.length := Nat.not_lt.mpr h.fits
  unfold Request.read
  rw [if_neg (by simp [h.json]), if_neg hlong, h.body_eq, Json.Reader.ofBytes_bytes,
    hread.ofChars_toText hnumbers true]
  rfl

theorem Delivers.ne_head (h : s.Delivers m r session path v) : r.method ≠ "HEAD" := by
  simp [h.posted]

/-- What is brought to a route at which something is posted gets there. -/
theorem Delivers.reaches {route : Route} (h : s.Delivers m r session path v)
    (hpath : Route.ofPath? path.toList = some route) (hposted : route.isPosted = true)
    (hlimited : route.isLimited = true) : s.Reaches m r session route := by
  refine LetsIn.reaches ⟨h.short, h.admitted⟩ hlimited ?_ (by simp [h.posted])
    (by simp [Route.accepts, hposted, h.posted])
  refine (route?_eq_some_iff ?_).mpr (h.path_eq ▸ hpath)
  rintro rfl
  exact absurd hposted (by decide)

end Delivery

/-! ## Showing -/

theorem ofPath?_preview_iff {path : List Char} :
    Route.ofPath? path = some .preview ↔ path = previewPath.toList :=
  Route.ofPath?_eq_fixed_iff (by decide : ("preview", Route.preview) ∈ Route.fixed)

section Showing

variable {σ : Type} {s : Server σ} {m : Moment} {r : Request} {session : Session σ} {w : World σ}
  {video : VideoRequest}

theorem previewVideo_engine : (previewVideo video w).2.engine = w.engine := by
  unfold previewVideo
  split <;> rfl

theorem answer_preview_engine : (s.answer m r w .preview).2.engine = w.engine := by
  simp only [answer, withBody]
  split
  · exact previewVideo_engine
  · rfl

/-- Nothing that is sent to the place for previews changes the engine. -/
theorem handle_preview_engine (h : r.path = previewPath.toList) :
    (s.handle m r session).2.world.engine = session.world.engine := by
  by_cases hreaches : ∃ route, s.Reaches m r session route
  · obtain ⟨route, hreaches⟩ := hreaches
    have hpreview : s.route? r = some .preview :=
      (route?_eq_some_iff (by decide)).mpr (ofPath?_preview_iff.mpr h)
    obtain rfl : Route.preview = route :=
      Option.some.inj (hpreview.symm.trans hreaches.route_eq)
    rw [(handle_of_reaches hreaches).2.2, answer_preview_engine]
    rfl
  · exact (handle_of_not_reaches (not_exists.mp hreaches)).1

end Showing

/-! ## Shown and made -/

section Making

variable {s : Server Scripted} {mp ms : Moment} {p r : Request} {before session : Session Scripted}
  {video : VideoRequest}

theorem ofPath?_videoPath (video : VideoRequest) :
    Route.ofPath? (videoPath video).toList = some (videoRoute video) := by
  cases video with
  | singleTitle v => exact ofPath?_title_iff.mpr rfl
  | scenes v => exact ofPath?_scenes_iff.mpr rfl
  | card v => exact ofPath?_card_iff.mpr rfl

/-- A video that is brought to the place for its form is asked for. -/
theorem Delivers.asks (h : s.Delivers ms r session (videoPath video) (Wire.untagged video))
    (hnumbers : ∀ n ∈ Json.numbers (Wire.toJson video), n.IsLegible) :
    r.Asks s.config.maxBodySize video := by
  rw [← Wire.numbers_untagged] at hnumbers
  have hroom : ∀ levels ≤ 3, (Json.Form.text Json.deepest).HasRoom levels := fun levels hlevels =>
    Nat.le_trans hlevels (by decide)
  cases video with
  | singleTitle v =>
    exact .title h.path_eq (h.read_eq hnumbers (Wire.gets_title v (hroom 1 (by decide))))
  | scenes v =>
    exact .scenes h.path_eq (h.read_eq hnumbers (Wire.gets_scenes v (hroom 3 (by decide))))
  | card v =>
    exact .card h.path_eq (h.read_eq hnumbers (Wire.gets_card v (hroom 1 (by decide))))

/-- A video that is brought to the place for previews is read as what it is. -/
theorem Delivers.read_video (h : s.Delivers mp p before previewPath (Wire.toJson video))
    (hnumbers : ∀ n ∈ Json.numbers (Wire.toJson video), n.IsLegible) :
    p.read Wire.reader s.config.maxBodySize = .ok video :=
  h.read_eq hnumbers (Wire.gets_video video (show 3 ≤ Json.deepest by decide))

theorem submitVideo_of_rejected {e : Rejection} (h : video.plan = .error e) {w : World Scripted}
    (answer : RenderPlan → SubmittedJob → Json) :
    (s.submitVideo answer video w).1 = .done (.ofError (.ofRejection e)) ∧
      (s.submitVideo answer video w).2.engine = w.engine := by
  unfold submitVideo
  rw [h]
  exact ⟨rfl, rfl⟩

/-- A video that is brought to both places is refused at both, or the plan that is shown is the one
that the engine is handed. -/
theorem agreement_of_delivers (hs : s.engine = Scripted.engine)
    (hnumbers : ∀ n ∈ Json.numbers (Wire.toJson video), n.IsLegible)
    (hp : s.Delivers mp p before previewPath (Wire.toJson video))
    (hr : s.Delivers ms r session (videoPath video) (Wire.untagged video))
    (hwilling : session.world.engine.IsWilling) :
    Agreement s.callback video (s.handle mp p before).1 (s.handle ms r session).1
      session.world.engine (s.handle ms r session).2.world.engine := by
  have hshow : s.Reaches mp p before .preview :=
    hp.reaches (ofPath?_preview_iff.mpr rfl) rfl rfl
  have hshown : (s.answer mp p (entered mp p before .preview) .preview).1 =
      (previewVideo video (entered mp p before .preview)).1 := by
    simp only [answer, withBody, hp.read_video hnumbers]
  have hasks := hr.asks hnumbers
  cases hplan : video.plan with
  | error e =>
    have hmake : s.Reaches ms r session (videoRoute video) :=
      hr.reaches (ofPath?_videoPath video) (by cases video <;> rfl) (by cases video <;> rfl)
    simp only [previewVideo, hplan] at hshown
    obtain ⟨hrefused, hleft⟩ := @submitVideo_of_rejected s video e hplan
      (entered ms r session (videoRoute video)) (videoJson video)
    rw [← answer_of_asks hasks] at hrefused hleft
    obtain ⟨hstatus, hcontent⟩ := handle_of_done hshow hp.ne_head rfl hshown
    obtain ⟨hstatus', hcontent'⟩ := handle_of_done hmake hr.ne_head rfl hrefused
    exact .refused hstatus hstatus' hcontent hcontent'
      ((handle_of_reaches hmake).2.2.trans hleft)
  | ok plan =>
    simp only [previewVideo, hplan] at hshown
    obtain ⟨hstatus, hcontent⟩ := handle_of_done hshow hp.ne_head rfl hshown
    have hgrants : s.Grants ms r session ⟨video, plan⟩ :=
      ⟨hr.posted, hr.short, hasks, hr.admitted, hplan, hwilling⟩
    obtain ⟨hstatus', hcontent', hengine⟩ := handle_of_grants hs hgrants
    exact .planned hstatus hstatus' hcontent hcontent' rfl
      (Grant.report_figures ⟨video, plan⟩ _) hengine

end Making

end Server

end Storyboard.Service

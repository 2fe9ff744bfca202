import Storyboard.Proofs.Service.Tracking
import Storyboard.Proofs.Url.Below

/-!
# Where questions for jobs go

What a caller writes into the path of a question for a job ends up in the address at which the
engine is asked. It cannot lead the question anywhere else: the engine is asked below the address
of the settings, for the name that the segment stands for, or it is not asked at all
(`Server.overRemote_asks`).
-/

namespace Storyboard

/-- The next request arrives. -/
def Network.Arrives (u : Network) : Prop := ∃ d ≠ Delivery.unreachable, u.deliveries.head? = some d

theorem withoutSlashes_replicate {cs : List Char} (h : cs.getLast? ≠ some '/') (n : Nat) :
    withoutSlashes (String.ofList (cs ++ List.replicate n '/')) = String.ofList cs := by
  have hslashes : ∀ c ∈ List.replicate n '/', decide (c = '/') = true := by
    simp [List.mem_replicate]
  have hkept : cs.reverse.dropWhile (· = '/') = cs.reverse := by
    cases hback : cs.reverse with
    | nil => rfl
    | cons c front =>
      rw [← List.head?_reverse, hback] at h
      have hne : c ≠ '/' := by simpa using h
      simp [hne]
  rw [withoutSlashes, String.toList_ofList, List.reverse_append, List.reverse_replicate,
    List.dropWhile_append_of_pos hslashes, hkept, List.reverse_reverse]

/-! ## Names in addresses -/

namespace Service

/-- What may be the name of a job stands for itself in an address. -/
theorem IsName.isLiteral {name : String} (h : IsName name) : Url.IsLiteral name.toList := by
  have hspecial : ∀ d ∈ ['/', '\\', '.', '%'] ++ Url.pathSet,
      ¬(d.isAlphanum = true ∨ d = '-' ∨ d = '_') := by
    simp [Url.pathSet, Url.fragmentSet]
  have hne {c : Char} (hc : c ∈ name.toList) {d : Char}
      (hd : d ∈ ['/', '\\', '.', '%'] ++ Url.pathSet) : c ≠ d := by
    rintro rfl
    exact hspecial c hd (h.plain c hc)
  obtain ⟨hdot, hdouble⟩ := Url.not_leads fun c hc =>
    ⟨hne hc (d := '.') (by simp), hne hc (d := '%') (by simp)⟩
  refine ⟨fun c hc => ?_, hdot, hdouble⟩
  obtain ⟨hlow, hhigh, -⟩ := h.toNat_bounds c hc
  exact ⟨hlow, hhigh, fun hset => hne hc (List.mem_append_right _ hset) rfl, hne hc (by simp),
    hne hc (by simp)⟩

end Service

namespace Remote

variable {config : EngineConfig} {site : Url.Site} {path : List Char} {slashes : Nat} {key : String}
  {id : JobId} {u : Network} {out : Outbound}

/-- The question for a job at a site, below a path. -/
def question (site : Url.Site) (above : List Char) (key name : String) : Outbound where
  method := "GET"
  url := {
    scheme := site.origin.scheme
    host := site.origin.host
    port := site.origin.port
    path := String.ofList (above ++ "/render/".toList ++ name.toList) }
  apiKey := key
  body := none

theorem exchange_of_arrives (h : u.Arrives) (out : Outbound) :
    (exchange out u).2.sent = u.sent ++ [out] := by
  obtain ⟨d, hd, hhead⟩ := h
  unfold exchange
  rw [hhead]
  cases d with
  | unreachable => exact absurd rfl hd
  | dropped => rfl
  | answered status body => rfl

theorem status_state (hkey : config.apiKey = some key)
    (hout : request config key "GET" ("render/" ++ id.text) none = .ok out) :
    (status config id u).state = (exchange out u).2 := by
  unfold status
  simp only [hkey, hout]
  rcases exchange out u with ⟨_ | ⟨code, body⟩, after⟩ <;> rfl

/-- The address at which a job is asked for. -/
theorem request_of_isName (hpath : Url.IsPath path) (hends : path.getLast? ≠ some '/')
    (hbase : config.baseUrl = String.ofList (site.chars ++ path ++ List.replicate slashes '/'))
    (hheader : Net.isHeaderValue key = true) {name : String} (hname : Service.IsName name) :
    request config key "GET" ("render/" ++ name) none =
      .ok (question site (Url.above path) key name) := by
  have hrender : Url.IsLiteral "render".toList :=
    Service.IsName.isLiteral (by decide : Service.IsName "render")
  have hbelow := (hpath.concat hrender).concat hname.isLiteral
  have haddress : withoutSlashes config.baseUrl ++ "/" ++ ("render/" ++ name) =
      String.ofList (site.chars ++ (path ++ '/' :: "render".toList ++ '/' :: name.toList)) := by
    rw [hbase, withoutSlashes_replicate (site.getLast?_append hends)]
    exact String.toList_injective (by simp)
  have hurl := site.parse_append hbelow
  rw [Url.webPath_concat (hpath.concat hrender).rooted hname.isLiteral,
    Url.above_concat hrender] at hurl
  obtain ⟨host, port, -, horigin⟩ := site.exists_origin
  unfold request
  rw [haddress, hurl]
  simpa [hheader, Url.isWeb, horigin, question] using Or.resolve_left site.small_eq

end Remote

/-! ## Questions -/

namespace Service.Server

variable {σ : Type} {s : Server σ} {m : Moment} {r : Request} {session : Session σ}
  {segment : List Char}

/-- A question for something that is no job does not get to the engine. -/
theorem handle_of_no_name (hgets : r.Gets segment)
    (hnone : ∀ name, StandsFor segment name → ¬IsName name) :
    (s.handle m r session).2.world.engine = session.world.engine := by
  by_cases hreaches : ∃ route, s.Reaches m r session route
  · obtain ⟨route, hreaches⟩ := hreaches
    refine (handle_of_reaches hreaches).2.2.trans ?_
    have hroute : route ∉ videoRoutes := by
      intro hmem
      exact absurd (hgets.method_eq.symm.trans (posted_of_reaches hreaches hmem)) (by decide)
    rcases answer_elsewhere (s := s) (m := m) (r := r) (w := entered m r session route) hroute with
      ⟨hengine, -⟩ | ⟨other, id, rfl, hid, -⟩
    · exact hengine
    · have hat := Route.ofPath?_eq_job_iff.mp ((route?_eq_some_iff (by simp)).mp hreaches.route_eq)
      obtain ⟨hsame, hne, hslash, hfixed⟩ := hat
      obtain rfl : other = segment := List.append_cancel_left (hsame.symm.trans hgets.path_eq)
      obtain ⟨name, htext, hid⟩ := Option.bind_eq_some_iff.mp hid
      rw [← String.toList_ofList (l := name)] at htext hid
      exact absurd (jobId?_eq_some_iff.mp hid).1 (hnone _ ⟨hne, hslash, hfixed, htext⟩)
  · exact (handle_of_not_reaches (not_exists.mp hreaches)).1

variable {config : Config} {engine : EngineConfig} {keepsCounts : Bool} {site : Url.Site}
  {path : List Char} {slashes : Nat} {key : String}

/-- A question is passed on to the engine as one request. -/
structure Asks (s : Server (Paced Network)) (m : Moment) (r : Request)
    (session : Session (Paced Network)) (out : Outbound) : Prop where
  /-- The request is the only thing that happens on the network. -/
  inner_eq : (s.handle m r session).2.world.engine.inner =
    (Remote.exchange out session.world.engine.inner).2
  /-- It is sent once, if there is somebody to send it to. -/
  sent_eq : session.world.engine.inner.Arrives →
    (s.handle m r session).2.world.engine.inner.sent =
      session.world.engine.inner.sent ++ [out]

theorem asks_of_isName (hpath : Url.IsPath path) (hends : path.getLast? ≠ some '/')
    (hbase : engine.baseUrl = String.ofList (site.chars ++ path ++ List.replicate slashes '/'))
    (hkey : engine.apiKey = some key) (hheader : Net.isHeaderValue key = true)
    {session : Session (Paced Network)} {name : String} (hgets : r.Gets segment)
    (hsegment : StandsFor segment name)
    (hin : (overRemote config engine keepsCounts).LetsIn m r session) (hname : IsName name) :
    (overRemote config engine keepsCounts).Asks m r session
      (Remote.question site (Url.above path) key name) := by
  have hout := Remote.request_of_isName hpath hends hbase hheader hname
  have hpassed : (overRemote config engine keepsCounts).PassesOn m r session ⟨name⟩ :=
    passesOn_of_isName hgets hsegment hin hname
  have hinner : ((overRemote config engine keepsCounts).handle m r session).2.world.engine.inner =
      (Remote.status engine ⟨name⟩ session.world.engine.acquire.inner).state :=
    congrArg Paced.inner hpassed.engine_eq
  rw [Paced.acquire_inner, Remote.status_state hkey hout] at hinner
  refine ⟨hinner, fun harrives => ?_⟩
  rw [hinner, Remote.exchange_of_arrives harrives]

end Service.Server

end Storyboard

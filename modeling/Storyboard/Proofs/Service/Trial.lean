import Mathlib.Tactic.ByContra
import Storyboard.Proofs.Service.Videos

/-!
# Trials of the service

A service on trial has the scripted engine behind it, and requests and controls of the engine come
in any order. However they come, the record of the engine holds the videos of the requests that were
granted, in order and each once, and the jobs are numbered on from one. A request is granted by what
is the case when it comes, so each of the layers may turn it back and leave the record as it was.

`Server.after_keeps` is the step, `Server.run_keeps` the run, and `Server.onTrial_keeps_granted`
gathers what the next request can rely on after any run.
-/

namespace Storyboard.Service

/-- What happens in a trial. -/
inductive Happening
  /-- A request comes in. -/
  | request (m : Moment) (r : Request)
  /-- The engine looks at its clock. -/
  | clock (now : Stamp)
  /-- The engine is told to reject. -/
  | reject (status : Nat) (message : String)
  /-- The engine is told to break down. -/
  | crash (message : String)
  /-- A job is given a status. -/
  | setStatus (id : JobId) (status : RenderStatus)
  /-- A job is given a script. -/
  | script (id : JobId) (statuses : List RenderStatus)

/-- The session after the engine was controlled. -/
def Session.control (session : Session Scripted) (f : Scripted → Scripted) : Session Scripted :=
  { session with world := { session.world with engine := f session.world.engine } }

namespace Server

/-- A service on trial. -/
def onTrial (config : Config) (callback : Option String) (isConfigured keepsCounts : Bool) :
    Server Scripted :=
  ⟨config, Scripted.engine, callback, isConfigured, keepsCounts⟩

variable (s : Server Scripted)

/-- The session after something has happened. -/
def after (session : Session Scripted) : Happening → Session Scripted
  | .request m r => (s.handle m r session).2
  | .clock now => session.control fun engine => { engine with now }
  | .reject status message => session.control (·.reject status message)
  | .crash message => session.control (·.crashOnSubmit message)
  | .setStatus id status => session.control (·.setStatus id status)
  | .script id statuses => session.control (·.script id statuses)

/-- The session after several things have happened. -/
def run (session : Session Scripted) (past : List Happening) : Session Scripted :=
  past.foldl s.after session

/-- Something that happens grants nothing. -/
def GrantsNothing (session : Session Scripted) (h : Happening) : Prop :=
  ∀ m r, h = .request m r → ∀ g, ¬s.Grants m r session g

/-- The videos that are granted when several things happen, in order. -/
inductive Granted : Session Scripted → List Happening → List Grant → Prop
  /-- If nothing happens, nothing is granted. -/
  | nil (session : Session Scripted) : Granted session [] []
  /-- A request is granted. -/
  | grant {session : Session Scripted} {m : Moment} {r : Request} {g : Grant}
      {rest : List Happening} {grants : List Grant} (granted : s.Grants m r session g)
      (others : Granted (s.after session (.request m r)) rest grants) :
      Granted session (.request m r :: rest) (g :: grants)
  /-- Something else happens. -/
  | skip {session : Session Scripted} {h : Happening} {rest : List Happening}
      {grants : List Grant} (not_granted : s.GrantsNothing session h)
      (others : Granted (s.after session h) rest grants) : Granted session (h :: rest) grants

/-- The record of the engine holds what was granted. -/
structure Keeps (grants : List Grant) (session : Session Scripted) : Prop where
  /-- The videos are those that were granted, in order. -/
  submissions_eq :
    session.world.engine.submissions = grants.map (Grant.submission s.callback)
  /-- The jobs are numbered on from one. -/
  ids_eq : session.world.engine.ids =
    (List.range grants.length).map fun k => Scripted.jobName (k + 1)
  /-- They have been counted. -/
  accepted_eq : session.world.engine.accepted = grants.length

/-- What a service that has granted a number of videos does next. -/
structure Continues (granted : Nat) (session : Session Scripted) : Prop where
  /-- Of the requests for videos exactly those succeed that are granted. -/
  succeeds_iff : ∀ m r, r.method = "POST" → r.path ∈ videoPaths.map String.toList →
    ((s.handle m r session).1.status = 200 ↔ ∃ g, s.Grants m r session g)
  /-- A request that is granted is told the number of its job and what was planned. -/
  reports : ∀ m r g, s.Grants m r session g → (s.handle m r session).1.status = 200 ∧
    (s.handle m r session).1.content = .json (g.report (granted + 1))
  /-- Whatever else happens leaves the record. -/
  sameRecord : ∀ h, s.GrantsNothing session h →
    session.world.engine.SameRecord (s.after session h).world.engine

variable {s} {session : Session Scripted} {grants : List Grant}

theorem after_sameRecord (hs : s.engine = Scripted.engine) {h : Happening}
    (hn : s.GrantsNothing session h) :
    session.world.engine.SameRecord (s.after session h).world.engine := by
  cases h with
  | request m r => exact (handle_of_not_grants hs (hn m r rfl)).1
  | clock now => exact ⟨rfl, rfl, rfl⟩
  | reject status message => exact ⟨rfl, rfl, rfl⟩
  | crash message => exact ⟨rfl, rfl, rfl⟩
  | setStatus id status => exact Scripted.setStatus_sameRecord id status
  | script id statuses => exact ⟨rfl, rfl, rfl⟩

/-- The record goes on holding what was granted. -/
theorem Keeps.of_sameRecord (h : s.Keeps grants session) {next : Session Scripted}
    (hsame : session.world.engine.SameRecord next.world.engine) : s.Keeps grants next where
  submissions_eq := hsame.submissions_eq.trans h.submissions_eq
  ids_eq := hsame.ids_eq.trans h.ids_eq
  accepted_eq := hsame.accepted_eq.trans h.accepted_eq

/-- What is granted is added to the record. -/
theorem Keeps.after_grants (hs : s.engine = Scripted.engine) (h : s.Keeps grants session)
    {m : Moment} {r : Request} {g : Grant} (hg : s.Grants m r session g) :
    s.Keeps (grants ++ [g]) (s.after session (.request m r)) := by
  obtain ⟨-, -, hengine⟩ := handle_of_grants hs hg
  refine ⟨?_, ?_, ?_⟩
  · -- submissions_eq
    rw [after, hengine, List.map_append, ← h.submissions_eq]
    rfl
  · -- ids_eq
    rw [after, hengine, Scripted.ids_accepting, h.ids_eq, h.accepted_eq, List.length_append,
      List.length_singleton, List.range_succ, List.map_append]
    rfl
  · -- accepted_eq
    rw [after, hengine, List.length_append, List.length_singleton, ← h.accepted_eq]
    rfl

/-- One thing more may grant one video more, and the record holds it then. -/
theorem after_keeps (hs : s.engine = Scripted.engine) (hk : s.Keeps grants session)
    (h : Happening) :
    (∃ m r g, h = .request m r ∧ s.Grants m r session g ∧
      s.Keeps (grants ++ [g]) (s.after session h)) ∨
    (s.GrantsNothing session h ∧ s.Keeps grants (s.after session h)) := by
  by_cases hn : s.GrantsNothing session h
  · exact .inr ⟨hn, hk.of_sameRecord (after_sameRecord hs hn)⟩
  · simp only [GrantsNothing, not_forall, not_not] at hn
    obtain ⟨m, r, rfl, g, hg⟩ := hn
    exact .inl ⟨m, r, g, rfl, hg, hk.after_grants hs hg⟩

/-- Whatever happens, the record holds what was granted before and what is granted then. -/
theorem run_keeps (hs : s.engine = Scripted.engine) (past : List Happening)
    (hk : s.Keeps grants session) :
    ∃ more, s.Granted session past more ∧ s.Keeps (grants ++ more) (s.run session past) := by
  induction past generalizing session grants with
  | nil => exact ⟨[], .nil session, by rwa [List.append_nil]⟩
  | cons h rest ih =>
    rcases after_keeps hs hk h with ⟨m, r, g, rfl, hg, hk'⟩ | ⟨hn, hk'⟩
    · obtain ⟨more, hgranted, hkeeps⟩ := ih hk'
      refine ⟨g :: more, .grant hg hgranted, ?_⟩
      rw [List.append_cons]
      exact hkeeps
    · obtain ⟨more, hgranted, hkeeps⟩ := ih hk'
      exact ⟨more, .skip hn hgranted, hkeeps⟩

theorem start_keeps : s.Keeps [] (s.start {}) := ⟨rfl, rfl, rfl⟩

/-- No two jobs have the same name. -/
theorem Keeps.ids_nodup (h : s.Keeps grants session) : session.world.engine.ids.Nodup := by
  rw [h.ids_eq]
  exact Scripted.nodup_names grants.length

theorem Keeps.continues (hs : s.engine = Scripted.engine) (h : s.Keeps grants session) :
    s.Continues grants.length session where
  succeeds_iff m r hposted hpath := by
    constructor
    · intro hok
      by_contra hnone
      exact (handle_of_not_grants hs (not_exists.mp hnone)).2 hposted hpath hok
    · rintro ⟨g, hg⟩
      exact (handle_of_grants hs hg).1
  reports m r g hg := by
    obtain ⟨hstatus, hcontent, -⟩ := handle_of_grants hs hg
    rw [← h.accepted_eq]
    exact ⟨hstatus, hcontent⟩
  sameRecord _ hn := after_sameRecord hs hn

/-- After any trial the engine has got exactly the videos that were granted, in order, under names
that are numbered on from one; and the service goes on like that. -/
theorem onTrial_keeps_granted (config : Config) (callback : Option String)
    (isConfigured keepsCounts : Bool) (past : List Happening) :
    let s := onTrial config callback isConfigured keepsCounts
    ∃ grants, s.Granted (s.start {}) past grants ∧
      s.Keeps grants (s.run (s.start {}) past) ∧
      (s.run (s.start {}) past).world.engine.ids.Nodup ∧
      s.Continues grants.length (s.run (s.start {}) past) := by
  intro s
  obtain ⟨grants, hgranted, hkeeps⟩ := run_keeps (s := s) rfl past start_keeps
  exact ⟨grants, hgranted, hkeeps, hkeeps.ids_nodup, hkeeps.continues rfl⟩

end Server

end Storyboard.Service

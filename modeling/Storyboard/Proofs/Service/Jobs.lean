import Storyboard.Proofs.Engine.Remote
import Storyboard.Proofs.Service.Layers
import Storyboard.Service.Remote

/-!
# Questions for jobs

Whoever asks the service for a job asks its engine: the service keeps nothing of it, and what the
engine reports is what the caller gets. So the caller is told the same of a finished job at every
look as far as the engine's report settles all of it. One field it may leave open, and then the
clock of the service stands in for it.
-/

namespace Storyboard.Service

/-- The job that a segment of a path names. -/
def jobAt? (segment : List Char) : Option JobId := (segmentText? segment).bind jobId?

namespace Server

section Asking

variable {σ : Type} {s : Server σ} {m : Moment} {r : Request} {session : Session σ}
  {segment : List Char} {id : JobId}

theorem report_of_jobAt (hid : jobAt? segment = some id) (w : World σ) :
    (s.report segment w).2.engine = (s.engine.status id w.engine).state ∧
      ∀ job, (s.engine.status id w.engine).reply = .ok job →
        (s.report segment w).1 = .done (.ofJson 200 (jobJson job)) := by
  obtain ⟨name, hname, hjob⟩ := Option.bind_eq_some_iff.mp hid
  unfold report
  simp only [hname, hjob, Engine.poll]
  rcases s.engine.status id w.engine with ⟨job | e | breakdown, state, logs⟩
  · refine ⟨rfl, fun other hother => ?_⟩
    obtain rfl := Reply.ok.inj hother
    rfl
  · exact ⟨rfl, fun _ h => absurd h (by simp)⟩
  · exact ⟨rfl, fun _ h => absurd h (by simp)⟩

/-- A question for a job that comes through is passed on to the engine, and so is its report. -/
theorem handle_of_jobAt (h : s.Reaches m r session (.job segment))
    (hid : jobAt? segment = some id) :
    (s.handle m r session).2.world.engine =
        (s.engine.status id session.world.engine).state ∧
      ∀ job, (s.engine.status id session.world.engine).reply = .ok job →
        (s.handle m r session).1.status = 200 ∧
          (r.method ≠ "HEAD" → (s.handle m r session).1.content = .json (jobJson job)) := by
  obtain ⟨hengine, hreport⟩ := report_of_jobAt (s := s) hid (entered m r session (.job segment))
  obtain ⟨hstatus, -, hstate⟩ := handle_of_reaches h
  refine ⟨hstate.trans hengine, fun job hjob => ?_⟩
  have hdone := hreport job hjob
  refine ⟨?_, fun hhead => (handle_of_done h hhead rfl hdone).2⟩
  rw [hstatus]
  exact congrArg (fun o => o.response.status) hdone

end Asking

/-! ## Finished jobs -/

variable {config : Config} {engine : EngineConfig} {keepsCounts : Bool} {id : JobId} {code : Nat}
  {body : List Nat} {job : RenderJob} {w : World Network}

theorem overRemote_status (p : Paced Network) :
    ((overRemote config engine keepsCounts).engine.status id p).reply =
      (Remote.status engine id p.inner).reply := by
  show (Remote.status engine id p.acquire.inner).reply = _
  rw [Paced.acquire_inner]

/-- A report on a finished job is a report on a finished job at every look that gets it. The looks
see the same exactly if the report says when the job was accepted, or the clock shows the same; and
if it says so, every caller is told the same as well. -/
theorem overRemote_looks_agree (config : Config) (engine : EngineConfig) (keepsCounts : Bool)
    (hw : w.engine.Brings code body) (hjob : ((Remote.engine engine).poll id w).1 = .ok job)
    (hend : job.status.isTerminal = true) :
    ∃ report, Remote.Reports code body report ∧
      (∀ later : World Network, later.engine.Brings code body →
        ∃ seen, ((Remote.engine engine).poll id later).1 = .ok seen ∧
          seen.status.isTerminal = true ∧
          (seen = job ↔ report.created.isSome = true ∨ later.engine.now = w.engine.now)) ∧
      (report.created.isSome = true → ∀ m r session segment,
        (overRemote config engine keepsCounts).Reaches m r session (.job segment) →
        jobAt? segment = some id → session.world.engine.inner.Brings code body →
        ((overRemote config engine keepsCounts).handle m r session).1.status = 200 ∧
          (r.method ≠ "HEAD" →
            ((overRemote config engine keepsCounts).handle m r session).1.content =
              .json (jobJson job))) := by
  obtain ⟨hask, report, hreport, rfl⟩ := (Remote.poll_eq_ok_iff hw).mp hjob
  refine ⟨report, hreport, ?_, ?_⟩
  · intro later hlater
    refine ⟨report.job later.engine.now, ?_, ?_, report.job_eq_iff _ _⟩
    · exact (Remote.poll_eq_ok_iff hlater).mpr ⟨hask, report, hreport, rfl⟩
    · rw [report.job_status w.engine.now]
      exact hend
  · intro hcreated m r session segment hreaches hid hbrings
    refine (handle_of_jobAt hreaches hid).2 _ ?_
    rw [overRemote_status, (report.job_eq_iff session.world.engine.inner.now _).mpr (.inl hcreated)]
    exact (Remote.status_eq_ok_iff hbrings).mpr ⟨hask, report, hreport, rfl⟩

/-- A job that was accepted at the start of 2024, looked at twice. -/
theorem overRemote_looks_agree_accepted :
    let engine : EngineConfig := { baseUrl := "http://[::1]:4000", apiKey := some "k" }
    let body := Remote.enveloped [("id", .text "job-1"), ("status", .text "done"),
      ("created", .text "2024-01-01T00:00:00Z")]
    let shown (second : Int) : World Network :=
      { engine := { deliveries := [.answered 200 body], now := ⟨second, 0⟩ } }
    ∃ job : RenderJob, ((Remote.engine engine).poll ⟨"job-1"⟩ (shown 1704067210)).1 = .ok job ∧
      job.status.isTerminal = true ∧
      ((Remote.engine engine).poll ⟨"job-1"⟩ (shown 1704067211)).1 = .ok job := by
  intro engine body shown
  let report : StatusReport :=
    ⟨"job-1", "done", none, none, none, none, some ⟨1704067200, 0⟩, none⟩
  have hjob : ((Remote.engine engine).poll ⟨"job-1"⟩ (shown 1704067210)).1 =
      .ok (report.job ⟨1704067210, 0⟩) := by decide +kernel
  have hend : (report.job ⟨1704067210, 0⟩).status.isTerminal = true := by decide +kernel
  have hshown (second : Int) : (shown second).engine.Brings 200 body := rfl
  obtain ⟨read, hread, hlooks, -⟩ :=
    overRemote_looks_agree {} engine false (hshown 1704067210) hjob hend
  have hcreated : read.created.isSome = true := by
    have hreport : (Remote.unwrap StatusReport.reader body).toOption = some report := by
      decide +kernel
    rw [hread.unwrap_eq] at hreport
    obtain rfl : read = report := Option.some.inj hreport
    rfl
  obtain ⟨seen, hseen, -, hsame⟩ := hlooks (shown 1704067211) (hshown _)
  obtain rfl := hsame.mpr (.inl hcreated)
  exact ⟨_, hjob, hend, hseen⟩

/-- A job of which the engine says only when it changed last, looked at twice: it was accepted
whenever one looks. -/
theorem overRemote_looks_differ :
    let engine : EngineConfig := { baseUrl := "http://[::1]:4000", apiKey := some "k" }
    let body := Remote.enveloped [("id", .text "job-1"), ("status", .text "done"),
      ("updated", .text "2024-01-01T00:00:05Z")]
    let job (second : Int) : RenderJob :=
      ⟨⟨"job-1"⟩, .done, none, none, none, none, ⟨second, 0⟩, ⟨1704067205, 0⟩⟩
    let shown (second : Int) : World Network :=
      { engine := { deliveries := [.answered 200 body], now := ⟨second, 0⟩ } }
    ((Remote.engine engine).poll ⟨"job-1"⟩ (shown 1704067210)).1 = .ok (job 1704067210) ∧
      ((Remote.engine engine).poll ⟨"job-1"⟩ (shown 1704067211)).1 = .ok (job 1704067211) ∧
      (job 1704067210).status.isTerminal = true ∧ job 1704067210 ≠ job 1704067211 := by
  decide +kernel

end Server

end Storyboard.Service

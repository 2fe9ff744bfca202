import Storyboard.Proofs.Outcome
import Storyboard.Proofs.Service.Tracking

/-!
# Stamps in order

A job changes last when it is accepted or later. What the engine reports of the two times is passed
on as it is, and what it leaves out is made up for: the last change by the beginning, and the
beginning by the clock. So a report that could be true comes out in order if it tells of the
beginning, or of neither. If it tells of the last change alone, the clock puts the beginning after
it, unless no time has passed in between.
-/

namespace Storyboard

namespace Stamp

theorem le_iff {a b : Stamp} :
    a.le b = true ↔ a.seconds < b.seconds ∨ a.seconds = b.seconds ∧ a.nanos ≤ b.nanos := by
  simp [le]

theorem le_refl (a : Stamp) : a.le a = true :=
  le_iff.mpr (.inr ⟨rfl, Nat.le_refl _⟩)

theorem le_antisymm {a b : Stamp} (hab : a.le b = true) (hba : b.le a = true) : a = b := by
  rw [le_iff] at hab hba
  have hseconds : a.seconds = b.seconds := by omega
  have hnanos : a.nanos = b.nanos := by omega
  cases a
  cases b
  rw [Stamp.mk.injEq]
  exact ⟨hseconds, hnanos⟩

end Stamp

/-- A job has not changed before it was accepted. -/
def RenderJob.InOrder (job : RenderJob) : Prop := job.createdAt.le job.updatedAt = true

instance (job : RenderJob) : Decidable job.InOrder :=
  inferInstanceAs (Decidable (job.createdAt.le job.updatedAt = true))

namespace StatusReport

/-- A report can be true at the time at which it is read. -/
structure IsPlausible (r : StatusReport) (now : Stamp) : Prop where
  /-- The job was not accepted later. -/
  created_le : ∀ t, r.created = some t → t.le now = true
  /-- It has not changed later. -/
  updated_le : ∀ t, r.updated = some t → t.le now = true
  /-- It has not changed before it was accepted. -/
  ordered : ∀ t u, r.created = some t → r.updated = some u → t.le u = true

/-- A report leaves nothing open that the clock could get wrong: it tells of the beginning, or it
does not tell of a last change, or that is now. -/
def SettlesOrder (r : StatusReport) (now : Stamp) : Prop :=
  r.created.isSome = true ∨ r.updated = none ∨ r.updated = some now

variable {r : StatusReport} {now : Stamp}

/-- Exactly such a report gives a job whose stamps are in order. -/
theorem job_inOrder_iff (h : r.IsPlausible now) : (r.job now).InOrder ↔ r.SettlesOrder now := by
  unfold RenderJob.InOrder SettlesOrder job
  cases hcreated : r.created with
  | some created =>
    refine iff_of_true ?_ (.inl rfl)
    cases hupdated : r.updated with
    | some updated => exact h.ordered created updated hcreated hupdated
    | none => exact Stamp.le_refl created
  | none =>
    cases hupdated : r.updated with
    | none => exact iff_of_true (Stamp.le_refl now) (.inr (.inl rfl))
    | some updated =>
      -- the clock stands in for the beginning, and the report is of a time before it
      have hbefore := h.updated_le updated hupdated
      constructor
      · intro hafter
        exact .inr (.inr (congrArg some (Stamp.le_antisymm hbefore hafter)))
      · rintro (hsome | hnone | hnow)
        · exact absurd hsome (by simp)
        · exact absurd hnone (by simp)
        · exact Option.some.inj hnow ▸ Stamp.le_refl updated

end StatusReport

namespace Service

/-- A caller is told both stamps of a job. -/
theorem jobJson_stamps (job : RenderJob) :
    (jobJson job).field? "created" = some (.text job.createdAt.text) ∧
      (jobJson job).field? "updated" = some (.text job.updatedAt.text) := by
  rcases job with ⟨id, status, _ | url, _ | poster, _ | thumbnail, error, created, updated⟩ <;>
    exact ⟨rfl, rfl⟩

namespace Server

variable {config : Config} {engine : EngineConfig} {keepsCounts : Bool} {id : JobId} {code : Nat}
  {body : List Nat} {report : StatusReport}

/-- What a caller is told of a job whose stamps are in order if the given condition holds. -/
structure TellsStamps (response : Response) (settled : Prop) : Prop where
  /-- All went well. -/
  status_eq : response.status = 200
  /-- The answer is a job with its stamps. -/
  content_eq : ∃ job, response.content = .json (jobJson job) ∧
    (jobJson job).field? "created" = some (.text job.createdAt.text) ∧
    (jobJson job).field? "updated" = some (.text job.updatedAt.text) ∧ (job.InOrder ↔ settled)

/-- The stamps of a job that the engine reports on are in order, for those who ask the engine and
for those who ask the service, exactly if the report settles their order. -/
theorem overRemote_stamps_ordered (config : Config) (keepsCounts : Bool)
    (hreport : Remote.Reports code body report) (hask : Remote.CanAsk engine id) :
    (∀ w : World Network, w.engine.Brings code body → report.IsPlausible w.engine.now →
      ∃ job, ((Remote.engine engine).poll id w).1 = .ok job ∧
        (job.InOrder ↔ report.SettlesOrder w.engine.now)) ∧
    ∀ m r session segment,
      (overRemote config engine keepsCounts).Reaches m r session (.job segment) →
      jobAt? segment = some id → r.method ≠ "HEAD" →
      session.world.engine.inner.Brings code body →
      report.IsPlausible session.world.engine.inner.now →
      TellsStamps ((overRemote config engine keepsCounts).handle m r session).1
        (report.SettlesOrder session.world.engine.inner.now) := by
  constructor
  · intro w hbrings hplausible
    exact ⟨_, (Remote.poll_eq_ok_iff hbrings).mpr ⟨hask, report, hreport, rfl⟩,
      StatusReport.job_inOrder_iff hplausible⟩
  · intro m r session segment hreaches hid hhead hbrings hplausible
    have hreply : ((overRemote config engine keepsCounts).engine.status id
        session.world.engine).reply = .ok (report.job session.world.engine.inner.now) := by
      rw [overRemote_status]
      exact (Remote.status_eq_ok_iff hbrings).mpr ⟨hask, report, hreport, rfl⟩
    obtain ⟨hstatus, hcontent⟩ := (handle_of_jobAt hreaches hid).2 _ hreply
    obtain ⟨hcreated, hupdated⟩ := jobJson_stamps (report.job session.world.engine.inner.now)
    exact ⟨hstatus, _, hcontent hhead, hcreated, hupdated,
      StatusReport.job_inOrder_iff hplausible⟩

/-- An engine on the same machine can be asked for a job. -/
theorem canAsk_nearby :
    Remote.CanAsk { baseUrl := "http://[::1]:4000", apiKey := some "k" } ⟨"job-1"⟩ := by
  have hok : (Remote.request { baseUrl := "http://[::1]:4000", apiKey := some "k" } "k" "GET"
      ("render/" ++ "job-1") none).isOk = true := by decide +kernel
  obtain ⟨out, hout⟩ := exists_ok_of_isOk hok
  exact ⟨"k", out, rfl, hout⟩

/-- A job that was accepted at the start of 2024 and changed five seconds later. -/
theorem overRemote_stamps_ordered_accepted :
    let engine : EngineConfig := { baseUrl := "http://[::1]:4000", apiKey := some "k" }
    let body := Remote.enveloped [("id", .text "job-1"), ("status", .text "done"),
      ("created", .text "2024-01-01T00:00:00Z"), ("updated", .text "2024-01-01T00:00:05Z")]
    let network : Network := { deliveries := [.answered 200 body], now := ⟨1704067210, 0⟩ }
    let m : Moment := ⟨⟨1704067210, 0⟩, 0, "first"⟩
    let r : Request := { method := "GET", target := "/api/render/job-1" }
    let session := (overRemote {} engine false).start (remoteStart engine network)
    (∃ job, ((Remote.engine engine).poll ⟨"job-1"⟩ { engine := network }).1 = .ok job ∧
        job.InOrder) ∧
      TellsStamps ((overRemote {} engine false).handle m r session).1 True := by
  intro engine body network m r session
  let report : StatusReport :=
    ⟨"job-1", "done", none, none, none, none, some ⟨1704067200, 0⟩, some ⟨1704067205, 0⟩⟩
  have hreport : Remote.Reports 200 body report :=
    ⟨by decide, toOption_eq_some_iff.mp (by decide +kernel)⟩
  have hplausible : report.IsPlausible network.now := by
    constructor
    · rintro t ⟨⟩
      decide
    · rintro t ⟨⟩
      decide
    · rintro t u ⟨⟩ ⟨⟩
      decide
  have hsettles (now : Stamp) : report.SettlesOrder now := .inl rfl
  obtain ⟨hpolled, hserved⟩ := overRemote_stamps_ordered {} false hreport canAsk_nearby
  have hname : IsName "job-1" := by decide
  have hsegment : StandsFor "job-1".toList "job-1" := hname.standsFor (by decide)
  have hid : jobAt? "job-1".toList = some (⟨"job-1"⟩ : JobId) := hsegment.jobAt_eq_some hname
  have hin : (overRemote {} engine false).LetsIn m r session := by
    refine ⟨by decide, fun a ha => ?_⟩
    rw [show r.client? = none from rfl] at ha
    exact absurd ha (by simp)
  have hreaches := reaches_of_gets ⟨rfl, by decide⟩ hsegment hin
  constructor
  · obtain ⟨job, hjob, horder⟩ := hpolled { engine := network } rfl hplausible
    exact ⟨job, hjob, horder.mpr (hsettles _)⟩
  · have htells := hserved m r session _ hreaches hid (by decide) rfl hplausible
    rwa [eq_true (hsettles _)] at htells

/-- A job of which the engine says only when it changed last, which was five seconds ago: it was
accepted now. -/
theorem overRemote_stamps_out_of_order :
    let engine : EngineConfig := { baseUrl := "http://[::1]:4000", apiKey := some "k" }
    let body := Remote.enveloped [("id", .text "job-1"), ("status", .text "done"),
      ("updated", .text "2024-01-01T00:00:05Z")]
    let report : StatusReport :=
      ⟨"job-1", "done", none, none, none, none, none, some ⟨1704067205, 0⟩⟩
    let w : World Network :=
      { engine := { deliveries := [.answered 200 body], now := ⟨1704067210, 0⟩ } }
    Remote.Reports 200 body report ∧ report.IsPlausible w.engine.now ∧
      ∃ job, ((Remote.engine engine).poll ⟨"job-1"⟩ w).1 = .ok job ∧ ¬job.InOrder := by
  intro engine body report w
  have hreport : Remote.Reports 200 body report :=
    ⟨by decide, toOption_eq_some_iff.mp (by decide +kernel)⟩
  have hbrings : w.engine.Brings 200 body := rfl
  refine ⟨hreport, ?_, report.job w.engine.now,
    (Remote.poll_eq_ok_iff hbrings).mpr ⟨canAsk_nearby, report, hreport, rfl⟩, by decide⟩
  constructor
  · rintro t ⟨⟩
  · rintro t ⟨⟩
    decide
  · rintro t u ⟨⟩

end Server

end Service

end Storyboard

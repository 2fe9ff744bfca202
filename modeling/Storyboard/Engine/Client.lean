import Storyboard.Engine.Basic

/-!
# Handing over videos

The client hands a plan to an engine. It keeps nothing: the name of the job is all that there is,
and it is the caller's to keep.
-/

namespace Storyboard

namespace Engine

variable {σ : Type}

/-- Hands a plan to an engine, which calls the given address when it is done. -/
def submitPlan (engine : Engine σ) (callback : Option String) (plan : RenderPlan) (w : World σ) :
    Reply SubmittedJob × World σ :=
  let x := engine.submit ⟨plan.timeline, plan.output, callback⟩ w.engine
  let w := w.after x
  match x.reply with
  | .ok id => (.ok ⟨id, .queued⟩, w.count (.submission plan.kind true))
  | .failed error =>
    let entry := LogEntry.warning "Render submission failed"
      [("kind", .text (Vocabulary.word plan.kind)), ("error", .text error.message)]
    (.failed error, (w.count (.submission plan.kind false)).log entry)
  | .crashed breakdown => (.crashed breakdown, w)

end Engine

end Storyboard

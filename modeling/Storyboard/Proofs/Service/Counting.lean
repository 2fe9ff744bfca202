import Mathlib.Algebra.BigOperators.Group.Finset.Defs
import Storyboard.Service.Metrics

/-!
# Counts and events

A count that is shown is a number of marks, and every event makes at most one mark of a name. So
what is shown for a name and some labels is the number of the events that it is about.
-/

namespace Storyboard

/-! ## Kinds of events -/

namespace Event

/-- The method, the path and the status of an answer. -/
def answer? : Event → Option (String × String × Nat)
  | .answered method path status => some (method, path, status)
  | _ => none

/-- Whether the engine was asked for a job. -/
def isPoll : Event → Bool
  | .poll _ => true
  | _ => false

end Event

theorem VideoKind.word_inj {a b : VideoKind} :
    Vocabulary.word a = Vocabulary.word b ↔ a = b := by
  cases a <;> cases b <;> decide

/-- Where each item gives one thing to count or none, items are counted in place of things. -/
theorem countP_flatMap_of_ite {α β : Type} {f : α → List β} {p : β → Bool} {q : α → Bool}
    (h : ∀ a, (f a).countP p = if q a then 1 else 0) (as : List α) :
    (as.flatMap f).countP p = as.countP q := by
  induction as with
  | nil => rfl
  | cons a rest ih => rw [List.flatMap_cons, List.countP_append, ih, h a, List.countP_cons, add_comm]

namespace Service.Metrics

/-- What is shown for a name and some labels: the counts of all marks that have them, whatever
other labels these have. -/
def sum (events : List Event) (name : String) (labels : List (String × String)) : Nat :=
  ∑ m ∈ (events.flatMap marks).toFinset with m.name = name ∧ ∀ l ∈ labels, l ∈ m.labels,
    total events m

variable {events : List Event}

theorem sum_eq_countP {name : String} {labels : List (String × String)} {q : Event → Bool}
    (h : ∀ e, (marks e).countP (fun m => m.name = name ∧ ∀ l ∈ labels, l ∈ m.labels) =
      if q e then 1 else 0) :
    sum events name labels = events.countP q :=
  (Finset.sum_filter_count_eq_countP _ _).trans (countP_flatMap_of_ite h events)

/-! ## What each count is about -/

theorem sum_requests (kind : VideoKind) :
    sum events "vgen_render_requests_total" [("kind", Vocabulary.word kind)] =
      events.count (.videoAccepted kind) := by
  refine sum_eq_countP fun e => ?_
  cases e with
  | videoAccepted k => simp [marks, VideoKind.word_inj, @eq_comm _ k]
  | _ => simp [marks]

theorem sum_submissions (kind : VideoKind) (accepted : Bool) :
    sum events "render_submissions_total" [("kind", Vocabulary.word kind),
      ("outcome", if accepted then "success" else "failure")] =
      events.count (.submission kind accepted) := by
  refine sum_eq_countP fun e => ?_
  cases e with
  | submission k a =>
    cases a <;> cases accepted <;>
      simp [marks, List.countP_cons, VideoKind.word_inj, @eq_comm _ k]
  | _ => simp [marks]

theorem sum_rejections (kind : VideoKind) :
    sum events "vgen_render_rejections_total" [("kind", Vocabulary.word kind)] =
      events.count (.videoRejected kind) := by
  refine sum_eq_countP fun e => ?_
  cases e with
  | videoRejected k => simp [marks, VideoKind.word_inj, @eq_comm _ k]
  | _ => simp [marks]

theorem sum_polls : sum events "render_status_polls_total" [] = events.countP Event.isPoll := by
  refine sum_eq_countP fun e => ?_
  cases e <;> simp [marks, Event.isPoll]

theorem sum_answers :
    sum events "vgen_http_requests_total" [] = (events.filterMap Event.answer?).length := by
  rw [List.length_filterMap_eq_countP]
  refine sum_eq_countP fun e => ?_
  cases e <;> simp [marks, Event.answer?]

theorem total_answers (labels : List (String × String)) :
    total events ⟨"vgen_http_requests_total", labels⟩ =
      (events.filterMap Event.answer?).countP fun a => answerLabels a.1 a.2.1 a.2.2 = labels := by
  rw [List.countP_filterMap]
  refine countP_flatMap_of_ite (fun e => ?_) events
  cases e <;> simp [marks, Event.answer?, List.countP_cons]

end Service.Metrics

end Storyboard

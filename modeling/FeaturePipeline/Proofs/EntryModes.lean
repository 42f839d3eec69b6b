import FeaturePipeline.Proofs.TaskRun

/-! The ways to enter a request. Main statement: a plain dispatch, a run, and the entry point that
the request belongs to do the same work and panic alike; the last two tell the outcome by a status,
and an error by one record at the end of the log. In a session each turn may be entered in another
way, and turn by turn nothing else differs. -/
namespace FeaturePipeline

/-- All that happens besides logging, in order. -/
def Trace.events (t : Trace) : Trace := t.filter fun | .logged _ => false | _ => true

@[simp] theorem Trace.events_append (s t : Trace) : events (s ++ t) = s.events ++ t.events :=
  List.filter_append s t

@[simp] theorem Trace.events_map_logged (rs : List Log.Record) : events (rs.map .logged) = [] := by
  induction rs with
  | nil => rfl
  | cons r rs ih => exact ih

/-- How the end of a dispatch is told by a run: by a status, and for an error by a record that names
the request. A panic is passed on. -/
inductive Told (r : Request) :
    Ended (Except PipelineError Outcome) → Ended ExitStatus → List Log.Record → Prop where
  | done (o : Outcome) : Told r (.returned (.ok o)) (.returned .success) []
  | failed (e : PipelineError) : Told r (.returned (.error e)) (.returned .failure)
      [⟨.error, .dispatch, s!"{r.name}: {e.message}"⟩]
  | unwound (p : Panic) : Told r (.panicked p) (.panicked p) []

namespace Told

variable {r : Request} {ended : Ended (Except PipelineError Outcome)} {status : Ended ExitStatus}
  {told : List Log.Record}

theorem code_zero_iff (h : Told r ended status told) :
    status.map ExitStatus.code = .returned 0 ↔ ∃ o, ended = .returned (.ok o) := by
  cases h <;> simp [ExitStatus.code]

theorem code_one_iff (h : Told r ended status told) :
    status.map ExitStatus.code = .returned 1 ↔ ∃ e, ended = .returned (.error e) := by
  cases h <;> simp [ExitStatus.code]

end Told

namespace Dispatcher

variable (d : Dispatcher) (files : FileSource) (r : Request)

theorem told_status (ended : Ended (Except PipelineError Outcome)) :
    Told r ended (status ended) (report r ended) := by
  cases ended with
  | panicked p => exact .unwound p
  | returned result =>
    cases result with
    | error e => exact .failed e
    | ok o => exact .done o

theorem told_run : ∃ told, Told r (d.dispatch files r).1 (d.run files r).1 told ∧
    (d.run files r).2 = (d.dispatch files r).2 ++ told.map .logged := by
  rw [run_eq]
  exact ⟨_, told_status r _, rfl⟩

theorem enter_form : d.enter files r.entryPoint r.form = d.run files r := by
  rw [enter, Request.request_form]

/-- Whatever way a request is entered, the same strategies are built, the same happens in the same
order, and a panic is the same. A run and the entry point of the request end with code zero exactly
when a dispatch returns an outcome, and with code one exactly when it returns an error; only that
error is logged in addition, by one record after all others. -/
theorem ways_agree :
    d.enter files r.entryPoint r.form = d.run files r ∧
    (∃ told, Told r (d.dispatch files r).1 (d.run files r).1 told ∧
      (d.run files r).2 = (d.dispatch files r).2 ++ told.map .logged) ∧
    (d.run files r).2.built = (d.dispatch files r).2.built ∧
    (d.run files r).2.events = (d.dispatch files r).2.events ∧
    ((d.run files r).1.map ExitStatus.code = .returned 0 ↔
      ∃ o, (d.dispatch files r).1 = .returned (.ok o)) ∧
    ((d.run files r).1.map ExitStatus.code = .returned 1 ↔
      ∃ e, (d.dispatch files r).1 = .returned (.error e)) := by
  obtain ⟨told, htold, htrace⟩ := d.told_run files r
  refine ⟨d.enter_form files r, ⟨told, htold, htrace⟩, d.built_run files r, ?_,
    htold.code_zero_iff, htold.code_one_iff⟩
  rw [htrace, Trace.events_append, Trace.events_map_logged, List.append_nil]

end Dispatcher

/-- The answer to a request in a mode, beside what a plain dispatch shows. -/
inductive Answered (r : Request) : Mode → Ended Answer × Trace → Ended Answer × Trace → Prop where
  | dispatch (a : Ended Answer × Trace) : Answered r .dispatch a a
  | status {mode : Mode} {ended : Ended (Except PipelineError Outcome)}
    {status : Ended ExitStatus} {told : List Log.Record} {t : Trace} (hm : mode ≠ .dispatch)
    (h : Told r ended status told) :
    Answered r mode (ended.map .outcome, t) (status.map .status, t ++ told.map .logged)

theorem Dispatcher.answered_answer (d : Dispatcher) (files : FileSource) (r : Request)
    (mode : Mode) : Answered r mode (d.answer files r .dispatch) (d.answer files r mode) := by
  obtain ⟨told, htold, htrace⟩ := d.told_run files r
  cases mode with
  | dispatch => exact .dispatch _
  | run =>
    simp only [answer, htrace]
    exact .status (by decide) htold
  | entry =>
    simp only [answer, enter_form, htrace]
    exact .status (by decide) htold

def Turn.plain (t : Turn) : Turn := { t with mode := .dispatch }

theorem answered_playFrom (gpu : Bool) (files : FileSource) (number : Nat) (turns : List Turn) :
    List.Forall₂ (fun (t : Turn × (Ended Answer × Trace)) a => Answered t.1.request t.1.mode t.2 a)
      (turns.zip (playFrom gpu files number (turns.map Turn.plain)))
      (playFrom gpu files number turns) := by
  induction turns generalizing number with
  | nil => exact .nil
  | cons t turns ih => exact .cons (Dispatcher.answered_answer _ files _ t.mode) (ih (number + 1))

end FeaturePipeline

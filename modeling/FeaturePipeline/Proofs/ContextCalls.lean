import Mathlib.Logic.Function.Basic
import FeaturePipeline.Proofs.TaskLives
import FeaturePipeline.Proofs.TaskRun

/-! Calls of a context runner against a start and a wait that the caller makes himself. Main
statement: through any sequence of calls for a crew of tasks, a call with a context does to its task
what these two do and ends as they end, and a call without one leaves the task as it was. A job that
is still held is run by the first call with a context, and by no other. -/
namespace FeaturePipeline

namespace Trace

def effects (t : Trace) : List Effect :=
  t.filterMap fun | .logged r => some (.logged r) | .counted => some .counted | _ => none

variable (s t : Trace)

@[simp] theorem effects_nil : effects [] = [] := rfl

@[simp] theorem effects_append : effects (s ++ t) = s.effects ++ t.effects :=
  List.filterMap_append

@[simp] theorem effects_cons_called (call : Call) (thread : Thread) :
    effects (.called call thread :: t) = t.effects := rfl

@[simp] theorem effects_ofEffects (es : List Effect) : (ofEffects es).effects = es := by
  induction es with
  | nil => rfl
  | cons e es ih =>
    cases e with
    | logged r => exact congrArg (Effect.logged r :: ·) ih
    | counted => exact congrArg (Effect.counted :: ·) ih

@[simp] theorem effects_map_logged (rs : List Log.Record) :
    effects (rs.map .logged) = rs.map .logged := by
  induction rs with
  | nil => rfl
  | cons r rs ih => exact congrArg (.logged r :: ·) ih

end Trace

namespace ThreadTask

/-- The states that starts and waits lead to, whatever the pace of the worker; panics are caught. -/
inductive Reached : ThreadTask → Prop where
  | new (name : String) (job : Job) : Reached (.new name job)
  | start {t : ThreadTask} (h : Reached t) : Reached t.start.2.1
  | wait {t : ThreadTask} (h : Reached t) : Reached t.wait.1
  | advance {t : ThreadTask} (n : Nat) (h : Reached t) : Reached (t.advance n).1

theorem job_start (t : ThreadTask) : t.start.2.1.job = none := by
  cases h : t.job with
  | none => rw [start_of_no_job h, h]
  | some job => by_cases hn : nul ∈ t.name.toList <;> simp [start, tryStart, h, hn]

theorem job_wait (t : ThreadTask) : t.wait.1.job = t.job := by
  cases h : t.worker <;> simp [wait, h]

theorem job_advance (n : Nat) (t : ThreadTask) : (t.advance n).1.job = t.job := by
  cases h : t.worker <;> simp [advance, h]

/-- A task that still holds its job is as it was made. -/
theorem Reached.eq_new {t : ThreadTask} {job : Job} (h : t.Reached) (hj : t.job = some job) :
    t = .new t.name job := by
  induction h with
  | new name job' =>
    obtain rfl : job' = job := Option.some.inj hj
    rfl
  | @start t _ _ =>
    rw [job_start] at hj
    cases hj
  | @wait t _ ih =>
    have hw : t.worker = none := by rw [ih (by rw [← job_wait, hj])]; rfl
    rw [wait_of_no_worker hw] at hj ⊢
    exact ih hj
  | @advance t n _ ih =>
    have hw : t.worker = none := by rw [ih (by rw [← job_advance n, hj])]; rfl
    rw [advance_of_no_worker n hw] at hj ⊢
    exact ih hj

end ThreadTask

namespace Task

variable (on x : Thread) (t : Task)

theorem start_task_eq : (t.start on).2.1 = (t.start x).2.1 := by
  cases t <;> rfl

theorem effects_start_eq : (t.start on).2.2.effects = (t.start x).2.2.effects := by
  cases t <;> rfl

theorem wait_fst_eq : (t.wait on).1 = (t.wait x).1 := by
  cases t <;> rfl

theorem wait_task_eq : (t.wait on).2.1 = (t.wait x).2.1 := by
  cases t <;> rfl

theorem effects_wait_eq : (t.wait on).2.2.effects = (t.wait x).2.2.effects := by
  cases t <;> rfl

end Task

namespace ContextProvider

/-- What is shown inside a context, with the records about the context around it. -/
def around (p : ContextProvider) (own : List Effect) : List Effect :=
  p.acquired.map .logged ++ (own ++ p.released.map .logged)

/-- How a call of a runner on the thread `on` passes: how it ends, what becomes of the task, which
calls are made, and what is logged and counted. With a context all this is told by a start and a
wait that the caller makes himself. -/
inductive Handled (p : ContextProvider) (on : Thread) (t : Task) :
    Ended (Except PipelineError Unit) → Task → List (Call × Thread) → List Effect → Prop where
  | completed {u v : Task} {early late : Trace} (ha : p.acquire = .returned (.ok ()))
    (hs : t.start .caller = (.returned (), u, early))
    (hw : u.wait .caller = (.returned (), v, late)) :
    Handled p on t (.returned (.ok ())) v
      [(.acquire, on), (.start, on), (.wait, on), (.release, on)]
      (p.around (early.effects ++ late.effects))
  | waitPanics {u v : Task} {early late : Trace} {q : Panic} (ha : p.acquire = .returned (.ok ()))
    (hs : t.start .caller = (.returned (), u, early))
    (hw : u.wait .caller = (.panicked q, v, late)) :
    Handled p on t (.panicked q) v
      [(.acquire, on), (.start, on), (.wait, on), (.release, on)]
      (p.around (early.effects ++ late.effects))
  | startPanics {u : Task} {early : Trace} {q : Panic} (ha : p.acquire = .returned (.ok ()))
    (hs : t.start .caller = (.panicked q, u, early)) :
    Handled p on t (.panicked q) u [(.acquire, on), (.start, on), (.release, on)]
      (p.around early.effects)
  | notAcquired {e : PipelineError} (ha : p.acquire = .returned (.error e)) :
    Handled p on t (.returned (.error e)) t [(.acquire, on)] []
  | acquirePanics {q : Panic} (ha : p.acquire = .panicked q) :
    Handled p on t (.panicked q) t [(.acquire, on)] []

variable (p : ContextProvider) (on : Thread) (t : Task)

theorem run_of_acquire (ha : p.acquire = .returned (.ok ())) :
    (p.run on t).1 = (t.run on).1.map .ok ∧ (p.run on t).2.1 = (t.run on).2.1 ∧
      (p.run on t).2.2.effects = p.around (t.run on).2.2.effects := by
  simp [run, ha, around]

theorem handled_of_acquire (ha : p.acquire = .returned (.ok ())) :
    Handled p on t (p.run on t).1 (p.run on t).2.1 (p.run on t).2.2.calls
      (p.run on t).2.2.effects := by
  obtain ⟨hended, hleft, heffects⟩ := p.run_of_acquire on t ha
  have hacquires := p.acquires_eq_true_iff.mpr ha
  have hcalls := p.calls_run on t
  rw [if_pos hacquires, t.calls_run on] at hcalls
  rw [hended, hleft, heffects, hcalls]
  cases hs : (t.start .caller).1 with
  | panicked q =>
    have hpanic : (t.start on).1 = .panicked q := by rw [t.start_fst_eq on .caller, hs]
    have hstarts : t.starts = false := (t.starts_eq_false_iff on).mpr ⟨q, hpanic⟩
    rw [t.run_of_panic on hpanic, t.start_task_eq on .caller, t.effects_start_eq on .caller,
      hstarts]
    exact .startPanics ha (Prod.ext hs rfl)
  | returned _ =>
    have hreturn : (t.start on).1 = .returned () := by rw [t.start_fst_eq on .caller, hs]
    have hstarts : t.starts = true := (t.starts_eq_true_iff on).mpr hreturn
    rw [t.run_of_return on hreturn, Trace.effects_append, t.start_task_eq on .caller,
      t.effects_start_eq on .caller, Task.wait_fst_eq on .caller, Task.wait_task_eq on .caller,
      Task.effects_wait_eq on .caller, hstarts]
    cases hw : ((t.start .caller).2.1.wait .caller).1 with
    | panicked q => exact .waitPanics ha (Prod.ext hs rfl) (Prod.ext hw rfl)
    | returned _ => exact .completed ha (Prod.ext hs rfl) (Prod.ext hw rfl)

theorem handled_run : Handled p on t (p.run on t).1 (p.run on t).2.1 (p.run on t).2.2.calls
    (p.run on t).2.2.effects := by
  cases ha : p.acquire with
  | panicked q =>
    simp only [run, ha]
    exact .acquirePanics ha
  | returned result =>
    cases result with
    | error e =>
      simp only [run, ha]
      exact .notAcquired ha
    | ok _ => exact p.handled_of_acquire on t ha

variable {p}

theorem run_of_not_acquires (h : p.acquires = false) :
    (p.run on t).2.1 = t ∧ (p.run on t).2.2.effects = [] := by
  cases ha : p.acquire with
  | panicked q => simp [run, ha]
  | returned result =>
    cases result with
    | error e => simp [run, ha]
    | ok _ => simp [acquires, ha] at h

end ContextProvider

namespace Task

/-- What may come up for a task: a call of a runner on the given thread, or its worker going on. -/
inductive Occasion where
  | call (provider : ContextProvider) (on : Thread)
  | advance (n : Nat)

def Occasion.acquires : Occasion → Bool
  | call p _ => p.acquires
  | advance _ => false

def Occasion.around : Occasion → List Effect → List Effect
  | call p _, own => if p.acquires then p.around own else own
  | advance _, own => own

structure Episode where
  occasion : Occasion
  ended : Ended (Except PipelineError Unit)
  shown : Trace

/-- What the task itself showed; around it there may be records about a context. -/
def Episode.Shows (e : Episode) (own : List Effect) : Prop :=
  e.shown.effects = e.occasion.around own

def advance (n : Nat) : Task → Task × Trace
  | idle p => (idle p, [])
  | thread t pace => (thread (t.advance n).1 pace, (t.advance n).2)

def meet (t : Task) : Occasion → Ended (Except PipelineError Unit) × Task × Trace
  | .call p on => p.run on t
  | .advance n => (.returned (.ok ()), t.advance n)

/-- One occasion after the other; panics are caught between them. -/
def attend (t : Task) : List Occasion → Task × List Episode
  | [] => (t, [])
  | o :: rest =>
    let now := t.meet o
    let later := attend now.2.1 rest
    (later.1, ⟨o, now.1, now.2.2⟩ :: later.2)

/-- A task is taken through its episodes by calls that are handled, and by its worker. -/
inductive Passes : Task → List Episode → Task → Prop where
  | nil (t : Task) : Passes t [] t
  | call {t u v : Task} {p : ContextProvider} {on : Thread}
    {ended : Ended (Except PipelineError Unit)} {shown : Trace} {es : List Episode}
    (h : p.Handled on t ended u shown.calls shown.effects) (rest : Passes u es v) :
    Passes t (⟨.call p on, ended, shown⟩ :: es) v
  | advance {t u : Task} {n : Nat} {es : List Episode} (rest : Passes (t.advance n).1 es u) :
    Passes t (⟨.advance n, .returned (.ok ()), (t.advance n).2⟩ :: es) u

theorem passes_attend (t : Task) (os : List Occasion) :
    Passes t (t.attend os).2 (t.attend os).1 := by
  induction os generalizing t with
  | nil => exact .nil t
  | cons o os ih =>
    cases o with
    | call p on => exact .call (p.handled_run on t) (ih _)
    | advance n => exact .advance (ih _)

theorem attend_append (t : Task) (os rest : List Occasion) :
    t.attend (os ++ rest) =
      (((t.attend os).1.attend rest).1, (t.attend os).2 ++ ((t.attend os).1.attend rest).2) := by
  induction os generalizing t with
  | nil => rfl
  | cons o os ih => simp only [List.cons_append, attend, ih]

section ThreadTask

variable {t : ThreadTask} (name : String) (job : Job) (pace : Nat)

theorem run_thread_of_return (on : Thread) (h : t.start.1 = .returned ()) :
    ((thread t pace).run on).1 = .returned () ∧
      ((thread t pace).run on).2.1 = thread t.start.2.1.wait.1 pace ∧
      ((thread t pace).run on).2.2.effects = t.start.2.1.wait.2.effects := by
  have hshown := congrArg Trace.effects (ThreadTask.advance_append_wait pace t.start.2.1)
  rw [Trace.effects_append] at hshown
  simp [run, start, wait, h, hshown]

theorem meet_of_spent (h : t.Spent) (o : Occasion) : ((thread t pace).meet o).2.1 = thread t pace ∧
    ((thread t pace).meet o).2.2.effects = o.around [] := by
  have hstart := ThreadTask.start_of_no_job h.taken
  have hwait := ThreadTask.wait_of_no_worker h.worker
  cases o with
  | advance n => simp [meet, advance, ThreadTask.advance_of_no_worker n h.worker, Occasion.around]
  | call p on =>
    cases hp : p.acquires with
    | false => simpa [meet, Occasion.around, hp] using p.run_of_not_acquires on (thread t pace) hp
    | true =>
      obtain ⟨-, hleft, heffects⟩ :=
        p.run_of_acquire on (thread t pace) (p.acquires_eq_true_iff.mp hp)
      obtain ⟨-, htask, hshown⟩ := run_thread_of_return pace on (t := t) (by rw [hstart])
      rw [hstart, hwait] at htask hshown
      simp [meet, Occasion.around, hp, hleft, heffects, htask, hshown]

theorem attend_of_spent (h : t.Spent) (os : List Occasion) :
    ((thread t pace).attend os).1 = thread t pace ∧
      ∀ e ∈ ((thread t pace).attend os).2, e.Shows [] := by
  induction os with
  | nil => simp [attend]
  | cons o os ih =>
    obtain ⟨hleft, hshown⟩ := meet_of_spent pace h o
    simp only [attend, hleft]
    exact ⟨ih.1, List.forall_mem_cons.mpr ⟨hshown, ih.2⟩⟩

theorem meet_of_new {o : Occasion} (h : o.acquires = false) :
    ((thread (.new name job) pace).meet o).2.1 = thread (.new name job) pace ∧
      ((thread (.new name job) pace).meet o).2.2.effects = [] := by
  cases o with
  | advance n => exact ⟨rfl, rfl⟩
  | call p on => exact p.run_of_not_acquires on _ h

theorem attend_of_new {os : List Occasion} (h : ∀ o ∈ os, o.acquires = false) :
    ((thread (.new name job) pace).attend os).1 = thread (.new name job) pace ∧
      ∀ e ∈ ((thread (.new name job) pace).attend os).2, e.shown.effects = [] := by
  induction os with
  | nil => simp [attend]
  | cons o os ih =>
    obtain ⟨ho, hos⟩ := List.forall_mem_cons.mp h
    obtain ⟨hleft, hshown⟩ := meet_of_new name job pace ho
    simp only [attend, hleft]
    exact ⟨(ih hos).1, List.forall_mem_cons.mpr ⟨hshown, (ih hos).2⟩⟩

theorem run_of_new {p : ContextProvider} (on : Thread) (hp : p.acquires = true)
    (hn : ThreadTask.nul ∉ name.toList) :
    (p.run on (thread (.new name job) pace)).1 = .returned (.ok ()) ∧
      (p.run on (thread (.new name job) pace)).2.1 =
        thread { name := name, job := none, state := .finished } pace ∧
      (p.run on (thread (.new name job) pace)).2.2.effects =
        p.around (job.effects ++ (job.report name).effects) := by
  obtain ⟨hended, hleft, heffects⟩ :=
    p.run_of_acquire on (thread (.new name job) pace) (p.acquires_eq_true_iff.mp hp)
  have hstart := ThreadTask.start_of_job (t := .new name job) rfl hn
  obtain ⟨hreturn, htask, hshown⟩ :=
    run_thread_of_return pace on (t := .new name job) (by rw [hstart])
  have hreport : (ThreadTask.new name job).start.2.1.wait.2.effects =
      job.effects ++ (job.report name).effects := by
    rw [hstart, ← Trace.effects_ofEffects job.effects, ← Trace.effects_append]
    rfl
  have hfinished : (ThreadTask.new name job).start.2.1.wait.1 =
      { name := name, job := none, state := .finished } := by
    rw [hstart]
    rfl
  rw [hended, hleft, heffects, hreturn, htask, hshown, hreport, hfinished]
  exact ⟨rfl, rfl, rfl⟩

/-- A job that is still held is run by the first call with a context, and only by that one. -/
theorem attend_of_held (hn : ThreadTask.nul ∉ name.toList) {before : List Occasion}
    {p : ContextProvider} (hbefore : ∀ o ∈ before, o.acquires = false) (hp : p.acquires = true)
    (on : Thread) (after : List Occasion) :
    ∃ early now late, (thread (.new name job) pace).attend (before ++ .call p on :: after) =
        (thread { name := name, job := none, state := .finished } pace, early ++ now :: late) ∧
      (thread (.new name job) pace).attend before = (thread (.new name job) pace, early) ∧
      (∀ e ∈ early, e.shown.effects = []) ∧
      now.occasion = .call p on ∧ now.ended = .returned (.ok ()) ∧
      now.Shows (job.effects ++ (job.report name).effects) ∧ ∀ e ∈ late, e.Shows [] := by
  obtain ⟨hunchanged, hnothing⟩ := attend_of_new name job pace hbefore
  obtain ⟨hended, hleft, heffects⟩ := run_of_new name job pace on hp hn
  obtain ⟨hspent, hquiet⟩ := attend_of_spent pace
    (t := { name := name, job := none, state := .finished }) ⟨rfl, rfl⟩ after
  refine ⟨_, ⟨.call p on, _, (p.run on (thread (.new name job) pace)).2.2⟩, _, ?_,
    Prod.ext hunchanged rfl, hnothing, rfl, hended, ?_, hquiet⟩
  · rw [attend_append, hunchanged, attend, meet, hleft, hspent]
  · rw [Episode.Shows, Occasion.around, if_pos hp]
    exact heffects

end ThreadTask
end Task

namespace Crew

variable {κ α : Type} [DecidableEq κ]

def own (h : κ) (xs : List (κ × α)) : List α :=
  xs.filterMap fun x => if x.1 = h then some x.2 else none

theorem own_cons_self (h : κ) (a : α) (xs : List (κ × α)) :
    own h ((h, a) :: xs) = a :: own h xs := by
  simp [own]

theorem own_cons_of_ne {h k : κ} (hk : k ≠ h) (a : α) (xs : List (κ × α)) :
    own h ((k, a) :: xs) = own h xs := by
  simp [own, hk]

def play (crew : κ → Task) :
    List (κ × Task.Occasion) → (κ → Task) × List (κ × Task.Episode)
  | [] => (crew, [])
  | (h, o) :: rest =>
    let now := (crew h).meet o
    let later := play (Function.update crew h now.2.1) rest
    (later.1, (h, ⟨o, now.1, now.2.2⟩) :: later.2)

theorem attend_own (crew : κ → Task) (ms : List (κ × Task.Occasion)) (h : κ) :
    (crew h).attend (own h ms) = ((play crew ms).1 h, own h (play crew ms).2) := by
  induction ms generalizing crew with
  | nil => rfl
  | cons m ms ih =>
    obtain ⟨k, o⟩ := m
    have hlater := ih (Function.update crew k ((crew k).meet o).2.1)
    by_cases hk : k = h
    · subst hk
      rw [Function.update_self] at hlater
      rw [own_cons_self, Task.attend, hlater, play, own_cons_self]
    · rw [Function.update_of_ne (Ne.symm hk)] at hlater
      rw [own_cons_of_ne hk, hlater, play, own_cons_of_ne hk]

/-- Through any sequence of calls for a crew, whatever the workers do in between, each task is taken
by its own calls alone, and each of these is handled as by hand or leaves the task as it was. A
task that still holds its job is left as it is by calls without a context; the first call with one
runs the job, once and to its end, and no later one runs it again. -/
theorem play_transparent (crew : κ → Task) (ms : List (κ × Task.Occasion)) (h : κ) :
    Task.Passes (crew h) (own h (play crew ms).2) ((play crew ms).1 h) ∧
    ∀ (t : ThreadTask) (pace : Nat) (job : Job) (before after : List Task.Occasion)
      (p : ContextProvider) (on : Thread), crew h = .thread t pace → t.Reached →
      t.job = some job → ThreadTask.nul ∉ t.name.toList →
      own h ms = before ++ .call p on :: after → (∀ o ∈ before, o.acquires = false) →
      p.acquires = true →
      (play crew ms).1 h = .thread { t with job := none, state := .finished } pace ∧
      ∃ early now late, own h (play crew ms).2 = early ++ now :: late ∧
        (crew h).attend before = (crew h, early) ∧ (∀ e ∈ early, e.shown.effects = []) ∧
        now.occasion = .call p on ∧ now.ended = .returned (.ok ()) ∧
        now.Shows (job.effects ++ (job.report t.name).effects) ∧ ∀ e ∈ late, e.Shows [] := by
  have hplay := attend_own crew ms h
  refine ⟨?_, fun t pace job before after p on ht hr hj hn hms hbefore hp => ?_⟩
  · have hpasses := (crew h).passes_attend (own h ms)
    rwa [hplay] at hpasses
  · obtain ⟨name, rfl⟩ : ∃ name, t = .new name job := ⟨t.name, hr.eq_new hj⟩
    obtain ⟨early, now, late, hall, hepisodes⟩ :=
      Task.attend_of_held name job pace hn hbefore hp on after
    rw [hms, ht, hall] at hplay
    obtain ⟨hleft, hown⟩ := Prod.mk.inj hplay
    rw [ht]
    exact ⟨hleft.symm, early, now, late, hown.symm, hepisodes⟩

/-- A job that counts and panics is kept through a failed and a panicking acquisition, while the
other task of the crew panics, and then it is run once in two calls. -/
theorem play_transparent_retried :
    let crew : Bool → Task := fun h =>
      if h then .thread (.new "count" { effects := [.counted], panics := true }) 1
      else .idle (some .wait)
    let ms : List (Bool × Task.Occasion) :=
      [(true, .call (.failing (.renderContext "no display")) (.runner 0)),
        (false, .call .headless (.runner 1)), (true, .call .panicking (.runner 2)),
        (true, .call .quiet (.runner 3)), (true, .call .headless (.runner 4))]
    Task.Passes (crew false) (own false (play crew ms).2) ((play crew ms).1 false) ∧
      (own true (play crew ms).2).map (·.shown.count) = [0, 0, 1, 0] ∧
      (play crew ms).1 true = .thread { name := "count", job := none, state := .finished } 1 := by
  intro crew ms
  have hleft := (play_transparent crew ms true).2 _ 1 { effects := [.counted], panics := true }
    [.call (.failing (.renderContext "no display")) (.runner 0), .call .panicking (.runner 2)]
    [.call .headless (.runner 4)] .quiet (.runner 3) rfl (.new "count" _) rfl (by decide) rfl
    (by simp [Task.Occasion.acquires, ContextProvider.acquires, ContextProvider.failing,
      ContextProvider.panicking]) rfl
  exact ⟨(play_transparent crew ms false).1, by decide +kernel, hleft.1⟩

end Crew
end FeaturePipeline

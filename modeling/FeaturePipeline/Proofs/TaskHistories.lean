import Mathlib.Tactic.Common
import FeaturePipeline.Task.Thread

/-! Histories of a task: starts, for which the system has a thread or not, waits, and what the
worker does in between; panics are caught. Main statements: a task whose name a thread can have goes
from constructed over running to finished, and its history tells how far it has come; and the state
of a task is kept true by its starts exactly when the name holds no NUL. Under a name with a NUL the
first start loses the job and leaves the task as if it was never started. -/
namespace FeaturePipeline

def TaskState.rank : TaskState → Nat
  | constructed => 0
  | running => 1
  | finished => 2

namespace ThreadTask

inductive Act where
  /-- With the answer of the system to the request for a thread. -/
  | start (answer : Except String Unit)
  | wait
  /-- The worker shows its next `n` effects. -/
  | advance (n : Nat)

namespace Act

def starts : Act → Bool
  | start _ => true
  | _ => false

def waits : Act → Bool
  | wait => true
  | _ => false

def granted : Act → Bool
  | start (.error _) => false
  | _ => true

end Act

def act (t : ThreadTask) : Act → Ended Unit × ThreadTask × Trace
  | .start answer => t.tryStart answer
  | .wait => (.returned (), t.wait)
  | .advance n => (.returned (), t.advance n)

theorem act_wait_of_no_worker {t : ThreadTask} (h : t.worker = none) :
    t.act .wait = (.returned (), t, []) := by
  rw [act, wait_of_no_worker h]

def after (t : ThreadTask) (acts : List Act) : ThreadTask := acts.foldl (fun t a => (t.act a).2.1) t

@[simp] theorem after_nil (t : ThreadTask) : t.after [] = t := rfl

@[simp] theorem after_cons (t : ThreadTask) (a : Act) (acts : List Act) :
    t.after (a :: acts) = (t.act a).2.1.after acts := rfl

@[simp] theorem name_act (t : ThreadTask) (a : Act) : (t.act a).2.1.name = t.name := by
  cases a with
  | wait => exact name_wait t
  | advance n => exact name_advance n t
  | start answer =>
    cases hj : t.job with
    | none => rw [act, tryStart_of_no_job answer hj]
    | some job => by_cases hn : nul ∈ t.name.toList <;> cases answer <;> simp [act, tryStart, hj, hn]

@[simp] theorem name_after (t : ThreadTask) (acts : List Act) : (t.after acts).name = t.name := by
  induction acts generalizing t with
  | nil => rfl
  | cons a acts ih => rw [after_cons, ih, name_act]

/-- The state that an act leads to, under a name that a thread can have. -/
def next : TaskState → Act → TaskState
  | .constructed, .start (.ok ()) => .running
  | .constructed, .start (.error _) => .finished
  | .running, .wait => .finished
  | s, _ => s

/-- A task that was made with the given job, in one of its states. The job is held as long as there
was no start, and there is a worker to be joined exactly while the task is running. -/
inductive At (job : Job) : TaskState → ThreadTask → Prop where
  | constructed (name : String) : At job .constructed { name := name, job := some job }
  | running (name : String) {early later : List Effect} (h : job.effects = early ++ later) :
    At job .running
      { name := name, job := none, worker := some { job with effects := later }, state := .running }
  | finished (name : String) : At job .finished { name := name, job := none, state := .finished }

namespace At

variable {t : ThreadTask} {job : Job} {s : TaskState}

theorem state_eq (h : At job s t) : t.state = s := by
  cases h <;> rfl

theorem job_eq (h : At job .constructed t) : t.job = some job := by
  cases h
  rfl

theorem job_eq_none (h : At job s t) (hs : s ≠ .constructed) : t.job = none := by
  cases h with
  | constructed _ => exact absurd rfl hs
  | running _ _ | finished _ => rfl

theorem worker_eq_none (h : At job s t) (hs : s ≠ .running) : t.worker = none := by
  cases h with
  | running _ _ => exact absurd rfl hs
  | constructed _ | finished _ => rfl

theorem act (h : At job s t) (hn : nul ∉ t.name.toList) (a : Act) :
    At job (next s a) (t.act a).2.1 := by
  cases h with
  | constructed name =>
    cases a with
    | start answer =>
      simp only [ThreadTask.act, tryStart, if_neg hn]
      cases answer with
      | ok _ => exact .running name (List.nil_append _).symm
      | error reason => exact .finished name
    | wait | advance _ => exact .constructed name
  | @running name early later heffects =>
    cases a with
    | start _ => exact .running name heffects
    | wait => exact .finished name
    | advance n =>
      have hsplit : job.effects = (early ++ later.take n) ++ later.drop n := by
        rw [heffects, List.append_assoc, List.take_append_drop]
      exact .running name hsplit
  | finished name => cases a <;> exact .finished name

theorem after (h : At job s t) (hn : nul ∉ t.name.toList) (acts : List Act) :
    At job (acts.foldl next s) (t.after acts) := by
  induction acts generalizing s t with
  | nil => exact h
  | cons a acts ih => exact ih (h.act hn a) (by rwa [name_act])

end At

theorem rank_next (s : TaskState) (a : Act) : s.rank ≤ (next s a).rank := by
  cases s with
  | constructed => exact Nat.zero_le _
  | running => cases a <;> simp [next, TaskState.rank]
  | finished => exact Nat.le_refl _

theorem rank_foldl_next (s : TaskState) (acts : List Act) : s.rank ≤ (acts.foldl next s).rank := by
  induction acts generalizing s with
  | nil => exact Nat.le_refl _
  | cons a acts ih => exact Nat.le_trans (rank_next s a) (ih _)

def FirstStart (acts rest : List Act) : Prop :=
  ∃ before first, acts = before ++ first :: rest ∧ (∀ a ∈ before, a.starts = false) ∧
    first.starts = true

/-- Where a task is after a history in which no thread is refused. -/
inductive Leads : List Act → TaskState → Prop where
  | unstarted {acts : List Act} (h : ∀ a ∈ acts, a.starts = false) : Leads acts .constructed
  | unjoined {acts rest : List Act} (h : FirstStart acts rest) (hrest : ∀ a ∈ rest, a.waits = false) :
    Leads acts .running
  | joined {acts rest : List Act} (h : FirstStart acts rest) (hrest : ∃ a ∈ rest, a.waits = true) :
    Leads acts .finished

section Leads

variable {acts rest : List Act} {s : TaskState}

theorem exists_leads (acts : List Act) : ∃ s, Leads acts s := by
  cases h : acts.find? Act.starts with
  | none => exact ⟨_, .unstarted (by simpa using h)⟩
  | some first =>
    obtain ⟨hfirst, before, rest, hacts, hbefore⟩ := List.find?_eq_some_iff_append.mp h
    have hstart : FirstStart acts rest := ⟨before, first, hacts, by simpa using hbefore, hfirst⟩
    by_cases hrest : ∃ a ∈ rest, a.waits = true
    · exact ⟨_, .joined hstart hrest⟩
    · exact ⟨_, .unjoined hstart (by simpa using hrest)⟩

theorem foldl_next_of_unstarted (h : ∀ a ∈ acts, a.starts = false) :
    acts.foldl next .constructed = .constructed := by
  induction acts with
  | nil => rfl
  | cons a acts ih =>
    obtain ⟨ha, hacts⟩ := List.forall_mem_cons.mp h
    cases a with
    | start _ => cases ha
    | wait | advance _ => exact ih hacts

theorem foldl_next_finished (acts : List Act) : acts.foldl next .finished = .finished := by
  induction acts with
  | nil => rfl
  | cons a acts ih => exact ih

theorem foldl_next_running (acts : List Act) :
    acts.foldl next .running = if acts.any Act.waits then .finished else .running := by
  induction acts with
  | nil => rfl
  | cons a acts ih =>
    cases a with
    | wait => exact foldl_next_finished acts
    | start _ | advance _ => exact ih

theorem FirstStart.foldl_next (h : FirstStart acts rest) (hg : ∀ a ∈ acts, a.granted = true) :
    acts.foldl next .constructed = rest.foldl next .running := by
  obtain ⟨before, first, rfl, hbefore, hfirst⟩ := h
  rw [List.foldl_append, foldl_next_of_unstarted hbefore, List.foldl_cons]
  have hgranted : first.granted = true := hg first (by simp)
  cases first with
  | wait | advance _ => cases hfirst
  | start answer =>
    cases answer with
    | error _ => cases hgranted
    | ok _ => rfl

theorem Leads.foldl_next (h : Leads acts s) (hg : ∀ a ∈ acts, a.granted = true) :
    acts.foldl next .constructed = s := by
  cases h with
  | unstarted hnone => exact foldl_next_of_unstarted hnone
  | unjoined hstart hrest =>
    rw [hstart.foldl_next hg, foldl_next_running, if_neg (by simpa using hrest)]
  | joined hstart hrest =>
    rw [hstart.foldl_next hg, foldl_next_running, if_pos (List.any_eq_true.mpr hrest)]

theorem foldl_next_eq_iff (hg : ∀ a ∈ acts, a.granted = true) :
    acts.foldl next .constructed = s ↔ Leads acts s := by
  refine ⟨?_, fun h => h.foldl_next hg⟩
  rintro rfl
  obtain ⟨s, hs⟩ := exists_leads acts
  rwa [hs.foldl_next hg]

end Leads

/-- A task whose name a thread can have is in exactly one of the three states, and its history tells
in which. It never goes back, and a second start, a wait before the first start and a wait for a
finished task leave it as it is. -/
theorem lifecycle {name : String} (hn : nul ∉ name.toList) (job : Job) (acts : List Act)
    (hg : ∀ a ∈ acts, a.granted = true) :
    let t := (new name job).after acts
    (∃! s, At job s t) ∧ (∀ s, t.state = s ↔ Leads acts s) ∧
    (∀ more, t.state.rank ≤ (t.after more).state.rank) ∧
    ((∃ a ∈ acts, a.starts = true) → ∀ answer, t.act (.start answer) = (.returned (), t, [])) ∧
    (t.state = .finished → t.act .wait = (.returned (), t, [])) ∧
    ((∀ a ∈ acts, a.starts = false) → t.act .wait = (.returned (), t, [])) := by
  intro t
  have hat : At job (acts.foldl next .constructed) t := (At.constructed name).after hn acts
  have hstate (s : TaskState) : t.state = s ↔ Leads acts s := by
    rw [hat.state_eq, foldl_next_eq_iff hg]
  rw [← hat.state_eq] at hat
  refine ⟨⟨t.state, hat, fun s hs => hs.state_eq.symm⟩, hstate, fun more => ?_,
    fun ⟨a, ha, hstart⟩ answer => ?_, fun h => ?_, fun h => ?_⟩
  · have hname : t.name = name := name_after _ acts
    rw [(hat.after (by rwa [hname]) more).state_eq]
    exact rank_foldl_next _ more
  · refine tryStart_of_no_job answer (hat.job_eq_none fun hnew => ?_)
    cases (hstate _).mp hnew with
    | unstarted hnone =>
      rw [hnone a ha] at hstart
      cases hstart
  · exact act_wait_of_no_worker (hat.worker_eq_none (by rw [h]; decide))
  · have hnew : t.state = .constructed := (hstate _).mpr (.unstarted h)
    exact act_wait_of_no_worker (hat.worker_eq_none (by rw [hnew]; decide))

/-- A job that panics, waited for too early, started twice, and joined while the worker is at it. -/
theorem lifecycle_twice_started :
    let job : Job := { effects := [.counted, .counted], panics := true }
    let acts : List Act := [.wait, .start (.ok ()), .advance 1, .start (.ok ()), .wait]
    let t := (new "twice" job).after acts
    nul ∉ "twice".toList ∧ (∀ a ∈ acts, a.granted = true) ∧
      ((new "twice" job).after (acts.take 4)).state = .running ∧ Leads (acts.take 4) .running ∧
      t.state = .finished ∧ Leads acts .finished ∧
      t.act (.start (.ok ())) = (.returned (), t, []) ∧ t.act .wait = (.returned (), t, []) := by
  intro job acts t
  have hn : nul ∉ "twice".toList := by decide
  have hg : ∀ a ∈ acts, a.granted = true := by decide
  have hearly := lifecycle hn job (acts.take 4) (by decide)
  obtain ⟨-, hstate, -, hstart, hwait, -⟩ := lifecycle hn job acts hg
  have hrunning : ((new "twice" job).after (acts.take 4)).state = .running := by decide
  have hfinished : t.state = .finished := by decide
  exact ⟨hn, hg, hrunning, (hearly.2.1 _).mp hrunning, hfinished, (hstate _).mp hfinished,
    hstart (by decide) (.ok ()), hwait hfinished⟩

/-- A start that keeps the state true. A task that was started before is left alone. Any other hands
its job to a worker or tells why it does not, and then it is as it was, or finished. -/
inductive FairStart (t : ThreadTask) (answer : Except String Unit) :
    Ended Unit × ThreadTask × Trace → Prop where
  | again (hs : t.state ≠ .constructed) : FairStart t answer (.returned (), t, [])
  | runs {job : Job} (ha : answer = .ok ()) (hs : t.state = .constructed) (hj : t.job = some job) :
    FairStart t answer
      (.returned (), { t with job := none, worker := some job, state := .running }, [])
  | refused {reason : String} {u : ThreadTask} (ha : answer = .error reason)
    (hs : t.state = .constructed) (hu : u = t ∨ u.state = .finished) :
    FairStart t answer (.returned (), u, [.logged (refusalRecord t.name reason)])
  | unwinds {p : Panic} {u : ThreadTask} {shown : Trace} (hu : u = t ∨ u.state = .finished) :
    FairStart t answer (.panicked p, u, shown)

theorem At.fairStart {t : ThreadTask} {job : Job} {s : TaskState} (h : At job s t)
    (hn : nul ∉ t.name.toList) (answer : Except String Unit) :
    FairStart t answer (t.tryStart answer) := by
  cases h with
  | constructed name =>
    cases answer with
    | ok _ =>
      simp only [tryStart, if_neg hn]
      exact .runs rfl rfl rfl
    | error reason =>
      simp only [tryStart, if_neg hn]
      exact .refused rfl rfl (.inr rfl)
  | running _ _ | finished _ =>
    rw [tryStart_of_no_job answer rfl]
    exact .again (by simp)

/-- A task whose job is gone, though it looks as if it was never started. -/
def lost (name : String) : ThreadTask := { name := name, job := none }

section Nul

variable {name : String}

theorem after_lost (name : String) (acts : List Act) : (lost name).after acts = lost name := by
  induction acts with
  | nil => rfl
  | cons a acts ih => cases a <;> exact ih

theorem tryStart_new_of_nul (hn : nul ∈ name.toList) (job : Job) (answer : Except String Unit) :
    (new name job).tryStart answer = (.panicked .threadName, lost name, []) := by
  simp [tryStart, new, hn, lost]

/-- The first start loses the job, and nothing after it makes a difference. -/
theorem after_new_of_nul (hn : nul ∈ name.toList) (job : Job) (acts : List Act) :
    (new name job).after acts = if acts.any Act.starts then lost name else new name job := by
  induction acts with
  | nil => rfl
  | cons a acts ih =>
    cases a with
    | start answer =>
      rw [after_cons, act, tryStart_new_of_nul hn]
      exact after_lost name acts
    | wait | advance _ => exact ih

theorem not_fairStart_lost (answer : Except String Unit) :
    ¬FairStart (lost name) answer ((lost name).tryStart answer) := by
  rw [tryStart_of_no_job answer rfl]
  intro h
  cases h with
  | again hs => exact hs rfl

theorem not_fairStart_new (hn : nul ∈ name.toList) (job : Job) (answer : Except String Unit) :
    ¬FairStart (new name job) answer ((new name job).tryStart answer) := by
  rw [tryStart_new_of_nul hn]
  intro h
  cases h with
  | unwinds hu => rcases hu with hu | hu <;> cases hu

theorem not_fairStart_after (hn : nul ∈ name.toList) (job : Job) (acts : List Act)
    (answer : Except String Unit) :
    ¬FairStart ((new name job).after acts) answer (((new name job).after acts).tryStart answer) := by
  rw [after_new_of_nul hn]
  split
  · exact not_fairStart_lost answer
  · exact not_fairStart_new hn job answer

theorem job_after_iff_of_nul (hn : nul ∈ name.toList) (job : Job) (acts : List Act) :
    (((new name job).after acts).state = .constructed →
      ((new name job).after acts).job = some job) ↔ ∀ a ∈ acts, a.starts = false := by
  rw [after_new_of_nul hn]
  cases hstarted : acts.any Act.starts with
  | true =>
    obtain ⟨a, ha, hstart⟩ := List.any_eq_true.mp hstarted
    refine iff_of_false (fun h => ?_) (fun h => ?_)
    · cases h rfl
    · rw [h a ha] at hstart
      cases hstart
  | false => exact iff_of_true (fun _ => rfl) (by simpa using hstarted)

end Nul

/-- After any history a task that looks as if it was never started still holds its job, unless its
name holds a NUL and it was started. Its next start keeps the state true exactly when the name holds
no NUL, whatever the history was and whatever the system answers. -/
theorem fairStart_iff (name : String) (job : Job) (acts : List Act) :
    let t := (new name job).after acts
    ((t.state = .constructed → t.job = some job) ↔
      (nul ∈ name.toList → ∀ a ∈ acts, a.starts = false)) ∧
    ∀ answer, FairStart t answer (t.tryStart answer) ↔ nul ∉ name.toList := by
  intro t
  by_cases hn : nul ∈ name.toList
  · refine ⟨(job_after_iff_of_nul hn job acts).trans ⟨fun h _ => h, fun h => h hn⟩, fun answer => ?_⟩
    exact iff_of_false (not_fairStart_after hn job acts answer) (not_not_intro hn)
  · have hat : At job (acts.foldl next .constructed) t := (At.constructed name).after hn acts
    have hname : nul ∉ t.name.toList := by rwa [show t.name = name from name_after _ acts]
    refine ⟨iff_of_true (fun h => ?_) (fun h => absurd h hn),
      fun answer => iff_of_true (hat.fairStart hname answer) hn⟩
    rw [hat.state_eq] at h
    exact (h ▸ hat).job_eq

/-- The first start panics and loses the job; the second one does nothing and says nothing. -/
theorem start_loses_job :
    let t := new "a\x00b" { effects := [.counted] }
    let u := t.after [.start (.ok ())]
    t.start = (.panicked .threadName, u, []) ∧ u.state = .constructed ∧ u.job = none ∧ u ≠ t ∧
      u.tryStart (.ok ()) = (.returned (), u, []) := by
  decide +kernel

end ThreadTask
end FeaturePipeline

import Mathlib.Tactic.Common
import FeaturePipeline.Task.Pool

/-! The life of a task: what happens between the moment when it is made and the moment when it is
given up, whatever the pace of its worker. Main statement: a task runs its job once, from the first
start on, or never, and a panic of the job is reported by the first join. -/
namespace FeaturePipeline

def Job.counts (job : Job) : Nat := job.effects.count .counted

@[simp] theorem Trace.count_ofEffects (es : List Effect) :
    (Trace.ofEffects es).count = es.count .counted := by
  induction es with
  | nil => rfl
  | cons e es ih =>
    have hcons : Trace.ofEffects (e :: es) = [e.observation] ++ Trace.ofEffects es := rfl
    rw [hcons, Trace.count_append, ih, Nat.add_comm, List.count_cons]
    cases e <;> rfl

def Job.report (name : String) (job : Job) : Trace :=
  if job.panics then [.logged (ThreadTask.panicRecord name)] else []

@[simp] theorem Job.count_report (name : String) (job : Job) : (job.report name).count = 0 := by
  unfold report
  split <;> rfl

namespace Pool

namespace Moment

def handle : Moment → String
  | .step (.make h _ _) => h
  | .step (.start h) => h
  | .step (.wait h) => h
  | .step (.drop h) => h
  | .advance h _ => h

def starts : Moment → Bool
  | .step (.start _) => true
  | _ => false

def givesUp : Moment → Bool
  | .step (.make _ _ _) => true
  | .step (.drop _) => true
  | _ => false

def joins : Moment → Bool
  | .step (.wait _) => true
  | m => m.givesUp

def Nameable : Moment → Prop
  | .step (.make _ name _) => ThreadTask.nul ∉ name.toList
  | _ => True

instance : DecidablePred Nameable
  | .step (.make _ name _) => inferInstanceAs (Decidable (ThreadTask.nul ∉ name.toList))
  | .step (.start _) => .isTrue trivial
  | .step (.wait _) => .isTrue trivial
  | .step (.drop _) => .isTrue trivial
  | .advance _ _ => .isTrue trivial

theorem givesUp_cases {m : Moment} (h : m.givesUp = true) :
    (∃ k name job, m = .step (.make k name job)) ∨ ∃ k, m = .step (.drop k) := by
  cases m with
  | advance _ _ => cases h
  | step s =>
    cases s with
    | make k name job => exact .inl ⟨k, name, job, rfl⟩
    | drop k => exact .inr ⟨k, rfl⟩
    | start _ | wait _ => cases h

theorem joins_of_givesUp {m : Moment} (h : m.givesUp = true) : m.joins = true := by
  obtain ⟨k, name, job, rfl⟩ | ⟨k, rfl⟩ := givesUp_cases h <;> rfl

theorem starts_of_givesUp {m : Moment} (h : m.givesUp = true) : m.starts = false := by
  obtain ⟨k, name, job, rfl⟩ | ⟨k, rfl⟩ := givesUp_cases h <;> rfl

end Moment

/-- A moment of a run: the job that was handed to a worker in it, how it ended, and what it
showed. -/
structure Entry where
  moment : Moment
  handed : Option Job
  ended : Ended Unit
  shown : Trace

/-- No job is handed over, and nothing is shown. -/
structure Entry.Quiet (e : Entry) : Prop where
  handed : e.handed = none
  shown : e.shown = []

def newJob (before after : Option Job) : Option Job := if before = none then after else none

@[simp] theorem newJob_none (before : Option Job) : newJob before none = none := ite_self none

def worker? (p : Pool) (handle : String) : Option Job := (p.task? handle).bind (·.worker)

def entry (p : Pool) (m : Moment) : Entry :=
  let now := p.moment m
  ⟨m, newJob (p.worker? m.handle) (now.2.1.worker? m.handle), now.1, now.2.2⟩

@[simp] theorem moment_entry (p : Pool) (m : Moment) : (p.entry m).moment = m := rfl

def entries (p : Pool) : List Moment → List Entry
  | [] => []
  | m :: rest => p.entry m :: entries (p.moment m).2.1 rest

def shown (es : List Entry) : Trace := es.flatMap (·.shown)

@[simp] theorem shown_nil : shown [] = [] := rfl

@[simp] theorem shown_cons (e : Entry) (es : List Entry) : shown (e :: es) = e.shown ++ shown es :=
  rfl

theorem shown_of_quiet {es : List Entry} (h : ∀ e ∈ es, e.Quiet) : shown es = [] := by
  rw [shown, List.flatMap_eq_nil_iff]
  exact fun e he => (h e he).shown

theorem map_entries (p : Pool) (ms : List Moment) :
    (p.entries ms).map (fun e => (e.ended, e.shown)) = (p.play ms).2 := by
  induction ms generalizing p with
  | nil => rfl
  | cons m rest ih => simp only [entries, play, List.map_cons, ih, entry]

/-- What happens to the task under a handle: the entries of the handle, up to the one in which the
task is given up. -/
def lifetime (h : String) : List Entry → List Entry
  | [] => []
  | e :: rest =>
    if e.moment.handle = h then
      if e.moment.givesUp then [e] else e :: lifetime h rest
    else lifetime h rest

structure Life where
  name : String
  job : Job
  deeds : List Entry

def Life.isStarted (l : Life) : Bool := l.deeds.any (·.moment.starts)

def lives : List Entry → List Life
  | [] => []
  | e :: rest =>
    match e.moment with
    | .step (.make h name job) => ⟨name, job, lifetime h rest⟩ :: lives rest
    | _ => lives rest

/-- What a task does from its start on. Until its worker is joined it shows a first part of its
job; the join shows the rest and reports a panic. -/
inductive Underway (name : String) (job : Job) : List Entry → Prop where
  | unjoined {busy : List Entry} {early later : List Effect}
    (heffects : job.effects = early ++ later)
    (hbusy : ∀ e ∈ busy, e.moment.joins = false ∧ e.handed = none)
    (hearly : shown busy = Trace.ofEffects early) : Underway name job busy
  | joined {busy : List Entry} {join : Entry} {rest : List Entry} {early later : List Effect}
    (heffects : job.effects = early ++ later)
    (hbusy : ∀ e ∈ busy, e.moment.joins = false ∧ e.handed = none)
    (hearly : shown busy = Trace.ofEffects early)
    (hjoin : join.moment.joins = true) (hhanded : join.handed = none)
    (hlater : join.shown = Trace.ofEffects later ++ job.report name)
    (hrest : ∀ e ∈ rest, e.Quiet) : Underway name job (busy ++ join :: rest)

/-- A job that is run at most once, and only if there is a start: the first start hands it to a
worker, and nothing else does. -/
inductive RunsOnce (name : String) (job : Job) : List Entry → Prop where
  | unstarted {idle : List Entry} (hidle : ∀ e ∈ idle, e.moment.starts = false ∧ e.Quiet) :
    RunsOnce name job idle
  | started {idle : List Entry} {start : Entry} {rest : List Entry}
    (hidle : ∀ e ∈ idle, e.moment.starts = false ∧ e.Quiet)
    (hstart : start.moment.starts = true) (hhanded : start.handed = some job)
    (hshown : start.shown = []) (hrest : Underway name job rest) :
    RunsOnce name job (idle ++ start :: rest)

end Pool

namespace ThreadTask

open Pool

/-- What a moment does to the task under its handle. Making another task there and dropping the
task join its worker, as a wait does. -/
def meet (t : ThreadTask) (m : Moment) : Ended Unit × ThreadTask × Trace :=
  match m with
  | .step (.start _) => t.start
  | .advance _ n => (.returned (), t.advance n)
  | _ => (.returned (), t.wait)

def entry (t : ThreadTask) (m : Moment) : Entry :=
  ⟨m, newJob t.worker (t.meet m).2.1.worker, (t.meet m).1, (t.meet m).2.2⟩

structure Fresh (t : ThreadTask) (job : Job) : Prop where
  nameable : nul ∉ t.name.toList
  untaken : t.job = some job
  worker : t.worker = none
  state : t.state ≠ .running

/-- Started and not joined; the worker has the given job still to do. -/
structure Busy (t : ThreadTask) (job : Job) : Prop where
  taken : t.job = none
  worker : t.worker = some job
  state : t.state = .running

structure Spent (t : ThreadTask) : Prop where
  taken : t.job = none
  worker : t.worker = none

theorem fresh_new {name : String} (hn : nul ∉ name.toList) (job : Job) : (new name job).Fresh job :=
  ⟨hn, rfl, rfl, nofun⟩

/-- What happens to a task, moment by moment, and what is left of it if it is not given up. -/
inductive Lived : ThreadTask → List Entry → Option ThreadTask → Prop where
  | nil (t : ThreadTask) : Lived t [] (some t)
  | last (t : ThreadTask) {m : Moment} (hm : m.givesUp = true) : Lived t [t.entry m] none
  | cons {t : ThreadTask} {m : Moment} {es : List Entry} {left : Option ThreadTask}
    (hm : m.givesUp = false) (rest : Lived (t.meet m).2.1 es left) :
    Lived t (t.entry m :: es) left

section Meet

variable {t : ThreadTask} {m : Moment} {job : Job}

theorem meet_of_joins (h : m.joins = true) : t.meet m = (.returned (), t.wait) := by
  cases m with
  | advance _ _ => cases h
  | step s =>
    cases s with
    | start _ => cases h
    | _ => rfl

theorem meet_of_spent (h : t.Spent) (m : Moment) : t.meet m = (.returned (), t, []) := by
  cases m with
  | advance _ n => simp [meet, advance_of_no_worker n h.worker]
  | step s => cases s <;> simp [meet, start_of_no_job h.taken, wait_of_no_worker h.worker]

theorem quiet_entry_of_spent (h : t.Spent) (m : Moment) : (t.entry m).Quiet := by
  have hmeet := meet_of_spent h m
  constructor
  · simp [entry, hmeet, newJob, h.worker]
  · simp [entry, hmeet]

theorem meet_of_fresh (h : t.Fresh job) (hm : m.starts = false) :
    t.meet m = (.returned (), t, []) := by
  cases m with
  | advance _ n => simp [meet, advance_of_no_worker n h.worker]
  | step s =>
    cases s with
    | start _ => cases hm
    | _ => simp [meet, wait_of_no_worker h.worker]

theorem quiet_entry_of_fresh (h : t.Fresh job) (hm : m.starts = false) : (t.entry m).Quiet := by
  have hmeet := meet_of_fresh h hm
  constructor
  · simp [entry, hmeet, newJob, h.worker]
  · simp [entry, hmeet]

theorem meet_start_of_fresh (h : t.Fresh job) (hm : m.starts = true) :
    t.meet m =
      (.returned (), { t with job := none, worker := some job, state := .running }, []) := by
  cases m with
  | advance _ _ => cases hm
  | step s =>
    cases s with
    | start _ => simp [meet, start_of_job h.untaken h.nameable]
    | _ => cases hm

theorem meet_of_busy (h : t.Busy job) (hm : m.joins = false) :
    ∃ early later, job.effects = early ++ later ∧
      t.meet m = (.returned (), { t with worker := some { job with effects := later } },
        Trace.ofEffects early) := by
  cases m with
  | advance _ n =>
    refine ⟨job.effects.take n, job.effects.drop n, (List.take_append_drop n _).symm, ?_⟩
    simp [meet, advance, h.worker]
  | step s =>
    cases s with
    | start _ =>
      refine ⟨[], job.effects, rfl, ?_⟩
      simp [meet, start_of_no_job h.taken, ← h.worker, Trace.ofEffects]
    | _ => cases hm

theorem meet_join_of_busy (h : t.Busy job) (hm : m.joins = true) :
    t.meet m = (.returned (), { t with worker := none, state := .finished },
      Trace.ofEffects job.effects ++ job.report t.name) := by
  rw [meet_of_joins hm]
  simp only [wait, h.worker]
  rfl

variable (t m)

@[simp] theorem name_meet : (t.meet m).2.1.name = t.name := by
  cases m with
  | advance _ n => simp [meet]
  | step s => cases s <;> simp [meet]

variable {t} in
/-- A start is the only call that can unwind, and only for the name of the task. -/
theorem meet_fst (hn : nul ∉ t.name.toList) : (t.meet m).1 = .returned () := by
  cases m with
  | advance _ _ => rfl
  | step s =>
    cases s with
    | make _ _ _ | wait _ | drop _ => rfl
    | start _ =>
      cases hj : t.job with
      | none => simp [meet, start_of_no_job hj]
      | some job => simp [meet, start_of_job hj hn]

end Meet

variable {t : ThreadTask} {job : Job} {es : List Entry} {left : Option ThreadTask}

theorem underway_cons {name : String} {e : Entry} {early later : List Effect}
    (heffects : job.effects = early ++ later) (hjoins : e.moment.joins = false)
    (hhanded : e.handed = none) (hshown : e.shown = Trace.ofEffects early)
    (h : Underway name { job with effects := later } es) : Underway name job (e :: es) := by
  cases h with
  | @unjoined _ more rest heff hbusy hearly =>
    have hall : job.effects = (early ++ more) ++ rest := by
      rw [heffects, List.append_assoc]
      exact congrArg (early ++ ·) heff
    refine .unjoined hall (List.forall_mem_cons.mpr ⟨⟨hjoins, hhanded⟩, hbusy⟩) ?_
    rw [shown_cons, hshown, hearly, Trace.ofEffects_append]
  | @joined busy join more rest last heff hbusy hearly hjoin hnone hlater hrest =>
    have hall : job.effects = (early ++ rest) ++ last := by
      rw [heffects, List.append_assoc]
      exact congrArg (early ++ ·) heff
    rw [← List.cons_append]
    refine .joined hall (List.forall_mem_cons.mpr ⟨⟨hjoins, hhanded⟩, hbusy⟩) ?_ hjoin hnone
      hlater hrest
    rw [shown_cons, hshown, hearly, Trace.ofEffects_append]

theorem underway_join {name : String} {join : Entry} (hjoin : join.moment.joins = true)
    (hhanded : join.handed = none)
    (hshown : join.shown = Trace.ofEffects job.effects ++ job.report name)
    (hrest : ∀ e ∈ es, e.Quiet) : Underway name job (join :: es) := by
  rw [← List.nil_append (join :: es)]
  exact .joined (List.nil_append _).symm (by simp) rfl hjoin hhanded hshown hrest

theorem runsOnce_cons {name : String} {e : Entry} (hstarts : e.moment.starts = false)
    (hquiet : e.Quiet) (h : RunsOnce name job es) : RunsOnce name job (e :: es) := by
  cases h with
  | unstarted hidle => exact .unstarted (List.forall_mem_cons.mpr ⟨⟨hstarts, hquiet⟩, hidle⟩)
  | started hidle hstart hhanded hshown hrest =>
    rw [← List.cons_append]
    exact .started (List.forall_mem_cons.mpr ⟨⟨hstarts, hquiet⟩, hidle⟩) hstart hhanded hshown hrest

namespace Lived

theorem quiet_of_spent (h : t.Lived es left) (hs : t.Spent) : ∀ e ∈ es, e.Quiet := by
  induction h with
  | nil _ => simp
  | last t _ => simpa using quiet_entry_of_spent hs _
  | cons _ _ ih =>
    rw [meet_of_spent hs] at ih
    exact List.forall_mem_cons.mpr ⟨quiet_entry_of_spent hs _, ih hs⟩

theorem underway_of_busy (h : t.Lived es left) (hb : t.Busy job) : Underway t.name job es := by
  -- The worker's job shrinks as it is shown, so the job varies.
  induction h generalizing job with
  | nil t => exact .unjoined (List.nil_append _).symm (by simp) rfl
  | @last t m hm =>
    have hmeet := meet_join_of_busy hb (Moment.joins_of_givesUp hm)
    exact underway_join (Moment.joins_of_givesUp hm) (by simp [entry, newJob, hb.worker])
      (by simp [entry, hmeet]) (by simp)
  | @cons t m es left hm rest ih =>
    have hhanded : (t.entry m).handed = none := by simp [entry, newJob, hb.worker]
    cases hj : m.joins with
    | true =>
      have hmeet := meet_join_of_busy hb hj
      rw [hmeet] at rest
      have hspent := rest.quiet_of_spent ⟨hb.taken, rfl⟩
      exact underway_join hj hhanded (by simp [entry, hmeet]) hspent
    | false =>
      obtain ⟨early, later, heffects, hmeet⟩ := meet_of_busy hb hj
      rw [hmeet] at ih
      have hlater : Underway t.name { job with effects := later } es :=
        ih ⟨hb.taken, rfl, hb.state⟩
      exact underway_cons heffects hj hhanded (by simp [entry, hmeet]) hlater

theorem runsOnce_of_fresh (h : t.Lived es left) (hf : t.Fresh job) : RunsOnce t.name job es := by
  induction h with
  | nil t => exact .unstarted (by simp)
  | @last t m hm =>
    have hstarts := Moment.starts_of_givesUp hm
    exact runsOnce_cons hstarts (quiet_entry_of_fresh hf hstarts) (.unstarted (by simp))
  | @cons t m es left hm rest ih =>
    cases hstarts : m.starts with
    | true =>
      have hmeet := meet_start_of_fresh hf hstarts
      rw [hmeet] at rest
      have hunderway := rest.underway_of_busy ⟨rfl, rfl, rfl⟩
      rw [← List.nil_append (t.entry m :: es)]
      exact .started (by simp) hstarts (by simp [entry, hmeet, newJob, hf.worker])
        (by simp [entry, hmeet]) hunderway
    | false =>
      rw [meet_of_fresh hf hstarts] at ih
      exact runsOnce_cons hstarts (quiet_entry_of_fresh hf hstarts) (ih hf)

theorem count_of_busy (h : t.Lived es left) (hb : t.Busy job)
    (hleft : ∀ u, left = some u → u.state ≠ .running) : (shown es).count = job.counts := by
  induction h generalizing job with
  | nil t => exact absurd hb.state (hleft t rfl)
  | @last t m hm =>
    have hmeet := meet_join_of_busy hb (Moment.joins_of_givesUp hm)
    simp [entry, hmeet, Job.counts]
  | @cons t m es left hm rest ih =>
    cases hj : m.joins with
    | true =>
      have hmeet := meet_join_of_busy hb hj
      rw [hmeet] at rest
      have hrest := shown_of_quiet (rest.quiet_of_spent ⟨hb.taken, rfl⟩)
      simp [entry, hmeet, hrest, Job.counts]
    | false =>
      obtain ⟨early, later, heffects, hmeet⟩ := meet_of_busy hb hj
      rw [hmeet] at ih
      have hlater : (shown es).count = Job.counts { job with effects := later } :=
        ih ⟨hb.taken, rfl, hb.state⟩ hleft
      simp [entry, hmeet, hlater, Job.counts, heffects]

theorem count_of_fresh (h : t.Lived es left) (hf : t.Fresh job)
    (hleft : ∀ u, left = some u → u.state ≠ .running) :
    (shown es).count = if es.any (·.moment.starts) then job.counts else 0 := by
  induction h with
  | nil t => rfl
  | @last t m hm =>
    have hstarts := Moment.starts_of_givesUp hm
    have hmeet := meet_of_fresh hf hstarts
    simp [entry, hmeet, hstarts]
  | @cons t m es left hm rest ih =>
    cases hstarts : m.starts with
    | true =>
      have hmeet := meet_start_of_fresh hf hstarts
      rw [hmeet] at rest
      have hrest : (shown es).count = job.counts := rest.count_of_busy ⟨rfl, rfl, rfl⟩ hleft
      simp [entry, hmeet, hstarts, hrest]
    | false =>
      have hmeet := meet_of_fresh hf hstarts
      rw [hmeet] at ih
      have hrest := ih hf hleft
      simp [entry, hmeet, hstarts, hrest]

end Lived
end ThreadTask
end FeaturePipeline

import Mathlib.Data.List.Forall2
import FeaturePipeline.DryRun
import FeaturePipeline.Proofs.TaskRun

/-! A session with rendering contexts against the same session without any. Main statement: turn by
turn the answer, the strategies handed over and the calls of the tasks are the same, and so is the
log once the two records about the context and the word on the GPU are taken out of it. -/
namespace FeaturePipeline

/-- The two tasks do the same work. A worker need not be as fast as the other one. -/
inductive Task.SameWork : Task → Task → Prop where
  | idle (panics : Option PanicPoint) : SameWork (.idle panics) (.idle panics)
  | thread (task : ThreadTask) (pace pace' : Nat) :
    SameWork (.thread task pace) (.thread task pace')

theorem DryRun.sameWork_factory (pace pace' : Nat) (s : Strategy) :
    (DryRun.factory pace s).SameWork (DryRun.factory pace' s) := .thread _ _ _

namespace Task

variable (on : Thread) (t : Task)

theorem drop_of_return (h : (t.run on).1 = .returned ()) : (t.run on).2.1.drop = [] := by
  cases t with
  | idle p => rcases p with _ | (_ | _) <;> rfl
  | thread t pace =>
    cases hs : t.start.1 with
    | panicked q => simp [run, start, hs] at h
    | returned u => simp [run, start, wait, hs, drop, ThreadTask.drop]

def logged : List Log.Record := (t.run on).2.2.records ++ (t.run on).2.1.drop.records

@[simp] theorem logged_idle (p : Option PanicPoint) : (idle p).logged on = [] := by
  rcases p with _ | (_ | _) <;> rfl

@[simp] theorem logged_thread (t : ThreadTask) (pace : Nat) :
    (thread t pace).logged on = t.start.2.1.wait.2.records := by
  have hsplit := congrArg Trace.records (ThreadTask.advance_append_wait pace t.start.2.1)
  rw [Trace.records_append] at hsplit
  cases hs : t.start.1 with
  | panicked q => simpa [logged, run, start, hs, drop, ThreadTask.drop] using hsplit
  | returned u => simpa [logged, run, start, wait, hs, drop, ThreadTask.drop] using hsplit

variable {t} {u : Task}

theorem SameWork.logged (h : t.SameWork u) (x y : Thread) : t.logged x = u.logged y := by
  cases h <;> simp

theorem SameWork.starts (h : t.SameWork u) : t.starts = u.starts := by
  cases h <;> rfl

theorem SameWork.run_fst (h : t.SameWork u) (x y : Thread) : (t.run x).1 = (u.run y).1 := by
  rw [(t.run_thread_eq x y).1]
  cases h with
  | idle p => rfl
  | thread t m n =>
    simp only [run, start, wait]
    cases t.start.1 <;> rfl

end Task

namespace Log

def contextRecords : List Record :=
  ContextProvider.headless.acquired ++ ContextProvider.headless.released

/-- The word on the GPU at the end of what is logged about a dispatch. -/
def gpuFlag (gpu : Bool) : List Char := s!" (gpu: {gpu})".toList

def withoutFlag (message : List Char) : List Char :=
  if (gpuFlag true).isSuffixOf message then message.take (message.length - (gpuFlag true).length)
  else if (gpuFlag false).isSuffixOf message then
    message.take (message.length - (gpuFlag false).length)
  else message

def Record.withoutFlag (r : Record) : Record :=
  if r.level = .debug ∧ r.source = .dispatch then
    { r with message := String.ofList (Log.withoutFlag r.message.toList) }
  else r

/-- The log without the records about a context, and without the words on the GPU. -/
def erased (rs : List Record) : List Record :=
  (rs.filter (· ∉ contextRecords)).map Record.withoutFlag

@[simp] theorem erased_append (rs ss : List Record) :
    erased (rs ++ ss) = erased rs ++ erased ss := by
  simp [erased]

theorem erased_of_context {rs : List Record} (h : ∀ r ∈ rs, r ∈ contextRecords) :
    erased rs = [] := by
  have hnone : rs.filter (· ∉ contextRecords) = [] := by
    rw [List.filter_eq_nil_iff]
    intro r hr
    simpa using h r hr
  rw [erased, hnone, List.map_nil]

theorem withoutFlag_append (plan : List Char) (gpu : Bool) :
    withoutFlag (plan ++ gpuFlag gpu) = plan := by
  have hsuffix : (gpuFlag gpu).isSuffixOf (plan ++ gpuFlag gpu) = true := by
    rw [List.isSuffixOf_iff_suffix]
    exact List.suffix_append plan _
  have htake : (plan ++ gpuFlag gpu).take ((plan ++ gpuFlag gpu).length - (gpuFlag gpu).length) =
      plan := by
    simp
  cases gpu with
  | true => rw [withoutFlag, if_pos hsuffix, htake]
  | false =>
    have hother : ¬ (gpuFlag true).isSuffixOf (plan ++ gpuFlag false) = true := by
      rw [List.isSuffixOf_iff_suffix]
      intro h
      have hends := List.suffix_of_suffix_length_le h (List.suffix_append plan _) (by decide)
      exact absurd hends (by decide)
    rw [withoutFlag, if_neg hother, if_pos hsuffix, htake]

def dispatching (plan : String) (gpu : Bool) : Record :=
  ⟨.debug, .dispatch, s!"Dispatching {plan} (gpu: {gpu})"⟩

theorem withoutFlag_dispatching (plan : String) (gpu : Bool) :
    (dispatching plan gpu).withoutFlag = ⟨.debug, .dispatch, s!"Dispatching {plan}"⟩ := by
  have hmessage : (dispatching plan gpu).message.toList =
      (s!"Dispatching {plan}").toList ++ gpuFlag gpu := by
    simp [dispatching, gpuFlag]
  rw [Record.withoutFlag, if_pos ⟨rfl, rfl⟩, hmessage, withoutFlag_append, String.ofList_toList]
  rfl

theorem erased_dispatching (plan : String) (gpu : Bool) :
    erased [dispatching plan gpu] = [⟨.debug, .dispatch, s!"Dispatching {plan}"⟩] := by
  have hkept : dispatching plan gpu ∉ contextRecords := by
    simp [dispatching, contextRecords, ContextProvider.headless]
  rw [erased, List.filter_cons_of_pos (by simpa using hkept), List.filter_nil, List.map_singleton,
    withoutFlag_dispatching]

end Log

def ContextProvider.LogsContext (p : ContextProvider) : Prop :=
  ∀ r ∈ p.acquired ++ p.released, r ∈ Log.contextRecords

def Call.isOfContext : Call → Bool
  | .acquire => true
  | .start => false
  | .wait => false
  | .release => true

/-- The calls of the tasks alone, whatever thread they are on. -/
def forgetContext (calls : List (Call × Thread)) : List Call :=
  (calls.map (·.1)).filter (! ·.isOfContext)

namespace Dispatcher

variable (d : Dispatcher) (s : Strategy)

theorem runTask_plain (h : d.usesGpu s = false) :
    d.runTask s = (((d.factory s).run .caller).1.map .ok, ((d.factory s).run .caller).2.1,
      .built s :: ((d.factory s).run .caller).2.2) := by
  simp [runTask, build, h]

theorem runTask_inContext (h : d.usesGpu s = true) (ha : d.provider.acquire = .returned (.ok ())) :
    d.runTask s = (((d.factory s).run (.runner d.runner)).1.map .ok,
      ((d.factory s).run (.runner d.runner)).2.1,
      .built s :: .called .acquire (.runner d.runner) :: d.provider.acquired.map .logged ++
        ((d.factory s).run (.runner d.runner)).2.2 ++
        .called .release (.runner d.runner) :: d.provider.released.map .logged) := by
  simp [runTask, build, h, ContextProvider.run, ha]

/-- What is logged when the run of a strategy is over, if it is over without a fault. -/
def completion : Ended (Except PipelineError Unit) → List Log.Record
  | .returned (.ok ()) => [⟨.debug, .dispatch, s!"{s.kind.name} completed"⟩]
  | _ => []

/-- A task that returned shows nothing after the completion is logged, and one that panicked is
never completed. -/
theorem completion_append_drop (t : Task) (x : Thread) :
    completion s ((t.run x).1.map .ok) ++ (t.run x).2.1.drop.records =
      (t.run x).2.1.drop.records ++ completion s ((t.run x).1.map .ok) := by
  cases h : (t.run x).1 with
  | returned u => simp [t.drop_of_return x h]
  | panicked p => simp [completion]

/-- What is logged from the moment when the task of a strategy is there. -/
def logged : List Log.Record :=
  (d.runTask s).2.2.records ++ (completion s (d.runTask s).1 ++ (d.runTask s).2.1.drop.records)

theorem records_perform :
    (d.perform s).2.records = Log.dispatching s.plan (d.usesGpu s) :: d.logged s := by
  simp only [perform, logged]
  split <;> simp_all [record, completion, Log.dispatching]

theorem logged_plain (h : d.usesGpu s = false) :
    d.logged s = (d.factory s).logged .caller ++
      completion s (((d.factory s).run .caller).1.map .ok) := by
  rw [logged, d.runTask_plain s h, completion_append_drop, Task.logged, List.append_assoc]
  rfl

theorem erased_logged_inContext (h : d.usesGpu s = true)
    (ha : d.provider.acquire = .returned (.ok ())) (hp : d.provider.LogsContext) :
    Log.erased (d.logged s) = Log.erased ((d.factory s).logged (.runner d.runner) ++
      completion s (((d.factory s).run (.runner d.runner)).1.map .ok)) := by
  have hacquired : Log.erased d.provider.acquired = [] :=
    Log.erased_of_context fun r hr => hp r (List.mem_append_left _ hr)
  have hreleased : Log.erased d.provider.released = [] :=
    Log.erased_of_context fun r hr => hp r (List.mem_append_right _ hr)
  rw [logged, d.runTask_inContext s h ha, completion_append_drop, Task.logged]
  simp [hacquired, hreleased]

/-- Two dispatchers for tasks that do the same work. The first runs a task in a context when its
strategy asks for the GPU; the second never does. -/
structure Twins (d e : Dispatcher) : Prop where
  on : d.gpu = true
  off : e.gpu = false
  acquire : d.provider.acquire = .returned (.ok ())
  work : ∀ s, (d.factory s).SameWork (e.factory s)

namespace Twins

variable {d e : Dispatcher} {s : Strategy}

theorem runTask_fst (h : d.Twins e) : (d.runTask s).1 = (e.runTask s).1 := by
  have he : e.usesGpu s = false := by simp [usesGpu, h.off]
  rw [e.runTask_plain s he]
  cases hd : d.usesGpu s with
  | false => rw [d.runTask_plain s hd, (h.work s).run_fst .caller .caller]
  | true => rw [d.runTask_inContext s hd h.acquire, (h.work s).run_fst _ .caller]

theorem calls_runTask (h : d.Twins e) :
    forgetContext (d.runTask s).2.2.calls = forgetContext (e.runTask s).2.2.calls := by
  have he : e.usesGpu s = false := by simp [usesGpu, h.off]
  have hp : d.provider.acquires = true := d.provider.acquires_eq_true_iff.mpr h.acquire
  rw [Dispatcher.calls_runTask, Dispatcher.calls_runTask, he, ContextProvider.calls_run, hp]
  simp only [Task.calls_run, (h.work s).starts]
  cases d.usesGpu s <;> cases (e.factory s).starts <;> rfl

theorem erased_logged (h : d.Twins e) (hp : d.provider.LogsContext) :
    Log.erased (d.logged s) = Log.erased (e.logged s) := by
  have he : e.usesGpu s = false := by simp [usesGpu, h.off]
  rw [e.logged_plain s he]
  cases hd : d.usesGpu s with
  | false =>
    rw [d.logged_plain s hd, (h.work s).logged .caller .caller,
      (h.work s).run_fst .caller .caller]
  | true =>
    rw [d.erased_logged_inContext s hd h.acquire hp, (h.work s).logged _ .caller,
      (h.work s).run_fst _ .caller]

theorem erased_perform (h : d.Twins e) (hp : d.provider.LogsContext) :
    Log.erased (d.perform s).2.records = Log.erased (e.perform s).2.records := by
  rw [records_perform, records_perform, ← List.singleton_append, Log.erased_append,
    Log.erased_dispatching, h.erased_logged hp, ← Log.erased_dispatching _ (e.usesGpu s),
    ← Log.erased_append, List.singleton_append]

variable (files : FileSource) (r : Request)

theorem dispatch_fst (h : d.Twins e) :
    (d.dispatch files r).1 = (e.dispatch files r).1 := by
  cases hr : r.resolve files with
  | error fault => simp only [dispatch, hr]
  | ok planned =>
    cases planned with
    | none => simp only [dispatch, hr]
    | some s => simp only [dispatch, hr, perform, h.runTask_fst]

theorem erased_dispatch (h : d.Twins e) (hp : d.provider.LogsContext) :
    Log.erased (d.dispatch files r).2.records = Log.erased (e.dispatch files r).2.records := by
  cases hr : r.resolve files with
  | error fault => simp only [dispatch, hr]
  | ok planned =>
    cases planned with
    | none => simp only [dispatch, hr]
    | some s => simpa only [dispatch, hr] using h.erased_perform hp

theorem run_fst (h : d.Twins e) : (d.run files r).1 = (e.run files r).1 := by
  rw [run_eq, run_eq, h.dispatch_fst]

theorem erased_run (h : d.Twins e) (hp : d.provider.LogsContext) :
    Log.erased (d.run files r).2.records = Log.erased (e.run files r).2.records := by
  rw [run_eq, run_eq, h.dispatch_fst, Trace.records_append, Trace.records_append,
    Log.erased_append, Log.erased_append, h.erased_dispatch files r hp]

variable (mode : Mode)

theorem answer_fst (h : d.Twins e) : (d.answer files r mode).1 = (e.answer files r mode).1 := by
  cases mode with
  | dispatch => simp only [answer, h.dispatch_fst]
  | run => simp only [answer, h.run_fst]
  | entry => simp only [answer, enter, h.run_fst]

theorem calls_answer (h : d.Twins e) :
    forgetContext (d.answer files r mode).2.calls =
      forgetContext (e.answer files r mode).2.calls := by
  rw [Dispatcher.calls_answer, Dispatcher.calls_answer, calls_dispatch, calls_dispatch]
  cases r.planned files with
  | none => rfl
  | some s => exact h.calls_runTask

theorem erased_answer (h : d.Twins e) (hp : d.provider.LogsContext) :
    Log.erased (d.answer files r mode).2.records =
      Log.erased (e.answer files r mode).2.records := by
  cases mode with
  | dispatch => exact h.erased_dispatch files r hp
  | run => exact h.erased_run files r hp
  | entry => exact h.erased_run files _ hp

end Twins
end Dispatcher

/-- Turns with the same request and tasks that do the same work. The first gets a context whenever
it asks for one. -/
structure Turn.Twins (t u : Turn) : Prop where
  mode : t.mode = u.mode
  request : t.request = u.request
  acquire : t.provider.acquire = .returned (.ok ())
  work : ∀ s, (t.factory s).SameWork (u.factory s)

/-- What was answered and built in a turn is the same, and so are the calls of the task. -/
structure Agrees (a b : Ended Answer × Trace) : Prop where
  answer : a.1 = b.1
  built : a.2.built = b.2.built
  calls : forgetContext a.2.calls = forgetContext b.2.calls

namespace Turn.Twins

variable {t u : Turn} (files : FileSource) (n m : Nat)

theorem dispatcher (h : t.Twins u) :
    Dispatcher.Twins { factory := t.factory, provider := t.provider, gpu := true, runner := n }
      { factory := u.factory, provider := u.provider, gpu := false, runner := m } :=
  ⟨rfl, rfl, h.acquire, h.work⟩

theorem agrees_play (h : t.Twins u) : Agrees (t.play true files n) (u.play false files m) := by
  have hd := h.dispatcher n m
  rw [play, play, ← h.mode, ← h.request]
  refine ⟨hd.answer_fst files _ _, ?_, hd.calls_answer files _ _⟩
  rw [Dispatcher.built_answer, Dispatcher.built_answer]

theorem erased_play (h : t.Twins u) (hp : t.provider.LogsContext) :
    Log.erased (t.play true files n).2.records = Log.erased (u.play false files m).2.records := by
  rw [play, play, ← h.mode, ← h.request]
  exact (h.dispatcher n m).erased_answer files _ _ hp

end Turn.Twins

theorem forall₂_playFrom {gpu gpu' : Bool} {files : FileSource} {Rel : Turn → Turn → Prop}
    {Same : Ended Answer × Trace → Ended Answer × Trace → Prop}
    (step : ∀ t u n m, Rel t u → Same (t.play gpu files n) (u.play gpu' files m))
    {turns others : List Turn} (h : List.Forall₂ Rel turns others) (n m : Nat) :
    List.Forall₂ Same (playFrom gpu files n turns) (playFrom gpu' files m others) := by
  induction h generalizing n m with
  | nil => exact .nil
  | cons hturn _ ih => exact .cons (step _ _ n m hturn) (ih (n + 1) (m + 1))

/-- Turn by turn a session with contexts agrees with one that has the GPU switched off, whichever
tasks panic. The logs agree too, but for the records about the contexts and the words on the GPU,
if the contexts log nothing else. -/
theorem playTurns_twins (files : FileSource) {turns plain : List Turn}
    (h : List.Forall₂ Turn.Twins turns plain) :
    List.Forall₂ Agrees (playTurns true files turns) (playTurns false files plain) ∧
    ((∀ t ∈ turns, t.provider.LogsContext) →
      List.Forall₂ (fun a b => Log.erased a.2.records = Log.erased b.2.records)
        (playTurns true files turns) (playTurns false files plain)) := by
  constructor
  · exact forall₂_playFrom (fun t u n m ht => ht.agrees_play files n m) h 0 0
  · intro hlogs
    have hboth := (List.forall₂_and_left _ _).mpr ⟨hlogs, h⟩
    exact forall₂_playFrom (fun t u n m ht => ht.2.erased_play files n m ht.1) hboth 0 0

/-- A dry run of an exhaustive matching, a task of it that panics, and one that is turned down for
want of a database. -/
def rehearsal (pace : Nat) (p : ContextProvider) : List Turn :=
  let matcher (databasePath : String) : Request :=
    .exhaustiveMatcher { databasePath := databasePath, options := {} }
  [⟨.run, matcher "db", DryRun.factory pace, p⟩,
    ⟨.dispatch, matcher "db", fun _ => .idle (some .wait), p⟩,
    ⟨.entry, matcher "", DryRun.factory pace, p⟩]

theorem twins_rehearsal (pace pace' : Nat) (p : ContextProvider) :
    List.Forall₂ Turn.Twins (rehearsal pace .headless) (rehearsal pace' p) := by
  have hdry := DryRun.sameWork_factory pace pace'
  exact .cons ⟨rfl, rfl, rfl, hdry⟩ (.cons ⟨rfl, rfl, rfl, fun _ => .idle _⟩
    (.cons ⟨rfl, rfl, rfl, hdry⟩ .nil))

/-- The first two turns of the rehearsal are in a context, and the logs agree in all three. -/
theorem playTurns_twins_rehearsal :
    (playTurns true (fun _ => .error .notFound) (rehearsal 2 .headless)).map (·.2.calls) =
      [[(.acquire, .runner 0), (.start, .runner 0), (.wait, .runner 0), (.release, .runner 0)],
        [(.acquire, .runner 1), (.start, .runner 1), (.wait, .runner 1), (.release, .runner 1)],
        []] ∧
    List.Forall₂ Agrees (playTurns true (fun _ => .error .notFound) (rehearsal 2 .headless))
      (playTurns false (fun _ => .error .notFound) (rehearsal 0 .panicking)) ∧
    List.Forall₂ (fun a b => Log.erased a.2.records = Log.erased b.2.records)
      (playTurns true (fun _ => .error .notFound) (rehearsal 2 .headless))
      (playTurns false (fun _ => .error .notFound) (rehearsal 0 .panicking)) := by
  have hlogs : ∀ t ∈ rehearsal 2 .headless, t.provider.LogsContext := by
    intro t ht
    have hprovider : t.provider = .headless := by
      simp only [rehearsal, List.mem_cons, List.not_mem_nil, or_false] at ht
      rcases ht with rfl | rfl | rfl <;> rfl
    rw [hprovider]
    exact fun r hr => hr
  have h := playTurns_twins (fun _ => .error .notFound) (twins_rehearsal 2 0 .panicking)
  exact ⟨by decide +kernel, h.1, h.2 hlogs⟩

end FeaturePipeline

import FeaturePipeline.Proofs.DecisionOrder

/-! The calls of a session. Main statement: they are one segment for each turn, a context that was
acquired is released in the same segment and on the same thread however the task ends, and what
happened in earlier turns shows in a segment at most in the name of the thread. -/
namespace FeaturePipeline

def session (gpu : Bool) (files : FileSource) (turns : List Turn) : Trace :=
  (playTurns gpu files turns).flatMap (·.2)

/-- A thread under the number `n`, if it has one. -/
def Thread.renumber (n : Nat) : Thread → Thread
  | caller => caller
  | runner _ => runner n

namespace Turn

/-- The calls that a turn may consist of, with a context on the thread `x` if there is one;
`built` is the strategy handed over in it. -/
inductive Segment (gpu : Bool) (t : Turn) (x : Thread) :
    Option Strategy → List (Call × Thread) → Prop where
  | nothingBuilt : Segment gpu t x none []
  | acquireFails {s : Strategy} {e : PipelineError} (hs : s.usesGpu = true) (hg : gpu = true)
    (ha : t.provider.acquire = .returned (.error e)) :
    Segment gpu t x (some s) [(.acquire, x)]
  | acquirePanics {s : Strategy} {p : Panic} (hs : s.usesGpu = true) (hg : gpu = true)
    (ha : t.provider.acquire = .panicked p) :
    Segment gpu t x (some s) [(.acquire, x)]
  | startPanics {s : Strategy} {p : Panic} (hs : s.usesGpu = true) (hg : gpu = true)
    (ha : t.provider.acquire = .returned (.ok ()))
    (hp : ((t.factory s).start x).1 = .panicked p) :
    Segment gpu t x (some s) [(.acquire, x), (.start, x), (.release, x)]
  | inContext {s : Strategy} (hs : s.usesGpu = true) (hg : gpu = true)
    (ha : t.provider.acquire = .returned (.ok ()))
    (hr : ((t.factory s).start x).1 = .returned ()) :
    Segment gpu t x (some s) [(.acquire, x), (.start, x), (.wait, x), (.release, x)]
  | plainStartPanics {s : Strategy} {p : Panic} (hs : s.usesGpu = false ∨ gpu = false)
    (hp : ((t.factory s).start .caller).1 = .panicked p) :
    Segment gpu t x (some s) [(.start, .caller)]
  | plain {s : Strategy} (hs : s.usesGpu = false ∨ gpu = false)
    (hr : ((t.factory s).start .caller).1 = .returned ()) :
    Segment gpu t x (some s) [(.start, .caller), (.wait, .caller)]

/-- Turns with the same request, the same acquisition, and the same end of the start. -/
structure Alike (files : FileSource) (t u : Turn) : Prop where
  request : t.request = u.request
  acquire : t.provider.acquire = u.provider.acquire
  start : ∀ s, t.request.planned files = some s →
    ((t.factory s).start .caller).1 = ((u.factory s).start .caller).1

variable (gpu : Bool) (files : FileSource) (n : Nat) (t : Turn)

def calls : List (Call × Thread) := (t.play gpu files n).2.calls

theorem built_play :
    (t.play gpu files n).2.built = (t.request.planned files).toList := by
  simp [play, Dispatcher.built_answer]

def lifetime (starts : Bool) (x : Thread) : List (Call × Thread) :=
  if starts then [(.start, x), (.wait, x)] else [(.start, x)]

theorem calls_of_none (h : t.request.planned files = none) : t.calls gpu files n = [] := by
  rw [calls, play, Dispatcher.calls_answer, Dispatcher.calls_dispatch, h]
  rfl

theorem calls_of_some {s : Strategy} (h : t.request.planned files = some s) :
    t.calls gpu files n =
      if s.usesGpu && gpu then
        if t.provider.acquires then
          (.acquire, .runner n) :: lifetime (t.factory s).starts (.runner n) ++
            [(.release, .runner n)]
        else [(.acquire, .runner n)]
      else lifetime (t.factory s).starts .caller := by
  rw [calls, play, Dispatcher.calls_answer, Dispatcher.calls_dispatch, h, Option.elim_some,
    Dispatcher.calls_runTask]
  simp only [ContextProvider.calls_run, Task.calls_run]
  rfl

theorem segment_inContext {s : Strategy} (hs : s.usesGpu = true) (x : Thread) :
    Segment true t x (some s)
      (if t.provider.acquires then
        (.acquire, x) :: lifetime (t.factory s).starts x ++ [(.release, x)]
      else [(.acquire, x)]) := by
  cases ha : t.provider.acquire with
  | panicked p =>
    have hq : t.provider.acquires = false := by simp [ContextProvider.acquires, ha]
    simpa [hq] using Segment.acquirePanics hs rfl ha
  | returned e =>
    cases e with
    | error e =>
      have hq : t.provider.acquires = false := by simp [ContextProvider.acquires, ha]
      simpa [hq] using Segment.acquireFails hs rfl ha
    | ok u =>
      have hq : t.provider.acquires = true := t.provider.acquires_eq_true_iff.mpr ha
      cases hr : ((t.factory s).start x).1 with
      | panicked p =>
        have hst := ((t.factory s).starts_eq_false_iff _).mpr ⟨p, hr⟩
        simpa [hq, hst, lifetime] using Segment.startPanics hs rfl ha hr
      | returned u =>
        have hst := ((t.factory s).starts_eq_true_iff _).mpr hr
        simpa [hq, hst, lifetime] using Segment.inContext hs rfl ha hr

variable {gpu} in
theorem segment_plain {s : Strategy} (h : s.usesGpu = false ∨ gpu = false) (x : Thread) :
    Segment gpu t x (some s) (lifetime (t.factory s).starts .caller) := by
  cases hr : ((t.factory s).start .caller).1 with
  | panicked p =>
    have hst := ((t.factory s).starts_eq_false_iff _).mpr ⟨p, hr⟩
    simpa [hst, lifetime] using Segment.plainStartPanics h hr
  | returned u =>
    have hst := ((t.factory s).starts_eq_true_iff _).mpr hr
    simpa [hst, lifetime] using Segment.plain h hr

theorem segment_calls :
    Segment gpu t (.runner n) (t.request.planned files) (t.calls gpu files n) := by
  cases h : t.request.planned files with
  | none =>
    rw [calls_of_none gpu files n t h]
    exact .nothingBuilt
  | some s =>
    rw [calls_of_some gpu files n t h]
    by_cases hu : s.usesGpu = true ∧ gpu = true
    · obtain ⟨hs, rfl⟩ := hu
      simpa [hs] using segment_inContext t hs (.runner n)
    · have hor : s.usesGpu = false ∨ gpu = false := by
        rw [← Bool.and_eq_false_iff]
        simpa using hu
      have hb : (s.usesGpu && gpu) = false := Bool.and_eq_false_iff.mpr hor
      simpa [hb] using segment_plain t hor (.runner n)

variable {t} in
theorem calls_of_importer {r : ImporterRequest} (hr : t.request = .featureImporter r) :
    ∀ c ∈ t.calls gpu files n, c.2 = .caller := by
  cases hp : t.request.planned files with
  | none => simp [calls_of_none gpu files n t hp]
  | some s =>
    have hprep := Request.prepared_of_planned hp
    rw [hr] at hprep
    cases hprep with
    | featureImport _ =>
      rw [calls_of_some gpu files n t hp]
      cases (t.factory _).starts <;> simp [Strategy.usesGpu, lifetime]

variable {t} in
theorem calls_of_alike {u : Turn} (m : Nat) (h : t.Alike files u) :
    u.calls gpu files m = (t.calls gpu files n).map fun c => (c.1, c.2.renumber m) := by
  cases hp : t.request.planned files with
  | none =>
    rw [calls_of_none gpu files n t hp, calls_of_none gpu files m u (h.request ▸ hp)]
    rfl
  | some s =>
    have hst : (u.factory s).starts = (t.factory s).starts := by
      rw [Task.starts, Task.starts, h.start s hp]
    have hac : u.provider.acquires = t.provider.acquires := by
      rw [ContextProvider.acquires, ContextProvider.acquires, h.acquire]
    rw [calls_of_some gpu files n t hp, calls_of_some gpu files m u (h.request ▸ hp), hst, hac]
    cases s.usesGpu && gpu <;> cases t.provider.acquires <;> cases (t.factory s).starts <;> rfl

end Turn

theorem calls_playFrom (gpu : Bool) (files : FileSource) (turns : List Turn) (n : Nat) :
    Trace.calls ((playFrom gpu files n turns).flatMap (·.2)) =
      ((turns.zipIdx n).map fun p => p.1.calls gpu files p.2).flatten := by
  induction turns generalizing n with
  | nil => rfl
  | cons t rest ih => simp [playFrom, ih, Turn.calls]

/-- A session calls what its turns call, one segment after the other. Each turn shows one of the
segments for the strategy that is built in it, and an import is always run by the caller. Apart
from the number of the thread a segment is settled by the request, the files, and what the context
and the task of the turn do. -/
theorem calls_session (gpu : Bool) (files : FileSource) (turns : List Turn) :
    (session gpu files turns).calls =
      (turns.zipIdx.map fun p => p.1.calls gpu files p.2).flatten ∧
    (∀ (t : Turn) (n : Nat), ∃ built : Option Strategy,
      (t.play gpu files n).2.built = built.toList ∧
        t.Segment gpu (.runner n) built (t.calls gpu files n)) ∧
    (∀ (t : Turn) (r : ImporterRequest) (n : Nat), t.request = .featureImporter r →
      ∀ c ∈ t.calls gpu files n, c.2 = .caller) ∧
    ∀ (t u : Turn) (n m : Nat), t.Alike files u →
      u.calls gpu files m = (t.calls gpu files n).map fun c => (c.1, c.2.renumber m) := by
  refine ⟨calls_playFrom gpu files turns 0, fun t n => ?_, fun t r n hr => ?_, fun t u n m h => ?_⟩
  · exact ⟨_, t.built_play gpu files n, t.segment_calls gpu files n⟩
  · exact Turn.calls_of_importer gpu files n hr
  · exact Turn.calls_of_alike gpu files n m h

/-- A panic while a task is waited for neither keeps the context nor changes the next segment. -/
theorem calls_session_after_panic :
    let files : FileSource := fun _ => .error .notFound
    let matcher : Request := .exhaustiveMatcher { databasePath := "db", options := {} }
    let t : Turn := ⟨.dispatch, matcher, fun _ => .idle (some .wait), .quiet⟩
    let u : Turn := ⟨.dispatch, matcher, fun _ => .idle none, .quiet⟩
    (session true files [t, u]).calls =
      [(.acquire, .runner 0), (.start, .runner 0), (.wait, .runner 0), (.release, .runner 0),
        (.acquire, .runner 1), (.start, .runner 1), (.wait, .runner 1), (.release, .runner 1)] ∧
      u.calls true files 1 = (t.calls true files 0).map fun c => (c.1, c.2.renumber 1) := by
  intro files matcher t u
  have h := calls_session true files [t, u]
  refine ⟨h.1.trans ?_, h.2.2.2 t u 0 1 ⟨rfl, rfl, fun _ _ => rfl⟩⟩
  decide +kernel

end FeaturePipeline

import FeaturePipeline.Strategy.Plan
import FeaturePipeline.RenderContext
import FeaturePipeline.Resolution

/-! From a request to a finished task. A strategy that a request leads to gets exactly one task,
which is run on the calling thread, or inside a rendering context when the strategy asks for the
GPU and it may be used. -/
namespace FeaturePipeline

inductive Outcome where
  | completed (kind : StrategyKind)
  | emptyImageList
deriving DecidableEq

inductive ExitStatus where
  | success
  | failure
deriving DecidableEq

namespace ExitStatus

def isSuccess (s : ExitStatus) : Bool := s == success

def code : ExitStatus → Nat
  | success => 0
  | failure => 1

end ExitStatus

/-- How strategies become tasks, how contexts are got, and whether the GPU may be used. -/
structure Dispatcher where
  factory : Strategy → Task
  provider : ContextProvider
  gpu : Bool
  /-- The number of the thread that the next context is on. -/
  runner : Nat := 0

namespace Dispatcher

def record (level : Log.Level) (message : String) : Observation :=
  .logged ⟨level, .dispatch, message⟩

def usesGpu (d : Dispatcher) (s : Strategy) : Bool := s.usesGpu && d.gpu

def build (d : Dispatcher) (s : Strategy) : Task × Trace := (d.factory s, [.built s])

/-- Build the task of a strategy and run it where the strategy is to run. -/
def runTask (d : Dispatcher) (s : Strategy) : Ended (Except PipelineError Unit) × Task × Trace :=
  let made := d.build s
  let r := if d.usesGpu s then d.provider.run (.runner d.runner) made.1
    else
      let r := made.1.run .caller
      (r.1.map .ok, r.2.1, r.2.2)
  (r.1, r.2.1, made.2 ++ r.2.2)

/-- Run the task of a strategy, and give it up. -/
def perform (d : Dispatcher) (s : Strategy) : Ended (Except PipelineError Outcome) × Trace :=
  let opening := [record .debug s!"Dispatching {s.plan} (gpu: {d.usesGpu s})"]
  let r := d.runTask s
  let closing := match r.1 with
    | .returned (.ok ()) => [record .debug s!"{s.kind.name} completed"]
    | _ => []
  (r.1.map fun e => e.map fun _ => .completed s.kind, opening ++ r.2.2 ++ closing ++ r.2.1.drop)

def dispatch (d : Dispatcher) (files : FileSource) (r : Request) :
    Ended (Except PipelineError Outcome) × Trace :=
  match r.resolve files with
  | .error e => (.returned (.error e), [])
  | .ok none =>
    (.returned (.ok .emptyImageList),
      [record .info s!"{r.name}: the image list is empty, nothing to do"])
  | .ok (some s) => d.perform s

/-- Dispatch with the error, if there is one, in the log. -/
def run (d : Dispatcher) (files : FileSource) (r : Request) : Ended ExitStatus × Trace :=
  match d.dispatch files r with
  | (.panicked p, t) => (.panicked p, t)
  | (.returned (.ok _), t) => (.returned .success, t)
  | (.returned (.error e), t) =>
    (.returned .failure, t ++ [record .error s!"{r.name}: {e.message}"])

def enter (d : Dispatcher) (files : FileSource) (e : EntryPoint) (form : e.Form) :
    Ended ExitStatus × Trace := d.run files (e.request form)

end Dispatcher
end FeaturePipeline

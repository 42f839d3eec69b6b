import FeaturePipeline.Task.Basic

/-! Rendering contexts. A task that needs one is run on a thread of its own, which acquires the
context before it starts the task and releases it afterwards, also when the task panics. -/
namespace FeaturePipeline

/-- A way to get a context: how the acquisition ends, and what is logged when the context is
acquired and when it is released. -/
structure ContextProvider where
  acquire : Ended (Except PipelineError Unit)
  acquired : List Log.Record := []
  released : List Log.Record := []

namespace ContextProvider

/-- Contexts without a window. The name of the owning thread is not shown. -/
def headless : ContextProvider where
  acquire := .returned (.ok ())
  acquired := [⟨.debug, .gpu, "Acquired rendering context on ThreadId(_)"⟩]
  released := [⟨.debug, .gpu, "Released rendering context on ThreadId(_)"⟩]

def quiet : ContextProvider := { acquire := .returned (.ok ()) }

def failing (e : PipelineError) : ContextProvider := { acquire := .returned (.error e) }

def panicking : ContextProvider := { acquire := .panicked .acquire }

/-- Run a task inside a context on a thread of its own. Without a context the task is left as it
was. -/
def run (p : ContextProvider) (on : Thread) (t : Task) :
    Ended (Except PipelineError Unit) × Task × Trace :=
  match p.acquire with
  | .panicked q => (.panicked q, t, [.called .acquire on])
  | .returned (.error e) => (.returned (.error e), t, [.called .acquire on])
  | .returned (.ok ()) =>
    let r := t.run on
    (r.1.map .ok, r.2.1,
      .called .acquire on :: p.acquired.map .logged ++ r.2.2 ++
        .called .release on :: p.released.map .logged)

end ContextProvider

end FeaturePipeline

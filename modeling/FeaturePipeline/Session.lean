import FeaturePipeline.Dispatch

/-! Requests one after the other, each entered in a way of its own. The tasks and contexts of a
turn may fail in their own way; what turns have in common is the files and whether the GPU may
be used. -/
namespace FeaturePipeline

inductive Mode where
  | dispatch
  | run
  | entry
deriving DecidableEq

/-- What the caller gets: the outcome itself, or only whether there is one. -/
inductive Answer where
  | outcome (result : Except PipelineError Outcome)
  | status (status : ExitStatus)

def Dispatcher.answer (d : Dispatcher) (files : FileSource) (r : Request) :
    Mode → Ended Answer × Trace
  | .dispatch => let e := d.dispatch files r; (e.1.map .outcome, e.2)
  | .run => let e := d.run files r; (e.1.map .status, e.2)
  | .entry => let e := d.enter files r.entryPoint r.form; (e.1.map .status, e.2)

structure Turn where
  mode : Mode
  request : Request
  factory : Strategy → Task
  provider : ContextProvider

/-- One turn, in which a context is on the thread of the given number. -/
def Turn.play (gpu : Bool) (files : FileSource) (number : Nat) (t : Turn) : Ended Answer × Trace :=
  Dispatcher.answer { factory := t.factory, provider := t.provider, gpu := gpu, runner := number }
    files t.request t.mode

/-- All turns, the first with the given number; a panic in one is caught before the next. -/
def playFrom (gpu : Bool) (files : FileSource) (number : Nat) :
    List Turn → List (Ended Answer × Trace)
  | [] => []
  | t :: rest => t.play gpu files number :: playFrom gpu files (number + 1) rest

def playTurns (gpu : Bool) (files : FileSource) (turns : List Turn) :
    List (Ended Answer × Trace) := playFrom gpu files 0 turns

end FeaturePipeline

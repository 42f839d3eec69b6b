import FeaturePipeline.CommandLine.Arguments
import FeaturePipeline.Dispatch
import FeaturePipeline.DryRun

/-! The program as a function of its arguments, its environment and the files it can see. -/
namespace FeaturePipeline

/-- The variables of the environment; the bytes of a variable need not be text. -/
abbrev Environment := List (String × List UInt8)

structure ProgramResult where
  exitCode : Nat
  stdout : String := ""
  stderr : String := ""
deriving DecidableEq

namespace Program

def gpuSwitch : String := "KORNIA_FEATURE_DISABLE_GPU"

def logFilter : String := "RUST_LOG"

def filter (env : Environment) : Log.Filter :=
  match (env.lookup logFilter).bind Text.decodeUtf8? with
  | some text => Log.Filter.read text
  | none => .upTo .info

/-- A text that is neither empty nor a single zero switches the GPU off. Bytes that are no text
do not. -/
def switchesOff (value : Option (List UInt8)) : Bool :=
  match value.bind Text.decodeUtf8? with
  | some s => s != "" && s != "0"
  | none => false

def gpuEnabled (env : Environment) : Bool := !switchesOff (env.lookup gpuSwitch)

/-- The dispatcher of the program: dry runs in contexts without a window. -/
def dispatcher (env : Environment) : Dispatcher :=
  { factory := DryRun.factory 0, provider := .headless, gpu := gpuEnabled env }

/-- What is logged before the request is dispatched. -/
def opening (env : Environment) (r : Request) : List Log.Record :=
  [⟨.debug, .gpu, s!"GPU execution enabled: {gpuEnabled env}"⟩,
    ⟨.info, .program, s!"Running {r.name} (gpu enabled: {gpuEnabled env})"⟩]

def panicCode : Nat := 101

def exitCode : Ended ExitStatus → Nat
  | .returned s => s.code
  | .panicked _ => panicCode

def runRequest (files : FileSource) (env : Environment) (r : Request) : ProgramResult :=
  let d := (dispatcher env).run files r
  let shown := (opening env r ++ d.2.records).filter (filter env).shows
  { exitCode := exitCode d.1, stderr := String.join (shown.map Log.Record.line) }

def run (files : FileSource) (env : Environment) (arguments : List String) : ProgramResult :=
  match CommandLine.read arguments with
  | .ok r => runRequest files env r
  | .error (.help text) => { exitCode := 0, stdout := text ++ "\n" }
  | .error (.fault fault) =>
    { exitCode := 1, stderr := fault.message ++ "\nRun " ++ CommandLine.programName ++
        " --help for more information.\n" }

/-- What happens from the dispatch of the request on; nothing if the arguments are no request. -/
def trace (files : FileSource) (env : Environment) (arguments : List String) : Trace :=
  match CommandLine.read arguments with
  | .ok r => ((dispatcher env).run files r).2
  | .error _ => []

theorem stderr_run {files : FileSource} {env : Environment} {arguments : List String} {r : Request}
    (h : CommandLine.read arguments = .ok r) :
    (run files env arguments).stderr = String.join
      (((opening env r ++ (trace files env arguments).records).filter (filter env).shows).map
        Log.Record.line) := by
  simp only [run, runRequest, trace, h]

end Program
end FeaturePipeline

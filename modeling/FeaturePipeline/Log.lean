import FeaturePipeline.Text.Blank
import FeaturePipeline.Text.Terminal

/-! Log records: their level, the part of the program that writes them, and the filter that
says which of them are shown. -/
namespace FeaturePipeline.Log

inductive Level where
  | error
  | warn
  | info
  | debug
  | trace
deriving DecidableEq

namespace Level

def all : List Level := [error, warn, info, debug, trace]

def name : Level → String
  | error => "ERROR"
  | warn => "WARN"
  | info => "INFO"
  | debug => "DEBUG"
  | trace => "TRACE"

/-- Greater for records of less weight. -/
def verbosity (l : Level) : Nat := all.idxOf l

end Level

inductive Source where
  | program
  | camera
  | dispatch
  | dryRun
  | gpu
  | task
deriving DecidableEq

def Source.target : Source → String
  | .program => "kornia_feature"
  | .camera => "kornia_feature::camera"
  | .dispatch => "kornia_feature::dispatch"
  | .dryRun => "kornia_feature::dry_run"
  | .gpu => "kornia_feature::gpu"
  | .task => "kornia_feature::task"

structure Record where
  level : Level
  source : Source
  message : String
deriving DecidableEq

/-- Which records are shown: those of the first levels, or all those of one target. -/
inductive Filter where
  | levels (count : Nat)
  | target (name : String)
deriving DecidableEq

namespace Filter

def upTo (l : Level) : Filter := .levels (l.verbosity + 1)

/-- A filter is the name of a level in any letter case, or `off`; any other text names a target.
A blank one leaves the errors. -/
def read (text : String) : Filter :=
  let name := Text.trim text.toList
  let upper := String.ofList (name.map Char.toUpper)
  if name = [] then upTo .error
  else if upper = "OFF" then .levels 0
  else match Level.all.find? fun l => l.name == upper with
    | some l => upTo l
    | none => .target (String.ofList name)

def shows (f : Filter) (r : Record) : Bool :=
  match f with
  | levels n => decide (r.level.verbosity < n)
  | target name => name.toList.isPrefixOf r.source.target.toList

end Filter

/-- A record as one line, the level filled up to five characters. Further lines of the message
are indented by four. -/
def Record.text (r : Record) : String :=
  let level := r.level.name ++ String.ofList (List.replicate (5 - r.level.name.length) ' ')
  let message := r.message.toList.flatMap fun c => if c = '\n' then "\n    ".toList else [c]
  "[" ++ level ++ " " ++ r.source.target ++ "] " ++ String.ofList message ++ "\n"

def Record.line (r : Record) : String := String.ofList (Text.visible r.text.toList)

end FeaturePipeline.Log

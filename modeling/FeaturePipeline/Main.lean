import FeaturePipeline.Program

/-! The command line: arguments, environment and the one file that a request names are read,
and the result of the program is printed. -/
namespace FeaturePipeline

def FileFault.ofCode (code : Nat) (text : String) : FileFault :=
  match code with
  | 2 => .notFound
  | 20 => .notDirectory
  | 21 => .isDirectory
  | 36 => .nameTooLong
  | _ => .system code text

/-- Why a file could not be read. Only the system reports numbers, and reading a file gives no other
error. -/
def FileFault.ofError : IO.Error → FileFault
  | .alreadyExists _ code text | .interrupted _ code text | .noFileOrDirectory _ code text
  | .invalidArgument _ code text | .permissionDenied _ code text
  | .resourceExhausted _ code text | .inappropriateType _ code text | .noSuchThing _ code text
  | .otherError code text | .resourceBusy code text | .resourceVanished code text
  | .unsupportedOperation code text | .hardwareFault code text
  | .unsatisfiedConstraints code text | .illegalOperation code text | .protocolError code text
  | .timeExpired code text => .ofCode code.toNat text
  | .unexpectedEof => .system 0 "unexpected end of file"
  | .userError text => .system 0 text

/-- The file that the arguments name, as a source in which no other file is seen. -/
def readListFile (arguments : List String) : IO FileSource := do
  match CommandLine.read arguments with
  | .ok r =>
    match r.listFile? with
    | some path =>
      if let some fault := FileTree.pathFault? path then return fun _ => .error fault
      match ← (IO.FS.readBinFile path).toBaseIO with
      | .ok bytes => return fun _ => .ok bytes.toList
      | .error e => return fun _ => .error (.ofError e)
    | none => return fun _ => .error .notFound
  | .error _ => return fun _ => .error .notFound

def readVariable (name : String) : IO Environment := do
  match ← IO.getEnv name with
  | some value => return [(name, Text.encodeUtf8 value)]
  | none => return []

end FeaturePipeline

open FeaturePipeline in
def main (arguments : List String) : IO UInt32 := do
  let files ← readListFile arguments
  let switch ← readVariable Program.gpuSwitch
  let filter ← readVariable Program.logFilter
  let result := Program.run files (switch ++ filter) arguments
  IO.print result.stdout
  IO.eprint result.stderr
  return .ofNat result.exitCode

import FeaturePipeline.Text.Pieces
import FeaturePipeline.Error
import FeaturePipeline.Path

/-! Files as data. A file source answers what is found under each path; a file tree is one that
holds a list of files and folders. There are no links, so two dots always lead back to the folder
that a path came from. -/
namespace FeaturePipeline

/-- The bytes found under a path, or the reason why there are none. -/
abbrev FileSource := String → Except FileFault (List UInt8)

/-- Where a file or folder is: the names on the way to it from the working directory. A way that
leaves the working directory starts with two dots for each folder it goes up, and one from the
root starts with a slash. -/
abbrev Location := List String

/-- What stands at each location, a file with its bytes or a folder; the first entry counts. -/
abbrev FileTree := List (Location × Option (List UInt8))

namespace FileTree

def next (folder : Location) (name : String) : Location :=
  if name = "" ∨ name = "." then folder
  else if name = ".." then
    match folder.getLast? with
    | none | some ".." => folder ++ [".."]
    | some "/" => folder
    | some _ => folder.dropLast
  else folder ++ [name]

def names (path : String) : List String :=
  (Text.pieces (· == '/') path.toList).map String.ofList

def start (path : String) : Location := if Path.isAbsolute path then ["/"] else []

/-- What has to stand at the locations along a path for some content to stand at its end. -/
def along (content : Option (List UInt8)) (folder : Location) : List String → FileTree
  | [] => [(folder, content)]
  | name :: rest => along content (next folder name) rest ++ [(folder, none)]

/-- The tree in which contents are put under paths one after the other, with the folders that
the paths pass through; nothing stands for an empty folder. -/
def ofPaths (entries : List (String × Option (List UInt8))) : FileTree :=
  entries.foldl (fun tree e => along e.2 (start e.1) (names e.1) ++ tree) []

inductive Place where
  | folder (location : Location)
  | file (bytes : List UInt8)

def at? (tree : FileTree) (location : Location) : Option Place :=
  (tree.lookup location).map fun
    | some bytes => .file bytes
    | none => .folder location

/-- The longest name of a file, in bytes. -/
def nameLimit : Nat := 255

/-- A path of this many bytes or more is turned down before it is looked up. -/
def pathLimit : Nat := 4096

def pathFault? (path : String) : Option FileFault :=
  if '\x00' ∈ path.toList then some .nulInPath
  else if path = "" then some .notFound
  else if pathLimit ≤ path.utf8ByteSize then some .nameTooLong
  else none

def step (tree : FileTree) : Place → String → Except FileFault Place
  | .file _, _ => .error .notDirectory
  | .folder folder, name =>
    if name ∈ ["", ".", ".."] then .ok (.folder (next folder name))
    else if nameLimit < name.utf8ByteSize then .error .nameTooLong
    else match at? tree (next folder name) with
      | some place => .ok place
      | none => .error .notFound

def read (tree : FileTree) : FileSource := fun path =>
  match pathFault? path with
  | some fault => .error fault
  | none =>
    match (names path).foldlM (step tree) (.folder (start path)) with
    | .ok (.file bytes) => .ok bytes
    | .ok (.folder _) => .error .isDirectory
    | .error fault => .error fault

end FileTree
end FeaturePipeline

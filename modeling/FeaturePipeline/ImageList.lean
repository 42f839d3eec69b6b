import FeaturePipeline.Text.Blank
import FeaturePipeline.Text.Pieces
import FeaturePipeline.Text.Utf8
import FeaturePipeline.FileTree

/-! Image lists: text files with one image a line. Lines end at the newline byte alone, they
are trimmed, and blank ones do not count. A line that is no text fails the whole list. -/
namespace FeaturePipeline.ImageList

def newline : UInt8 := 10

/-- A line without its newline, and without a carriage return right in front of that. -/
def chomp (cs : List Char) : List Char :=
  match cs.reverse with
  | '\n' :: '\r' :: rest => rest.reverse
  | '\n' :: rest => rest.reverse
  | _ => cs

def readLine (bytes : List UInt8) : Except FileFault (List Char) :=
  match Text.decodeUtf8? bytes with
  | some s => .ok (Text.trim (chomp s.toList))
  | none => .error .notUtf8

/-- The trimmed lines of a file, blank ones left out, in order. -/
def ofBytes (bytes : List UInt8) : Except FileFault (List String) := do
  let lines ← (Text.lines (· == newline) bytes).mapM readLine
  return (lines.filter (! ·.isEmpty)).map String.ofList

def read (files : FileSource) (path : String) : Except FileFault (List String) :=
  files path >>= ofBytes

end FeaturePipeline.ImageList

import FeaturePipeline.Text.Pieces
import FeaturePipeline.CommandLine.Command

/-! Help texts. Names are indented by two, descriptions start at one column and are wrapped at
the width of the page. -/
namespace FeaturePipeline.CommandLine

def programName : String := "kornia-feature"

def descriptionColumn : Nat := 20

def pageWidth : Nat := 80

def pad (line : String) : String :=
  line ++ String.ofList (List.replicate (descriptionColumn - line.length) ' ')

/-- Put words behind a line while they fit on the page; a word that does not fit opens a line
of its own. -/
def wrap (line : String) : List String → List String
  | [] => [line]
  | word :: rest =>
    if pageWidth < line.length + word.length + 1 then line :: wrap (pad "" ++ word) rest
    else wrap (line ++ " " ++ word) rest

def words (s : String) : List String :=
  (Text.pieces (· == ' ') s.toList).map String.ofList

/-- The lines of a name with its description. A name that reaches the column of the descriptions
stands on a line of its own. -/
def entryLines (name description : String) : List String :=
  let head := "  " ++ name
  match words description with
  | [] => [head]
  | word :: rest =>
    if head.length < descriptionColumn then wrap (pad head ++ word) rest
    else head :: wrap (pad "" ++ word) rest

def helpEntry : List String := entryLines "--help, help" "display usage information"

def Setting.usage {α : Type} (s : Setting α) : String :=
  if s.field.isSwitch then "[" ++ s.option ++ "]"
  else
    let pair := s.option ++ " <" ++ s.name ++ ">"
    if s.required then pair else "[" ++ pair ++ "]"

def page (lines : List String) : String := String.join (lines.map (· ++ "\n"))

def commandHelp (e : EntryPoint) : String :=
  let usage := " ".intercalate
    ("Usage:" :: programName :: e.name :: e.settings.map Setting.usage)
  page ([usage, "", e.description, "", "Options:"] ++
    (e.settings.flatMap fun s => entryLines s.option s.description) ++ helpEntry)

def programHelp : String :=
  page (["Usage: " ++ programName ++ " <command> [<args>]", "",
      "Extract and match image features", "", "Options:"] ++ helpEntry ++ ["", "Commands:"] ++
    EntryPoint.all.flatMap fun e => entryLines e.name e.description)

end FeaturePipeline.CommandLine

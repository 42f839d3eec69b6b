/-! Paths as texts. A path is absolute when it starts with a slash. -/
namespace FeaturePipeline.Path

def isAbsolute (path : String) : Bool := path.toList.head? == some '/'

/-- A name below a root. An absolute name replaces the root, and a slash is put between them
unless the root is empty or ends in one. -/
def join (root name : String) : String :=
  if isAbsolute name then name
  else if root = "" ∨ root.toList.getLast? = some '/' then root ++ name
  else root ++ "/" ++ name

end FeaturePipeline.Path

import FeaturePipeline.Text.Blank
import FeaturePipeline.Text.Pieces
import FeaturePipeline.Number.Literal
import FeaturePipeline.Camera.Model

/-! Camera parameters: how they are written, and which of them a model takes. -/
namespace FeaturePipeline.Camera

def isSeparator (c : Char) : Bool := c == ',' || c == ';'

theorem isSeparator_iff {c : Char} : isSeparator c = true ↔ c = ',' ∨ c = ';' := by
  simp [isSeparator]

theorem not_isSeparator_of_isBlank {c : Char} (h : Text.isBlank c = true) :
    isSeparator c = false := by
  cases hs : isSeparator c with
  | false => rfl
  | true =>
    obtain rfl | rfl := isSeparator_iff.mp hs
    · cases h
    · cases h

/-- The trimmed texts between the separators, blank ones left out. -/
def tokens (cs : List Char) : List (List Char) :=
  ((Text.pieces isSeparator cs).map Text.trim).filter (! ·.isEmpty)

def readToken? (t : List Char) : Option Binary64 := (Binary64.read t).toOption

/-- All the numbers of a text, or nothing as soon as one token is no number. -/
def readParameters? (text : String) : Option (List Binary64) := (tokens text.toList).mapM readToken?

/-- No parameters mean the defaults of the model. Otherwise there is one finite value for each
parameter, and the focal lengths are positive. -/
def Model.accepts (m : Model) (values : List Binary64) : Bool :=
  values.isEmpty ||
    (values.length == m.arity && values.all Binary64.isFinite &&
      m.focalIndices.all fun i => values[i]?.any Binary64.isPositive)

def Model.acceptsText (m : Model) (text : String) : Bool := (readParameters? text).any m.accepts

@[simp] theorem tokens_nil : tokens [] = [] := rfl

theorem tokens_append_sep (as bs : List Char) {s : Char} (hs : isSeparator s = true) :
    tokens (as ++ s :: bs) = tokens as ++ tokens bs := by
  simp [tokens, Text.pieces_append_sep as bs hs]

end FeaturePipeline.Camera

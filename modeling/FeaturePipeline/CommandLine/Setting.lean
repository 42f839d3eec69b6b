import FeaturePipeline.Number.Integer
import FeaturePipeline.Number.Literal

/-! The settings of a command: options with the field of a form that each one sets from its value. -/
namespace FeaturePipeline.CommandLine

/-- A place in a form. -/
structure Lens (α β : Type) where
  get : α → β
  set : β → α → α

inductive Field (α : Type) where
  | text (lens : Lens α String)
  | optionalText (lens : Lens α (Option String))
  | flag (lens : Lens α Bool)
  | size (lens : Lens α UInt64)
  | integer (lens : Lens α Int32)
  | number (lens : Lens α Binary64)
  /-- Stands alone, without a value, and only ever turns its field on. -/
  | switch (lens : Lens α Bool)

inductive ValueFault where
  | duplicate
  | notFlag
  | notInteger (fault : Integer.Fault)
  | notNumber (fault : Literal.Fault)
deriving DecidableEq

def ValueFault.message : ValueFault → String
  | .duplicate => "duplicate values provided"
  | .notFlag => "provided string was not `true` or `false`"
  | .notInteger fault => fault.message
  | .notNumber fault => fault.message

def readFlag (s : String) : Except ValueFault Bool :=
  if s = "true" then .ok true else if s = "false" then .ok false else .error .notFlag

namespace Field

variable {α : Type}

def isSwitch : Field α → Bool
  | switch _ => true
  | _ => false

/-- The form with the field set to what a value denotes. -/
def write (value : String) (form : α) : Field α → Except ValueFault α
  | text l => .ok (l.set value form)
  | optionalText l => .ok (l.set (some value) form)
  | flag l => (readFlag value).map (l.set · form)
  | size l => ((Integer.readUInt64 value).mapError .notInteger).map (l.set · form)
  | integer l => ((Integer.readInt32 value).mapError .notInteger).map (l.set · form)
  | number l => ((Binary64.read value.toList).mapError .notNumber).map (l.set · form)
  | switch l => .ok (l.set true form)

end Field

structure Setting (α : Type) where
  name : String
  description : String
  required : Bool := false
  field : Field α

def Setting.option {α : Type} (s : Setting α) : String := "--" ++ s.name

end FeaturePipeline.CommandLine

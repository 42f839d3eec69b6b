import FeaturePipeline.Number.Rounding

/-! Number texts. A literal is an optional sign followed by a word for infinity or NaN in any
letter case, or by decimal digits with at most one point and an optional exponent. Digits and
exponents may have any length; a literal denotes the nearest double. -/
namespace FeaturePipeline

/-- What a number text denotes before rounding. -/
inductive Literal where
  | infinity (negative : Bool)
  | nan (negative : Bool)
  | decimal (negative : Bool) (coefficient : Nat) (exponent : Int)
deriving DecidableEq

namespace Literal

inductive Fault where
  | empty
  | invalid
deriving DecidableEq

def Fault.message : Fault → String
  | .empty => "cannot parse float from empty string"
  | .invalid => "invalid float literal"

def digitValue (c : Char) : Nat := c.toNat - '0'.toNat

def digitsValue (cs : List Char) : Nat := cs.foldl (fun n c => 10 * n + digitValue c) 0

/-- Take one sign off the front; true is minus. -/
def splitSign : List Char → Bool × List Char
  | '-' :: cs => (true, cs)
  | '+' :: cs => (false, cs)
  | cs => (false, cs)

def splitDigits (cs : List Char) : List Char × List Char :=
  (cs.takeWhile Char.isDigit, cs.dropWhile Char.isDigit)

def splitFraction : List Char → List Char × List Char
  | '.' :: cs => splitDigits cs
  | cs => ([], cs)

/-- The rest of a decimal after its digits: nothing, or an exponent with a digit at least. -/
def exponent? : List Char → Option Int
  | [] => some 0
  | c :: cs =>
    if c = 'e' || c = 'E' then
      let s := splitSign cs
      if s.2 ≠ [] ∧ s.2.all Char.isDigit then
        some (if s.1 then -(digitsValue s.2 : Int) else digitsValue s.2)
      else none
    else none

def decimal? (negative : Bool) (cs : List Char) : Option Literal :=
  let whole := splitDigits cs
  let fraction := splitFraction whole.2
  if whole.1 = [] ∧ fraction.1 = [] then none
  else (exponent? fraction.2).map fun e =>
    .decimal negative (digitsValue (whole.1 ++ fraction.1)) (e - fraction.1.length)

def word? (negative : Bool) (cs : List Char) : Option Literal :=
  match String.ofList (cs.map Char.toLower) with
  | "inf" => some (.infinity negative)
  | "infinity" => some (.infinity negative)
  | "nan" => some (.nan negative)
  | _ => none

def read (cs : List Char) : Except Fault Literal :=
  if cs = [] then .error .empty
  else
    let s := splitSign cs
    match (decimal? s.1 s.2).or (word? s.1 s.2) with
    | some l => .ok l
    | none => .error .invalid

/-- The nearest double, ties to even; too large becomes infinity and too small a zero, and the
sign is kept in every case. -/
def toBinary64 : Literal → Binary64
  | .infinity negative => .infinity negative
  | .nan negative => .nan negative
  | .decimal negative coefficient exponent =>
    .ofRank negative (Binary64.nearestDecimal coefficient exponent)

end Literal

def Binary64.read (cs : List Char) : Except Literal.Fault Binary64 :=
  (Literal.read cs).map Literal.toBinary64

end FeaturePipeline

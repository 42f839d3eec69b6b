/-! Integers in decimal digits, read within fixed bounds. The first fault from the left is
reported: a character that is no digit, or a digit that takes the number past its bound. -/
namespace FeaturePipeline.Integer

inductive Fault where
  | empty
  | invalidDigit
  | tooLarge
  | tooSmall
deriving DecidableEq

def Fault.message : Fault → String
  | .empty => "cannot parse integer from empty string"
  | .invalidDigit => "invalid digit found in string"
  | .tooLarge => "number too large to fit in target type"
  | .tooSmall => "number too small to fit in target type"

/-- Read on behind digits worth `value`; past `limit` the fault is `excess`. -/
def scan (limit : Nat) (excess : Fault) (value : Nat) : List Char → Except Fault Nat
  | [] => .ok value
  | c :: cs =>
    if c.isDigit then
      let next := 10 * value + (c.toNat - '0'.toNat)
      if limit < next then .error excess else scan limit excess next cs
    else .error .invalidDigit

/-- A magnitude behind its sign, where a digit at least is due. -/
def magnitude (limit : Nat) (excess : Fault) (cs : List Char) : Except Fault Nat :=
  if cs = [] then .error .invalidDigit else scan limit excess 0 cs

def readNat (limit : Nat) : List Char → Except Fault Nat
  | [] => .error .empty
  | '+' :: cs => magnitude limit .tooLarge cs
  | cs => magnitude limit .tooLarge cs

def readInt (least greatest : Nat) : List Char → Except Fault Int
  | [] => .error .empty
  | '-' :: cs => (magnitude least .tooSmall cs).map fun n : Nat => -(n : Int)
  | '+' :: cs => (magnitude greatest .tooLarge cs).map Int.ofNat
  | cs => (magnitude greatest .tooLarge cs).map Int.ofNat

def readUInt64 (s : String) : Except Fault UInt64 :=
  (readNat 0xFFFFFFFFFFFFFFFF s.toList).map UInt64.ofNat

def readInt32 (s : String) : Except Fault Int32 :=
  (readInt 0x80000000 0x7FFFFFFF s.toList).map Int32.ofInt

theorem scan_le {limit : Nat} {excess : Fault} {cs : List Char} {value n : Nat}
    (hv : value ≤ limit) (h : scan limit excess value cs = .ok n) : n ≤ limit := by
  induction cs generalizing value with
  | nil =>
    cases h
    exact hv
  | cons c cs ih =>
    simp only [scan] at h
    split at h
    · split at h
      · cases h
      · exact ih (by omega) h
    · cases h

end FeaturePipeline.Integer

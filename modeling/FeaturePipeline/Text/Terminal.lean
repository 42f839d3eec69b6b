/-! Texts written to where no terminal reads them. Control characters and escape sequences are
left out, and the white space among the control characters stays. Main statements: what is left
holds nothing that would be left out, and a text without control characters is left as it is. -/
namespace FeaturePipeline.Text

/-- Where a text stands with respect to escape sequences. -/
inductive Sequence where
  | outside
  | escape
  | escapeIntermediate
  /-- A control sequence, whose last character is a letter or a sign like one. -/
  | control
  | deviceStart
  | deviceParameter
  | deviceIntermediate
  /-- A string of data for the terminal. -/
  | data
  /-- A command to the system that the terminal belongs to. -/
  | command
deriving DecidableEq

def within (first last : Nat) (c : Char) : Bool :=
  decide (first ≤ c.toNat) && decide (c.toNat ≤ last)

def isLayout (c : Char) : Bool := c == '\t' || c == '\n' || c == '\x0c' || c == '\r'

def isGraphic (c : Char) : Bool := !within 0x00 0x1F c && c != '\x7f'

/-- The byte that ends a string of data, wherever it stands in the encoding of a character. -/
def holdsTerminator (c : Char) : Bool := (String.utf8EncodeChar c).contains 0x9C

namespace Sequence

def shows : Sequence → Char → Bool
  | outside, c => isGraphic c || isLayout c
  | escape, c | escapeIntermediate, c | control, c => isLayout c
  | _, _ => false

def next (s : Sequence) (c : Char) : Sequence :=
  if c = '\x18' ∨ c = '\x1a' then outside
  else if c = '\x1b' then escape
  else match s with
    | outside => outside
    | escape =>
      if c = '[' then control
      else if c = ']' then command
      else if c = 'P' then deviceStart
      else if c = 'X' ∨ c = '^' ∨ c = '_' then data
      else if within 0x20 0x2F c then escapeIntermediate
      else if within 0x30 0x7E c then outside
      else escape
    | escapeIntermediate => if within 0x30 0x7E c then outside else escapeIntermediate
    | control => if within 0x40 0x7E c then outside else control
    | deviceStart =>
      if within 0x20 0x2F c then deviceIntermediate
      else if within 0x30 0x3F c then deviceParameter
      else if within 0x40 0x7E c then data
      else deviceStart
    | deviceParameter =>
      if within 0x20 0x2F c then deviceIntermediate
      else if within 0x3C 0x7E c then data
      else deviceParameter
    | deviceIntermediate => if within 0x30 0x7E c then data else deviceIntermediate
    | data => if holdsTerminator c then outside else data
    | command => if c = '\x07' then outside else command

/-- The characters that are written. White space breaks into a sequence: what follows it is
text, until a control character takes the sequence up again or a character beyond ASCII ends it. -/
def written (s : Sequence) (broken : Bool) : List Char → List Char
  | [] => []
  | c :: cs =>
    if (if broken then outside else s).shows c then
      c :: written (if within 0x00 0x7F c then s else outside) true cs
    else written (s.next c) false cs

theorem outside_shows {s : Sequence} {c : Char} (h : s.shows c = true) :
    outside.shows c = true := by
  cases s <;> simp_all [shows]

theorem shows_of_mem_written {s : Sequence} {broken : Bool} {cs : List Char} {c : Char}
    (h : c ∈ s.written broken cs) : outside.shows c = true := by
  induction cs generalizing s broken with
  | nil => simp [written] at h
  | cons d cs ih =>
    rw [written] at h
    by_cases hd : (if broken then outside else s).shows d = true
    · rw [if_pos hd] at h
      rcases List.mem_cons.mp h with rfl | h
      · exact outside_shows hd
      · exact ih h
    · rw [if_neg hd] at h
      exact ih h

theorem written_of_shown (broken : Bool) {cs : List Char}
    (h : ∀ c ∈ cs, outside.shows c = true) : outside.written broken cs = cs := by
  induction cs generalizing broken with
  | nil => rfl
  | cons c cs ih =>
    simp only [List.mem_cons, forall_eq_or_imp] at h
    simp [written, h.1, ih true h.2]

end Sequence

/-- What is left of a text without its control characters and escape sequences. -/
def visible (cs : List Char) : List Char := Sequence.outside.written false cs

theorem shows_of_mem_visible {cs : List Char} {c : Char} (h : c ∈ visible cs) :
    Sequence.outside.shows c = true := Sequence.shows_of_mem_written h

theorem visible_of_shown {cs : List Char} (h : ∀ c ∈ cs, Sequence.outside.shows c = true) :
    visible cs = cs := Sequence.written_of_shown false h

@[simp] theorem visible_visible (cs : List Char) : visible (visible cs) = visible cs :=
  visible_of_shown fun _ h => shows_of_mem_visible h

end FeaturePipeline.Text

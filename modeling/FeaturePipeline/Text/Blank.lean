/-! White space in the sense of the Unicode property White_Space, and trimming by it. -/
namespace FeaturePipeline.Text

/-- The code points of White_Space, as closed ranges. -/
def blankRanges : List (Nat × Nat) :=
  [(0x09, 0x0D), (0x20, 0x20), (0x85, 0x85), (0xA0, 0xA0), (0x1680, 0x1680), (0x2000, 0x200A),
   (0x2028, 0x2029), (0x202F, 0x202F), (0x205F, 0x205F), (0x3000, 0x3000)]

def isBlank (c : Char) : Bool :=
  blankRanges.any fun r => decide (r.1 ≤ c.toNat) && decide (c.toNat ≤ r.2)

def trim (cs : List Char) : List Char :=
  ((cs.dropWhile isBlank).reverse.dropWhile isBlank).reverse

@[simp] theorem trim_nil : trim [] = [] := rfl

theorem dropWhile_eq_nil_of_all {cs : List Char} (h : ∀ c ∈ cs, isBlank c = true) :
    cs.dropWhile isBlank = [] := by
  induction cs with
  | nil => rfl
  | cons c cs ih =>
    simp only [List.mem_cons, forall_eq_or_imp] at h
    simp [h.1, ih h.2]

theorem trim_of_all {cs : List Char} (h : ∀ c ∈ cs, isBlank c = true) : trim cs = [] := by
  simp [trim, dropWhile_eq_nil_of_all h]

theorem dropWhile_append_of_all {as cs : List Char} (h : ∀ c ∈ as, isBlank c = true) :
    (as ++ cs).dropWhile isBlank = cs.dropWhile isBlank := by
  induction as with
  | nil => rfl
  | cons a as ih =>
    simp only [List.mem_cons, forall_eq_or_imp] at h
    simp [h.1, ih h.2]

theorem dropWhile_of_head {cs : List Char} (h : ∀ c ∈ cs.head?, isBlank c = false) :
    cs.dropWhile isBlank = cs := by
  cases cs with
  | nil => rfl
  | cons c cs => simp [h c rfl]

theorem trim_of_ends {cs : List Char} (hh : ∀ c ∈ cs.head?, isBlank c = false)
    (hl : ∀ c ∈ cs.getLast?, isBlank c = false) : trim cs = cs := by
  rw [trim, dropWhile_of_head hh, dropWhile_of_head (by simpa using hl), List.reverse_reverse]

theorem trim_append_left {as cs : List Char} (h : ∀ c ∈ as, isBlank c = true) :
    trim (as ++ cs) = trim cs := by
  rw [trim, dropWhile_append_of_all h, trim]

theorem trim_append_right {cs bs : List Char} (h : ∀ c ∈ bs, isBlank c = true) :
    trim (cs ++ bs) = trim cs := by
  have hreverse : ∀ c ∈ bs.reverse, isBlank c = true := by simpa using h
  rw [trim, trim, List.dropWhile_append]
  split
  · rename_i hcs
    rw [List.isEmpty_iff] at hcs
    rw [hcs, dropWhile_eq_nil_of_all h]
  · rw [List.reverse_append, dropWhile_append_of_all hreverse]

end FeaturePipeline.Text

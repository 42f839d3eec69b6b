/-! Splitting a sequence at its separators. The pieces keep their order, empty ones
included, and no separator stands inside a piece. Lines are pieces that keep the separator at
their end. -/
namespace FeaturePipeline.Text

def attach {α : Type} (x : α) : List (List α) → List (List α)
  | [] => [[x]]
  | p :: ps => (x :: p) :: ps

/-- The pieces between the elements that satisfy `sep`; there is one more than separators. -/
def pieces {α : Type} (sep : α → Bool) (xs : List α) : List (List α) :=
  xs.foldr (fun x ps => if sep x then [] :: ps else attach x ps) [[]]

/-- The lines, each with the separator that ends it. The last one may lack it, but no line is
empty. -/
def lines {α : Type} (sep : α → Bool) (xs : List α) : List (List α) :=
  xs.foldr (fun x ls => if sep x then [x] :: ls else attach x ls) []

variable {α : Type} {sep : α → Bool}

@[simp] theorem pieces_nil : pieces sep [] = [[]] := rfl

theorem pieces_cons (x : α) (xs : List α) :
    pieces sep (x :: xs) = if sep x then [] :: pieces sep xs else attach x (pieces sep xs) := rfl

@[simp] theorem attach_ne_nil (x : α) (ps : List (List α)) : attach x ps ≠ [] := by
  cases ps <;> simp [attach]

@[simp] theorem pieces_ne_nil (xs : List α) : pieces sep xs ≠ [] := by
  cases xs with
  | nil => simp
  | cons x xs => rw [pieces_cons]; split <;> simp

theorem pieces_of_none {xs : List α} (h : ∀ x ∈ xs, sep x = false) : pieces sep xs = [xs] := by
  induction xs with
  | nil => rfl
  | cons x xs ih =>
    simp only [List.mem_cons, forall_eq_or_imp] at h
    simp [pieces_cons, h.1, ih h.2, attach]

theorem attach_append (x : α) {ps qs : List (List α)} (h : ps ≠ []) :
    attach x (ps ++ qs) = attach x ps ++ qs := by
  cases ps with
  | nil => exact absurd rfl h
  | cons p ps => rfl

theorem pieces_append_sep (xs ys : List α) {s : α} (hs : sep s = true) :
    pieces sep (xs ++ s :: ys) = pieces sep xs ++ pieces sep ys := by
  induction xs with
  | nil => simp [pieces_cons, hs]
  | cons x xs ih =>
    simp only [List.cons_append, pieces_cons, ih]
    split
    · rfl
    · exact attach_append x (pieces_ne_nil xs)

theorem not_sep_of_mem_attach {x : α} {ps : List (List α)} (hx : sep x = false)
    (h : ∀ p ∈ ps, ∀ y ∈ p, sep y = false) : ∀ p ∈ attach x ps, ∀ y ∈ p, sep y = false := by
  cases ps with
  | nil => simp [attach, hx]
  | cons p ps =>
    simp only [List.mem_cons, forall_eq_or_imp] at h
    simp only [attach, List.mem_cons, forall_eq_or_imp]
    exact ⟨⟨hx, h.1⟩, h.2⟩

theorem not_sep_of_mem_pieces (xs : List α) : ∀ p ∈ pieces sep xs, ∀ y ∈ p, sep y = false := by
  induction xs with
  | nil => simp
  | cons x xs ih =>
    rw [pieces_cons]
    split
    · simpa using ih
    · rename_i hx
      exact not_sep_of_mem_attach (by simpa using hx) ih

theorem lines_cons (x : α) (xs : List α) :
    lines sep (x :: xs) = if sep x then [x] :: lines sep xs else attach x (lines sep xs) := rfl

/-- Lines are the pieces with a separator behind all but the last one, which does not count where
it is empty. -/
theorem lines_eq [DecidableEq α] (s : α) (xs : List α) : ∃ ended last,
    pieces (· == s) xs = ended ++ [last] ∧
      lines (· == s) xs = ended.map (· ++ [s]) ++ if last = [] then [] else [last] := by
  induction xs with
  | nil => exact ⟨[], [], rfl, rfl⟩
  | cons x xs ih =>
    obtain ⟨ended, last, hp, hl⟩ := ih
    rw [pieces_cons, lines_cons, hp, hl]
    by_cases hx : x = s
    · subst hx
      exact ⟨[] :: ended, last, by simp, by simp⟩
    · have hsep : ¬(x == s) = true := by simpa using hx
      rw [if_neg hsep, if_neg hsep]
      cases ended with
      | nil =>
        refine ⟨[], x :: last, rfl, ?_⟩
        cases last <;> rfl
      | cons p ended => exact ⟨(x :: p) :: ended, last, rfl, rfl⟩

end FeaturePipeline.Text

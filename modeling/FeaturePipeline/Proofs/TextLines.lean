import Mathlib.Data.List.TakeWhile
import Mathlib.Data.Set.List
import FeaturePipeline.ImageList

/-! Lines of bytes and lines of text. Main statement: reading a file line by line is decoding it
as a whole and then reading the lines of its text, and a file with a line that is no text is no
text itself. -/
namespace FeaturePipeline
namespace Text

section Pieces

variable {α : Type}

theorem foldr_attach_cons (xs p : List α) (ps : List (List α)) :
    xs.foldr attach (p :: ps) = (xs ++ p) :: ps := by
  induction xs with
  | nil => rfl
  | cons x xs ih => simp [ih, attach]

theorem pieces_append_of_none {sep : α → Bool} {xs : List α} (h : ∀ x ∈ xs, sep x = false)
    (ys : List α) : pieces sep (xs ++ ys) = xs.foldr attach (pieces sep ys) := by
  induction xs with
  | nil => rfl
  | cons x xs ih =>
    simp only [List.mem_cons, forall_eq_or_imp] at h
    simp [pieces_cons, h.1, ih h.2]

theorem intercalate_attach (s : List α) (x : α) {ps : List (List α)} (h : ps ≠ []) :
    s.intercalate (attach x ps) = x :: s.intercalate ps := by
  cases ps with
  | nil => exact absurd rfl h
  | cons p ps => cases ps <;> simp [attach, List.intercalate]

theorem intercalate_pieces [DecidableEq α] (s : α) (xs : List α) :
    [s].intercalate (pieces (· == s) xs) = xs := by
  induction xs with
  | nil => rfl
  | cons x xs ih =>
    rw [pieces_cons]
    by_cases hx : x = s
    · have hne : pieces (· == s) xs ≠ [] := pieces_ne_nil xs
      obtain ⟨p, ps, hp⟩ := List.exists_cons_of_ne_nil hne
      rw [hp] at ih ⊢
      simpa [hx, List.intercalate] using ih
    · simp only [beq_iff_eq, hx, if_false]
      rw [intercalate_attach _ _ (pieces_ne_nil xs), ih]

theorem pieces_append_cons [DecidableEq α] (s : α) (xs ys : List α) :
    pieces (· == s) (xs ++ s :: ys) = pieces (· == s) xs ++ pieces (· == s) ys :=
  pieces_append_sep xs ys (beq_self_eq_true s)

end Pieces

def encodeChars (cs : List Char) : List UInt8 := cs.flatMap String.utf8EncodeChar

theorem encodeUtf8_eq (s : String) : encodeUtf8 s = encodeChars s.toList := rfl

@[simp] theorem encodeChars_nil : encodeChars [] = [] := rfl

@[simp] theorem encodeChars_cons (c : Char) (cs : List Char) :
    encodeChars (c :: cs) = String.utf8EncodeChar c ++ encodeChars cs := List.flatMap_cons

@[simp] theorem encodeChars_append (as bs : List Char) :
    encodeChars (as ++ bs) = encodeChars as ++ encodeChars bs := List.flatMap_append

theorem decodeUtf8?_encodeChars (cs : List Char) :
    decodeUtf8? (encodeChars cs) = some (String.ofList cs) := by
  have h := decodeUtf8?_encodeUtf8 (String.ofList cs)
  rwa [encodeUtf8_eq, String.toList_ofList] at h

theorem encodeUtf8_injective {s t : String} (h : encodeUtf8 s = encodeUtf8 t) : s = t := by
  have hs := decodeUtf8?_encodeUtf8 s
  rw [h, decodeUtf8?_encodeUtf8] at hs
  exact (Option.some.inj hs).symm

theorem exists_encodeChars_of_decode {bs : List UInt8} (h : decodeUtf8? bs ≠ none) :
    ∃ cs, bs = encodeChars cs := by
  obtain ⟨s, hs⟩ := Option.ne_none_iff_exists'.mp h
  exact ⟨s.toList, decodeUtf8?_eq_some_iff.mp hs⟩

/-- A byte of an encoded character is the character itself, or it is beyond ASCII. -/
theorem toNat_of_mem_utf8EncodeChar {c : Char} {b : UInt8} (hb : b ∈ String.utf8EncodeChar c) :
    b.toNat = c.toNat ∨ 128 ≤ b.toNat := by
  have hc : c.toNat = c.val.toNat := rfl
  simp only [String.utf8EncodeChar] at hb
  split_ifs at hb with h1 h2 h3
  · obtain rfl := List.mem_singleton.mp hb
    left
    rw [hc, UInt8.toNat_ofNat']
    omega
  all_goals right
  all_goals simp only [List.mem_cons, List.not_mem_nil, or_false] at hb
  · rcases hb with rfl | rfl <;> (rw [UInt8.toNat_ofNat']; omega)
  · rcases hb with rfl | rfl | rfl <;> (rw [UInt8.toNat_ofNat']; omega)
  · rcases hb with rfl | rfl | rfl | rfl <;> (rw [UInt8.toNat_ofNat']; omega)

theorem newline_not_mem_utf8EncodeChar {c : Char} (hc : c ≠ '\n') :
    ∀ b ∈ String.utf8EncodeChar c, (b == ImageList.newline) = false := by
  intro b hb
  rw [beq_eq_false_iff_ne]
  intro h
  subst h
  have hn : ImageList.newline.toNat = 10 := rfl
  rcases toNat_of_mem_utf8EncodeChar hb with h | h
  · exact hc (Char.toNat_inj.mp h.symm)
  · omega

theorem pieces_encodeChars (cs : List Char) :
    pieces (· == ImageList.newline) (encodeChars cs) =
      (pieces (· == '\n') cs).map encodeChars := by
  induction cs with
  | nil => rfl
  | cons c cs ih =>
    rw [encodeChars_cons, pieces_cons]
    by_cases hc : c = '\n'
    · subst hc
      have he : String.utf8EncodeChar '\n' = [ImageList.newline] := by decide
      simp [he, pieces_cons, ih]
    · have hne : pieces (· == '\n') cs ≠ [] := pieces_ne_nil cs
      obtain ⟨p, ps, hp⟩ := List.exists_cons_of_ne_nil hne
      rw [pieces_append_of_none (newline_not_mem_utf8EncodeChar hc), ih, hp]
      simp [hc, attach, foldr_attach_cons]

theorem encodeChars_intercalate (ts : List (List Char)) :
    encodeChars (['\n'].intercalate ts) = [ImageList.newline].intercalate (ts.map encodeChars) := by
  have he : String.utf8EncodeChar '\n' = [ImageList.newline] := by decide
  induction ts with
  | nil => rfl
  | cons t ts ih =>
    cases ts with
    | nil => simp [List.intercalate]
    | cons u ts => simpa [List.intercalate, he] using ih

theorem decodeUtf8?_eq_none_iff {bs : List UInt8} :
    decodeUtf8? bs = none ↔
      ∃ line ∈ pieces (· == ImageList.newline) bs, decodeUtf8? line = none := by
  constructor
  · intro h
    by_contra hall
    have hd : pieces (· == ImageList.newline) bs ∈ Set.range (List.map encodeChars) := by
      rw [Set.range_list_map]
      intro line hl
      obtain ⟨cs, hcs⟩ := exists_encodeChars_of_decode fun hn => hall ⟨line, hl, hn⟩
      exact ⟨cs, hcs.symm⟩
    obtain ⟨ts, hts⟩ := hd
    have hb := intercalate_pieces ImageList.newline bs
    rw [← hts, ← encodeChars_intercalate] at hb
    rw [← hb, decodeUtf8?_encodeChars] at h
    exact absurd h (by simp)
  · intro ⟨line, hl, hn⟩
    by_contra h
    obtain ⟨cs, rfl⟩ := exists_encodeChars_of_decode h
    rw [pieces_encodeChars] at hl
    obtain ⟨p, -, rfl⟩ := List.mem_map.mp hl
    rw [decodeUtf8?_encodeChars] at hn
    exact absurd hn (by simp)

theorem trim_eq_nil_iff {cs : List Char} : trim cs = [] ↔ ∀ c ∈ cs, isBlank c = true := by
  constructor
  · intro h
    have hd : ∀ c ∈ (cs.dropWhile isBlank).reverse, isBlank c = true := by
      rw [← List.dropWhile_eq_nil_iff]
      simpa [trim] using h
    rw [← List.dropWhile_eq_nil_iff]
    cases he : cs.dropWhile isBlank with
    | nil => rfl
    | cons c rest =>
      have hc := List.head?_dropWhile_not isBlank cs
      rw [he] at hc hd
      have hb : isBlank c = true := hd c (by simp)
      simp [hb] at hc
  · exact trim_of_all

/-- The trimmed lines of a text, blank ones left out. -/
def contentLines (s : String) : List String :=
  (((pieces (· == '\n') s.toList).map trim).filter (! ·.isEmpty)).map String.ofList

theorem contentLines_eq_nil_iff {s : String} :
    contentLines s = [] ↔
      ∀ line ∈ pieces (· == '\n') s.toList, ∀ c ∈ line, isBlank c = true := by
  simp [contentLines, trim_eq_nil_iff]

theorem decodeUtf8?_append_newline_eq_none_iff {bs : List UInt8} :
    decodeUtf8? (bs ++ [ImageList.newline]) = none ↔ decodeUtf8? bs = none := by
  have hempty : decodeUtf8? [] = some "" := decodeUtf8?_encodeChars []
  rw [decodeUtf8?_eq_none_iff, decodeUtf8?_eq_none_iff, pieces_append_cons]
  simp [hempty]

theorem encodeChars_append_newline (cs : List Char) :
    encodeChars (cs ++ ['\n']) = encodeChars cs ++ [ImageList.newline] := by
  have he : String.utf8EncodeChar '\n' = [ImageList.newline] := by decide
  simp [he]

end Text

namespace ImageList

theorem isBlank_newline : ∀ c ∈ ['\n'], Text.isBlank c = true :=
  List.forall_mem_singleton.mpr (by decide)

theorem isBlank_return_newline : ∀ c ∈ ['\r', '\n'], Text.isBlank c = true :=
  List.forall_mem_cons.mpr ⟨by decide, isBlank_newline⟩

theorem trim_chomp (cs : List Char) : Text.trim (chomp cs) = Text.trim cs := by
  unfold chomp
  split
  · rename_i rest h
    have hcs : cs = rest.reverse ++ ['\r', '\n'] := by simpa using congrArg List.reverse h
    rw [hcs, Text.trim_append_right isBlank_return_newline]
  · rename_i rest _ h
    have hcs : cs = rest.reverse ++ ['\n'] := by simpa using congrArg List.reverse h
    rw [hcs, Text.trim_append_right isBlank_newline]
  · rfl

theorem readLine_encodeChars (cs : List Char) :
    readLine (Text.encodeChars cs) = .ok (Text.trim cs) := by
  simp [readLine, Text.decodeUtf8?_encodeChars, trim_chomp]

theorem readLine_of_not_text {line : List UInt8} (h : Text.decodeUtf8? line = none) :
    readLine line = .error .notUtf8 := by
  simp [readLine, h]

theorem readLine_append_newline (line : List UInt8) :
    readLine (line ++ [newline]) = readLine line := by
  by_cases h : Text.decodeUtf8? line = none
  · have hended := Text.decodeUtf8?_append_newline_eq_none_iff.mpr h
    rw [readLine_of_not_text h, readLine_of_not_text hended]
  · obtain ⟨cs, rfl⟩ := Text.exists_encodeChars_of_decode h
    rw [← Text.encodeChars_append_newline, readLine_encodeChars, readLine_encodeChars,
      Text.trim_append_right isBlank_newline]

/-- Reading line by line is reading what stands between the newlines. -/
theorem ofBytes_eq (bytes : List UInt8) : ofBytes bytes =
    ((Text.pieces (· == newline) bytes).mapM readLine).map fun lines =>
      (lines.filter (! ·.isEmpty)).map String.ofList := by
  obtain ⟨ended, last, hpieces, hlines⟩ := Text.lines_eq newline bytes
  have hended : (ended.map (· ++ [newline])).mapM readLine = ended.mapM readLine := by
    rw [List.mapM_map]
    exact congrArg (List.mapM · ended) (funext readLine_append_newline)
  have hblank : ([[]] : List (List UInt8)).mapM readLine = .ok [[]] := rfl
  rw [ofBytes, hpieces, hlines, List.mapM_append, List.mapM_append, hended]
  cases ended.mapM readLine with
  | error fault => rfl
  | ok lines =>
    split
    · rename_i hlast
      rw [hlast, hblank]
      simp [bind, Except.bind, pure, Except.pure, Except.map]
    · cases [last].mapM readLine <;> rfl

theorem mapM_readLine_encodeChars (ts : List (List Char)) :
    (ts.map Text.encodeChars).mapM readLine = .ok (ts.map Text.trim) := by
  induction ts with
  | nil => rfl
  | cons t ts ih =>
    rw [List.map_cons, List.mapM_cons, readLine_encodeChars, ih]
    rfl

theorem mapM_readLine_of_not_text {lines : List (List UInt8)}
    (h : ∃ line ∈ lines, Text.decodeUtf8? line = none) :
    lines.mapM readLine = .error .notUtf8 := by
  induction lines with
  | nil => simp at h
  | cons line lines ih =>
    rw [List.mapM_cons]
    by_cases hd : Text.decodeUtf8? line = none
    · rw [readLine_of_not_text hd]
      rfl
    · have hlines : ∃ line ∈ lines, Text.decodeUtf8? line = none := by simpa [hd] using h
      obtain ⟨cs, rfl⟩ := Text.exists_encodeChars_of_decode hd
      rw [readLine_encodeChars, ih hlines]
      rfl

theorem ofBytes_encodeUtf8 (s : String) :
    ofBytes (Text.encodeUtf8 s) = .ok (Text.contentLines s) := by
  rw [Text.encodeUtf8_eq, ofBytes_eq, Text.pieces_encodeChars, mapM_readLine_encodeChars]
  rfl

theorem ofBytes_of_not_text {bytes : List UInt8} (h : Text.decodeUtf8? bytes = none) :
    ofBytes bytes = .error .notUtf8 := by
  rw [ofBytes_eq, mapM_readLine_of_not_text (Text.decodeUtf8?_eq_none_iff.mp h)]
  rfl

theorem ofBytes_eq_ok_iff {bytes : List UInt8} {images : List String} :
    ofBytes bytes = .ok images ↔
      ∃ s, bytes = Text.encodeUtf8 s ∧ images = Text.contentLines s := by
  cases hd : Text.decodeUtf8? bytes with
  | none =>
    rw [ofBytes_of_not_text hd]
    constructor
    · intro h
      cases h
    · intro ⟨s, hs, _⟩
      rw [hs] at hd
      simp at hd
  | some s =>
    obtain rfl := Text.decodeUtf8?_eq_some_iff.mp hd
    rw [ofBytes_encodeUtf8]
    constructor
    · intro h
      cases h
      exact ⟨s, rfl, rfl⟩
    · intro ⟨t, ht, himages⟩
      subst himages
      rw [ht, Text.decodeUtf8?_encodeUtf8] at hd
      rw [Option.some.inj hd]

theorem ofBytes_eq_error_iff {bytes : List UInt8} {fault : FileFault} :
    ofBytes bytes = .error fault ↔ fault = .notUtf8 ∧ Text.decodeUtf8? bytes = none := by
  cases hd : Text.decodeUtf8? bytes with
  | none => simp [ofBytes_of_not_text hd, eq_comm]
  | some s =>
    obtain rfl := Text.decodeUtf8?_eq_some_iff.mp hd
    simp [ofBytes_encodeUtf8]

variable {files : FileSource} {path : String}

/-- A file that cannot be read, or one with a line that is no text. -/
inductive Unreadable (files : FileSource) (path : String) : FileFault → Prop where
  | noFile {fault : FileFault} (h : files path = .error fault) : Unreadable files path fault
  | notText {bytes line : List UInt8} (h : files path = .ok bytes)
    (hl : line ∈ Text.pieces (· == newline) bytes) (hn : Text.decodeUtf8? line = none) :
    Unreadable files path .notUtf8

def AllBlank (files : FileSource) (path : String) : Prop :=
  ∃ bytes, files path = .ok bytes ∧ ∀ line ∈ Text.pieces (· == newline) bytes,
    ∃ s, Text.decodeUtf8? line = some s ∧ ∀ c ∈ s.toList, Text.isBlank c = true

theorem read_eq_error_iff {fault : FileFault} :
    read files path = .error fault ↔ Unreadable files path fault := by
  unfold read
  cases h : files path with
  | error e =>
    constructor
    · intro hfault
      cases hfault
      exact .noFile h
    · intro hfault
      cases hfault with
      | noFile h' =>
        rw [h] at h'
        cases h'
        rfl
      | notText h' hl hn =>
        rw [h] at h'
        cases h'
  | ok bytes =>
    change ofBytes bytes = .error fault ↔ _
    rw [ofBytes_eq_error_iff, Text.decodeUtf8?_eq_none_iff]
    constructor
    · intro ⟨hfault, line, hl, hn⟩
      subst hfault
      exact .notText h hl hn
    · intro hfault
      cases hfault with
      | noFile h' =>
        rw [h] at h'
        cases h'
      | notText h' hl hn =>
        rw [h] at h'
        cases h'
        exact ⟨rfl, _, hl, hn⟩

theorem read_eq_ok_iff {images : List String} :
    read files path = .ok images ↔
      ∃ s, files path = .ok (Text.encodeUtf8 s) ∧ images = Text.contentLines s := by
  unfold read
  cases h : files path with
  | error e =>
    constructor
    · intro h
      cases h
    · intro ⟨s, hs, _⟩
      cases hs
  | ok bytes =>
    change ofBytes bytes = .ok images ↔ _
    rw [ofBytes_eq_ok_iff]
    simp

theorem read_eq_nil_iff : read files path = .ok [] ↔ AllBlank files path := by
  rw [read_eq_ok_iff]
  constructor
  · intro ⟨s, h, hs⟩
    refine ⟨_, h, ?_⟩
    rw [Text.encodeUtf8_eq, Text.pieces_encodeChars]
    intro line hl
    obtain ⟨p, hp, rfl⟩ := List.mem_map.mp hl
    have hb := Text.contentLines_eq_nil_iff.mp hs.symm p hp
    exact ⟨_, Text.decodeUtf8?_encodeChars p, by simpa using hb⟩
  · intro ⟨bytes, h, hall⟩
    cases hd : Text.decodeUtf8? bytes with
    | none =>
      obtain ⟨line, hl, hn⟩ := Text.decodeUtf8?_eq_none_iff.mp hd
      obtain ⟨s, hs, -⟩ := hall line hl
      simp [hn] at hs
    | some s =>
      obtain rfl := Text.decodeUtf8?_eq_some_iff.mp hd
      refine ⟨s, h, ?_⟩
      symm
      rw [Text.contentLines_eq_nil_iff]
      intro p hp
      rw [Text.encodeUtf8_eq, Text.pieces_encodeChars] at hall
      obtain ⟨t, ht, hb⟩ := hall _ (List.mem_map_of_mem hp)
      rw [Text.decodeUtf8?_encodeChars] at ht
      cases ht
      simpa using hb

end ImageList
end FeaturePipeline

import Mathlib.Data.List.Forall2
import FeaturePipeline.Proofs.TextLines

/-! List files as byte sequences. Main statement: a file is read as a whole or not at all, and what
is read are the lines between its newlines, trimmed, without the blank ones. -/
namespace FeaturePipeline
namespace Text

/-- A text and what is left of it without the blanks at both ends. -/
structure Trimmed (cs rest : List Char) : Prop where
  between : ∃ before after, cs = before ++ (rest ++ after) ∧
    (∀ c ∈ before, isBlank c = true) ∧ ∀ c ∈ after, isBlank c = true
  head : ∀ c ∈ rest.head?, isBlank c = false
  last : ∀ c ∈ rest.getLast?, isBlank c = false

theorem exists_blank_prefix (cs : List Char) : ∃ before, (∀ c ∈ before, isBlank c = true) ∧
    cs = before ++ cs.dropWhile isBlank ∧ ∀ c ∈ (cs.dropWhile isBlank).head?, isBlank c = false := by
  refine ⟨cs.takeWhile isBlank, fun c hc => List.mem_takeWhile_imp hc,
    List.takeWhile_append_dropWhile.symm, fun c hc => ?_⟩
  have hhead := List.head?_dropWhile_not isBlank cs
  rw [Option.mem_def.mp hc] at hhead
  simpa using hhead

theorem trimmed_trim (cs : List Char) : Trimmed cs (trim cs) := by
  obtain ⟨before, hbefore, hcs, hhead⟩ := exists_blank_prefix cs
  obtain ⟨after, hafter, hrest, hlast⟩ := exists_blank_prefix (cs.dropWhile isBlank).reverse
  rw [trim]
  generalize cs.dropWhile isBlank = rest at *
  generalize rest.reverse.dropWhile isBlank = kept at *
  have hkept : rest = kept.reverse ++ after.reverse := by simpa using congrArg List.reverse hrest
  refine ⟨⟨before, after.reverse, by rw [← hkept, ← hcs], hbefore, by simpa using hafter⟩, ?_, ?_⟩
  · intro c hc
    refine hhead c ?_
    rw [hkept, List.head?_append, Option.mem_def.mp hc]
    rfl
  · simpa using hlast

theorem Trimmed.eq_trim {cs rest : List Char} (h : Trimmed cs rest) : rest = trim cs := by
  obtain ⟨before, after, rfl, hbefore, hafter⟩ := h.between
  rw [trim_append_left hbefore, trim_append_right hafter, trim_of_ends h.head h.last]

theorem forall₂_trimmed_iff {lines rests : List (List Char)} :
    List.Forall₂ Trimmed lines rests ↔ rests = lines.map trim := by
  constructor
  · intro h
    induction h with
    | nil => rfl
    | cons hl _ ih => rw [hl.eq_trim, ih, List.map_cons]
  · rintro rfl
    exact List.forall₂_map_right_iff.mpr (List.forall₂_same.mpr fun cs _ => trimmed_trim cs)

theorem pieces_intercalate {α : Type} [DecidableEq α] {s : α} {lines : List (List α)}
    (hne : lines ≠ []) (h : ∀ line ∈ lines, s ∉ line) :
    pieces (· == s) ([s].intercalate lines) = lines := by
  have hnone : ∀ line ∈ lines, pieces (· == s) line = [line] := fun line hl =>
    pieces_of_none fun c hc => beq_eq_false_iff_ne.mpr fun heq => h line hl (heq ▸ hc)
  clear h
  induction lines with
  | nil => exact absurd rfl hne
  | cons line lines ih =>
    obtain ⟨hline, hlines⟩ := List.forall_mem_cons.mp hnone
    cases lines with
    | nil => simpa [List.intercalate] using hline
    | cons next lines =>
      have hjoin : [s].intercalate (line :: next :: lines) =
          line ++ s :: [s].intercalate (next :: lines) := by simp [List.intercalate]
      rw [hjoin, pieces_append_cons, hline, ih (List.cons_ne_nil _ _) hlines]
      rfl

theorem contentLines_append_newline (s : String) :
    contentLines (s ++ "\n") = contentLines s := by
  have hlast : pieces (· == '\n') (s ++ "\n").toList = pieces (· == '\n') s.toList ++ [[]] := by
    rw [String.toList_append]
    exact pieces_append_cons '\n' s.toList []
  rw [contentLines, hlast, List.map_append, List.filter_append, contentLines]
  simp

theorem encodeUtf8_append_newline (s : String) :
    encodeUtf8 (s ++ "\n") = encodeUtf8 s ++ [ImageList.newline] := by
  rw [encodeUtf8_eq, String.toList_append]
  exact encodeChars_append_newline s.toList

end Text

namespace ImageList

/-- What a list file holds, said of its text: the lines between its newlines, each trimmed, and
those that keep something as they stand. -/
def Lists (bytes : List UInt8) (images : List String) : Prop :=
  ∃ lines rests, lines ≠ [] ∧ (∀ line ∈ lines, '\n' ∉ line) ∧
    bytes = Text.encodeUtf8 (String.ofList (['\n'].intercalate lines)) ∧
    List.Forall₂ Text.Trimmed lines rests ∧
    images = (rests.filter (! ·.isEmpty)).map String.ofList

theorem lists_iff {bytes : List UInt8} {images : List String} :
    Lists bytes images ↔ ∃ s, bytes = Text.encodeUtf8 s ∧ images = Text.contentLines s := by
  constructor
  · rintro ⟨lines, rests, hne, hnone, hbytes, hrests, himages⟩
    refine ⟨_, hbytes, ?_⟩
    rw [himages, Text.forall₂_trimmed_iff.mp hrests, Text.contentLines, String.toList_ofList,
      Text.pieces_intercalate hne hnone]
  · rintro ⟨s, rfl, rfl⟩
    refine ⟨Text.pieces (· == '\n') s.toList, _, Text.pieces_ne_nil _, fun line hl hmem => ?_, ?_,
      Text.forall₂_trimmed_iff.mpr rfl, rfl⟩
    · have hsep := Text.not_sep_of_mem_pieces s.toList line hl _ hmem
      simp at hsep
    · rw [Text.intercalate_pieces, String.ofList_toList]

theorem ofBytes_append_newline (bytes : List UInt8) :
    ofBytes (bytes ++ [newline]) = ofBytes bytes := by
  by_cases h : Text.decodeUtf8? bytes = none
  · rw [ofBytes_of_not_text h,
      ofBytes_of_not_text (Text.decodeUtf8?_append_newline_eq_none_iff.mpr h)]
  · obtain ⟨s, hs⟩ := Option.ne_none_iff_exists'.mp h
    obtain rfl := Text.decodeUtf8?_eq_some_iff.mp hs
    rw [← Text.encodeUtf8_append_newline, ofBytes_encodeUtf8, ofBytes_encodeUtf8,
      Text.contentLines_append_newline]

/-- A file is read exactly when all of its bytes together are text, and then as the lines of that
text. Nothing but a newline ends a line, and one at the end of the file adds none. -/
theorem read_listFile {files : FileSource} {path : String} {bytes : List UInt8}
    (h : files path = .ok bytes) :
    (∀ fault, read files path = .error fault ↔
      fault = .notUtf8 ∧ ¬∃ s, bytes = Text.encodeUtf8 s) ∧
    (∀ images, read files path = .ok images ↔ Lists bytes images) ∧
    ∀ ended : FileSource, ended path = .ok (bytes ++ [newline]) →
      read ended path = read files path := by
  have hread : read files path = ofBytes bytes := by
    rw [read, h]
    rfl
  have htext : Text.decodeUtf8? bytes = none ↔ ¬∃ s, bytes = Text.encodeUtf8 s := by
    rw [← not_iff_not, not_not, ← ne_eq, Option.ne_none_iff_exists']
    exact exists_congr fun s => Text.decodeUtf8?_eq_some_iff
  refine ⟨fun fault => ?_, fun images => ?_, fun ended hended => ?_⟩
  · rw [hread, ofBytes_eq_error_iff, htext]
  · rw [hread, ofBytes_eq_ok_iff, lists_iff]
  · rw [hread, ← ofBytes_append_newline, read, hended]
    rfl

/-- Carriage returns, NULs and the line separators of Unicode stay inside their line. -/
theorem read_listFile_separators : read
    (fun _ => .ok (Text.encodeUtf8 "\t a\rb\x00c\u0085d\u2028e \r\n \u3000\nf")) "images.txt" =
      .ok ["a\rb\x00c\u0085d\u2028e", "f"] :=
  ((read_listFile rfl).2.1 _).mpr
    ⟨["\t a\rb\x00c\u0085d\u2028e \r".toList, " \u3000".toList, "f".toList], _, by decide, by decide,
      by decide, Text.forall₂_trimmed_iff.mpr rfl, by decide⟩

/-- A newline inside a character spoils the file, whatever good lines there are. -/
example : ofBytes [0x61, 0x0A, 0xE2, 0x0A, 0x82, 0xAC] = .error .notUtf8 := by decide

end ImageList
end FeaturePipeline

import FeaturePipeline.Proofs.ListFiles

/-! Layouts of a list of names in a file. A name may be padded within its line, lines that are blank
may stand anywhere, and each line may be ended in either of two ways. Main statement: a file is read
as a list exactly when it is a layout of that list, so a list that was read can be written and read
again. -/
namespace FeaturePipeline
namespace ImageList

/-- A name that can be listed: there is something of it, it is on one line, and neither end of it
can be taken for padding. -/
structure Listable (image : String) : Prop where
  nonempty : image ≠ ""
  oneLine : '\n' ∉ image.toList
  head : ∀ c ∈ image.toList.head?, Text.isBlank c = false
  last : ∀ c ∈ image.toList.getLast?, Text.isBlank c = false

instance (image : String) : Decidable (Listable image) :=
  have : Decidable (∀ c ∈ image.toList.head?, Text.isBlank c = false) :=
    Option.decidableForallMem _
  have : Decidable (∀ c ∈ image.toList.getLast?, Text.isBlank c = false) :=
    Option.decidableForallMem _
  decidable_of_iff (image ≠ "" ∧ '\n' ∉ image.toList ∧
      (∀ c ∈ image.toList.head?, Text.isBlank c = false) ∧
      ∀ c ∈ image.toList.getLast?, Text.isBlank c = false)
    ⟨fun ⟨h1, h2, h3, h4⟩ => ⟨h1, h2, h3, h4⟩, fun h => ⟨h.1, h.2, h.3, h.4⟩⟩

/-- Blanks that stay on their line. -/
def Padding (cs : List Char) : Prop := ∀ c ∈ cs, Text.isBlank c = true ∧ c ≠ '\n'

instance (cs : List Char) : Decidable (Padding cs) :=
  List.decidableBAll (fun c => Text.isBlank c = true ∧ c ≠ '\n') cs

/-- What one line lists, with the text of the line up to its end. -/
inductive Line : List String → List Char → Prop where
  | blank {cs : List Char} (h : Padding cs) : Line [] cs
  | name {before after : List Char} (image : String) (hb : Padding before) (ha : Padding after) :
    Line [image] (before ++ (image.toList ++ after))

inductive LineEnd where
  | newline
  | returnNewline

def LineEnd.text : LineEnd → List Char
  | newline => ['\n']
  | returnNewline => ['\r', '\n']

/-- What a text lists, line by line. The last line has no end; where all lines are ended, an empty
one comes last. -/
inductive Layout : List String → List Char → Prop where
  | last {images : List String} {line : List Char} (h : Line images line) : Layout images line
  | more {images rest : List String} {line text : List Char} (h : Line images line)
    (ending : LineEnd) (hrest : Layout rest text) :
    Layout (images ++ rest) (line ++ (ending.text ++ text))

def write (images : List String) : List UInt8 :=
  Text.encodeUtf8 (String.ofList (images.flatMap fun image => image.toList ++ ['\n']))

theorem Padding.blank {cs : List Char} (h : Padding cs) : ∀ c ∈ cs, Text.isBlank c = true :=
  fun c hc => (h c hc).1

theorem Padding.newline_not_mem {cs : List Char} (h : Padding cs) : '\n' ∉ cs :=
  fun hc => (h '\n' hc).2 rfl

theorem padding_return : Padding ['\r'] := by decide

theorem Padding.append {as bs : List Char} (ha : Padding as) (hb : Padding bs) :
    Padding (as ++ bs) :=
  List.forall_mem_append.mpr ⟨ha, hb⟩

section Read

variable {images : List String} {line text : List Char}

theorem contentLines_append_cons (cs ds : List Char) :
    Text.contentLines (String.ofList (cs ++ '\n' :: ds)) =
      Text.contentLines (String.ofList cs) ++ Text.contentLines (String.ofList ds) := by
  simp [Text.contentLines, Text.pieces_append_cons]

theorem contentLines_of_line (h : '\n' ∉ line) : Text.contentLines (String.ofList line) =
    (if Text.trim line = [] then [] else [String.ofList (Text.trim line)]) := by
  have hpieces : Text.pieces (· == '\n') line = [line] :=
    Text.pieces_of_none fun c hc => beq_eq_false_iff_ne.mpr fun heq => h (heq ▸ hc)
  rw [Text.contentLines, String.toList_ofList, hpieces, List.map_singleton]
  cases Text.trim line <;> rfl

theorem Listable.trim_padded {image : String} {before after : List Char} (h : Listable image)
    (hb : Padding before) (ha : Padding after) :
    Text.trim (before ++ (image.toList ++ after)) = image.toList := by
  rw [Text.trim_append_left hb.blank, Text.trim_append_right ha.blank,
    Text.trim_of_ends h.head h.last]

theorem Line.contentLines_eq (h : Line images line) (hi : ∀ s ∈ images, Listable s) :
    Text.contentLines (String.ofList line) = images := by
  cases h with
  | blank hp => rw [contentLines_of_line hp.newline_not_mem, Text.trim_of_all hp.blank, if_pos rfl]
  | @name before after image hb ha =>
    have hname := hi image (List.mem_singleton_self image)
    have hline : '\n' ∉ before ++ (image.toList ++ after) := by
      simp [hb.newline_not_mem, hname.oneLine, ha.newline_not_mem]
    have htext : image.toList ≠ [] := by simpa using hname.nonempty
    rw [contentLines_of_line hline, hname.trim_padded hb ha, if_neg htext, String.ofList_toList]

theorem Line.append_return (h : Line images line) : Line images (line ++ ['\r']) := by
  cases h with
  | blank hp => exact .blank (hp.append padding_return)
  | name image hb ha =>
    rw [List.append_assoc, List.append_assoc]
    exact .name image hb (ha.append padding_return)

theorem Line.exists_newline (h : Line images line) (ending : LineEnd) :
    ∃ line', Line images line' ∧ line ++ (ending.text ++ text) = line' ++ '\n' :: text := by
  cases ending with
  | newline => exact ⟨line, h, rfl⟩
  | returnNewline => exact ⟨line ++ ['\r'], h.append_return, by simp [LineEnd.text]⟩

theorem Layout.contentLines_eq (h : Layout images text) (hi : ∀ s ∈ images, Listable s) :
    Text.contentLines (String.ofList text) = images := by
  induction h with
  | last h => exact h.contentLines_eq hi
  | more h ending _ ih =>
    obtain ⟨line', hline, htext⟩ := h.exists_newline ending
    obtain ⟨hfirst, hlater⟩ := List.forall_mem_append.mp hi
    rw [htext, contentLines_append_cons, hline.contentLines_eq hfirst, ih hlater]

end Read

theorem newline_not_mem_trim {line : List Char} (h : '\n' ∉ line) : '\n' ∉ Text.trim line := by
  obtain ⟨before, after, hline, -, -⟩ := (Text.trimmed_trim line).between
  rw [hline] at h
  simp only [List.mem_append, not_or] at h
  exact h.2.1

theorem listable_trim {line : List Char} (h : '\n' ∉ line) (hne : Text.trim line ≠ []) :
    Listable (String.ofList (Text.trim line)) := by
  have htrimmed := Text.trimmed_trim line
  constructor
  · simpa using hne
  · simpa using newline_not_mem_trim h
  · simpa using htrimmed.head
  · simpa using htrimmed.last

theorem newline_not_mem_of_mem_pieces {text line : List Char}
    (h : line ∈ Text.pieces (· == '\n') text) : '\n' ∉ line := by
  intro hmem
  have hsep := Text.not_sep_of_mem_pieces text line h _ hmem
  simp at hsep

theorem listable_of_mem_contentLines {s image : String} (h : image ∈ Text.contentLines s) :
    Listable image := by
  simp only [Text.contentLines, List.mem_map, List.mem_filter] at h
  obtain ⟨_, ⟨⟨line, hline, rfl⟩, hne⟩, rfl⟩ := h
  exact listable_trim (newline_not_mem_of_mem_pieces hline) (by simpa using hne)

theorem line_contentLines {line : List Char} (h : '\n' ∉ line) :
    Line (Text.contentLines (String.ofList line)) line := by
  obtain ⟨before, after, hline, hbefore, hafter⟩ := (Text.trimmed_trim line).between
  have hpadding {cs : List Char} (hblank : ∀ c ∈ cs, Text.isBlank c = true) (hsub : cs ⊆ line) :
      Padding cs := fun c hc => ⟨hblank c hc, fun heq => h (heq ▸ hsub hc)⟩
  rw [contentLines_of_line h]
  split
  · rename_i htrim
    exact .blank (hpadding (Text.trim_eq_nil_iff.mp htrim) (List.Subset.refl line))
  · have hname := Line.name (String.ofList (Text.trim line))
      (hpadding hbefore (by rw [hline]; simp)) (hpadding hafter (by rw [hline]; simp))
    rwa [String.toList_ofList, ← hline] at hname

theorem layout_intercalate {lines : List (List Char)} (hne : lines ≠ [])
    (h : ∀ line ∈ lines, '\n' ∉ line) :
    Layout (Text.contentLines (String.ofList (['\n'].intercalate lines)))
      (['\n'].intercalate lines) := by
  induction lines with
  | nil => exact absurd rfl hne
  | cons line lines ih =>
    obtain ⟨hline, hlines⟩ := List.forall_mem_cons.mp h
    cases lines with
    | nil => simpa [List.intercalate] using Layout.last (line_contentLines hline)
    | cons next lines =>
      have hjoin : ['\n'].intercalate (line :: next :: lines) =
          line ++ '\n' :: ['\n'].intercalate (next :: lines) := by simp [List.intercalate]
      rw [hjoin, contentLines_append_cons]
      exact .more (line_contentLines hline) .newline (ih (List.cons_ne_nil _ _) hlines)

/-- Every text is a layout of what is read from it. -/
theorem layout_contentLines (s : String) : Layout (Text.contentLines s) s.toList := by
  have h := layout_intercalate (Text.pieces_ne_nil s.toList)
    fun line hline => newline_not_mem_of_mem_pieces hline
  rwa [Text.intercalate_pieces, String.ofList_toList] at h

theorem layout_write (images : List String) :
    Layout images (images.flatMap fun image => image.toList ++ ['\n']) := by
  have hnone : Padding [] := by decide
  induction images with
  | nil => exact .last (.blank hnone)
  | cons image images ih =>
    have hline : Line [image] image.toList := by simpa using Line.name image hnone hnone
    simpa [LineEnd.text] using Layout.more hline .newline ih

/-- A file is read as a list exactly when it is a layout of that list, and all the names can be
listed. A list that was read is read again from the file in which it is written one name a line. -/
theorem read_layout (files : FileSource) (path : String) (images : List String) :
    (read files path = .ok images ↔ (∀ image ∈ images, Listable image) ∧
      ∃ text, files path = .ok (Text.encodeUtf8 text) ∧ Layout images text.toList) ∧
    (read files path = .ok images → ∀ (others : FileSource) (other : String),
      others other = .ok (write images) → read others other = .ok images) := by
  have hlisted : read files path = .ok images → ∀ image ∈ images, Listable image := by
    intro h
    obtain ⟨text, -, rfl⟩ := read_eq_ok_iff.mp h
    exact fun image hmem => listable_of_mem_contentLines hmem
  have hread {others : FileSource} {other : String} {text : List Char}
      (hi : ∀ image ∈ images, Listable image) (hl : Layout images text)
      (hf : others other = .ok (Text.encodeUtf8 (String.ofList text))) :
      read others other = .ok images :=
    read_eq_ok_iff.mpr ⟨_, hf, (hl.contentLines_eq hi).symm⟩
  refine ⟨⟨fun h => ⟨hlisted h, ?_⟩, fun ⟨hi, text, hf, hl⟩ => ?_⟩, fun h others other hf => ?_⟩
  · obtain ⟨text, hf, rfl⟩ := read_eq_ok_iff.mp h
    exact ⟨text, hf, layout_contentLines text⟩
  · exact hread hi hl (by rw [String.ofList_toList, hf])
  · exact hread (hlisted h) (layout_write images) hf

/-- Two names with blanks inside them, padded, with blank lines around them and both line ends. -/
theorem read_layout_padded :
    read (fun _ => .ok (Text.encodeUtf8
      "\u2003\r\n\ta b.png\u0085 \r\n\x0b\n\u2028c\u2003\rd.png\u3000")) "images.txt" =
        .ok ["a b.png", "c\u2003\rd.png"] ∧
    read (fun _ => .ok (write ["a b.png", "c\u2003\rd.png"])) "again.txt" =
        .ok ["a b.png", "c\u2003\rd.png"] := by
  have hlisted : ∀ image ∈ ["a b.png", "c\u2003\rd.png"], Listable image := by decide
  have hblank : Line [] ['\u2003'] := .blank (by decide)
  have hname : Line ["a b.png"] (['\t'] ++ ("a b.png".toList ++ ['\u0085', ' '])) :=
    .name _ (by decide) (by decide)
  have htab : Line [] ['\x0b'] := .blank (by decide)
  have hlast : Line ["c\u2003\rd.png"] (['\u2028'] ++ ("c\u2003\rd.png".toList ++ ['\u3000'])) :=
    .name _ (by decide) (by decide)
  have hlayout : Layout ["a b.png", "c\u2003\rd.png"]
      "\u2003\r\n\ta b.png\u0085 \r\n\x0b\n\u2028c\u2003\rd.png\u3000".toList :=
    .more hblank .returnNewline (.more hname .returnNewline (.more htab .newline (.last hlast)))
  have h := read_layout (fun _ => .ok (Text.encodeUtf8
    "\u2003\r\n\ta b.png\u0085 \r\n\x0b\n\u2028c\u2003\rd.png\u3000")) "images.txt"
      ["a b.png", "c\u2003\rd.png"]
  have hread := h.1.mpr ⟨hlisted, _, rfl, hlayout⟩
  exact ⟨hread, h.2 hread _ "again.txt" rfl⟩

end ImageList
end FeaturePipeline

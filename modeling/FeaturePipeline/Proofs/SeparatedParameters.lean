import Mathlib.Logic.Relation
import FeaturePipeline.Proofs.CameraParameters
import FeaturePipeline.Proofs.ListFiles

/-! Separators among camera parameters. Main statement: a separator makes one text of two that are
read on their own. So nothing but the tokens of a text matters, and not which separators and blanks
set them apart, and the text is turned down exactly for one token that is no number. -/
namespace FeaturePipeline.Camera

inductive Separator : Char → Prop where
  | comma : Separator ','
  | semicolon : Separator ';'

/-- A text after which a token may begin. -/
inductive LeftEdge : List Char → Prop where
  | start : LeftEdge []
  | separator {s : Char} (front : List Char) (hs : Separator s) : LeftEdge (front ++ [s])

inductive RightEdge : List Char → Prop where
  | stop : RightEdge []
  | separator {s : Char} (rest : List Char) (hs : Separator s) : RightEdge (s :: rest)

/-- One text goes on in the other at an end of the whole or next to a separator. -/
def Edge (before after : List Char) : Prop := LeftEdge before ∨ RightEdge after

/-- What may stand between two tokens. -/
def Filler (c : Char) : Prop := Separator c ∨ Text.isBlank c = true

/-- A separator is exchanged for another, or fillers are put where no token is cut. -/
inductive Respelling : List Char → List Char → Prop where
  | exchange {s t : Char} (before after : List Char) (hs : Separator s) (ht : Separator t) :
    Respelling (before ++ s :: after) (before ++ t :: after)
  | insert (before fillers after : List Char) (h : Edge before after)
    (hf : ∀ c ∈ fillers, Filler c) : Respelling (before ++ after) (before ++ (fillers ++ after))

/-- Any number of respellings, each of them made or undone. -/
def Respelled : List Char → List Char → Prop := Relation.EqvGen Respelling

/-- The text between two separators, or between one and an end of the whole text. -/
def Piece (cs : List Char) : Prop := ∀ c ∈ cs, ¬Separator c

inductive Pieced : List Char → Prop where
  | last {piece : List Char} (h : Piece piece) : Pieced piece
  | cons {piece rest : List Char} {s : Char} (h : Piece piece) (hs : Separator s)
    (hr : Pieced rest) : Pieced (piece ++ s :: rest)

/-- A piece that is not blank and spells no number. -/
structure BadPiece (cs : List Char) : Prop where
  piece : Piece cs
  nonblank : Text.trim cs ≠ []
  unspelled : ∀ l, ¬Literal.Spells (Text.trim cs) l

theorem separator_iff {c : Char} : Separator c ↔ isSeparator c = true := by
  constructor
  · intro h
    cases h <;> rfl
  · intro h
    obtain rfl | rfl := isSeparator_iff.mp h
    · exact .comma
    · exact .semicolon

instance (c : Char) : Decidable (Separator c) := decidable_of_iff _ separator_iff.symm

instance (cs : List Char) : Decidable (Piece cs) := List.decidableBAll (fun c => ¬Separator c) cs

theorem pieced (cs : List Char) : Pieced cs := by
  induction cs with
  | nil => exact .last (List.forall_mem_nil _)
  | cons c cs ih =>
    by_cases hc : Separator c
    · exact .cons (List.forall_mem_nil _) hc ih
    · cases ih with
      | last h => exact .last (List.forall_mem_cons.mpr ⟨hc, h⟩)
      | cons h hs hr => exact .cons (List.forall_mem_cons.mpr ⟨hc, h⟩) hs hr

theorem tokens_append_separator (as bs : List Char) {s : Char} (hs : Separator s) :
    tokens (as ++ s :: bs) = tokens as ++ tokens bs :=
  tokens_append_sep as bs (separator_iff.mp hs)

theorem LeftEdge.tokens_append {as : List Char} (h : LeftEdge as) (bs : List Char) :
    tokens (as ++ bs) = tokens as ++ tokens bs := by
  cases h with
  | start => rfl
  | separator front hs =>
    have hfront := tokens_append_separator front [] hs
    rw [tokens_nil, List.append_nil] at hfront
    rw [hfront, List.append_assoc, List.singleton_append, tokens_append_separator front bs hs]

theorem RightEdge.tokens_append {bs : List Char} (h : RightEdge bs) (as : List Char) :
    tokens (as ++ bs) = tokens as ++ tokens bs := by
  cases h with
  | stop => simp
  | separator rest hs =>
    have hrest := tokens_append_separator [] rest hs
    rw [List.nil_append, tokens_nil, List.nil_append] at hrest
    rw [hrest, tokens_append_separator as rest hs]

section Piece

variable {piece token : List Char}

theorem Piece.tokens_eq (h : Piece piece) :
    tokens piece = if Text.trim piece = [] then [] else [Text.trim piece] :=
  tokens_of_no_separator fun c hc => by simpa [separator_iff] using h c hc

theorem Piece.mem_tokens_iff (h : Piece piece) :
    token ∈ tokens piece ↔ Text.trim piece = token ∧ token ≠ [] := by
  rw [h.tokens_eq]
  split
  · rename_i hblank
    simp [hblank, eq_comm]
  · rename_i hne
    rw [List.mem_singleton]
    constructor
    · rintro rfl
      exact ⟨rfl, hne⟩
    · exact fun htoken => htoken.1.symm

theorem LeftEdge.append {front before : List Char} (hb : LeftEdge before) (hf : LeftEdge front) :
    LeftEdge (front ++ before) := by
  cases hb with
  | start => rwa [List.append_nil]
  | separator middle hs =>
    rw [← List.append_assoc]
    exact .separator (front ++ middle) hs

theorem mem_tokens_iff {cs : List Char} :
    token ∈ tokens cs ↔ ∃ before piece after, cs = before ++ (piece ++ after) ∧
      LeftEdge before ∧ Piece piece ∧ RightEdge after ∧ Text.trim piece = token ∧ token ≠ [] := by
  constructor
  · intro h
    induction pieced cs with
    | @last piece hp =>
      exact ⟨[], piece, [], by simp, .start, hp, .stop, hp.mem_tokens_iff.mp h⟩
    | @cons piece rest s hp hs hr ih =>
      rw [tokens_append_separator piece rest hs, List.mem_append] at h
      obtain hfirst | hlater := h
      · exact ⟨[], piece, s :: rest, rfl, .start, hp, .separator rest hs,
          hp.mem_tokens_iff.mp hfirst⟩
      · obtain ⟨before, found, after, rfl, hb, hfound⟩ := ih hlater
        exact ⟨(piece ++ [s]) ++ before, found, after, by simp, hb.append (.separator piece hs),
          hfound⟩
  · rintro ⟨before, piece, after, rfl, hb, hp, ha, htoken⟩
    rw [hb.tokens_append, ha.tokens_append]
    exact List.mem_append_right _ (List.mem_append_left _ (hp.mem_tokens_iff.mpr htoken))

end Piece

theorem Piece.append_blank {piece : List Char} {c : Char} (h : Piece piece)
    (hc : Text.isBlank c = true) : Piece (piece ++ [c]) := by
  have hnone : ¬Separator c := by simp [separator_iff, not_isSeparator_of_isBlank hc]
  exact List.forall_mem_append.mpr ⟨h, List.forall_mem_singleton.mpr hnone⟩

theorem tokens_cons_filler {c : Char} (h : Filler c) (cs : List Char) :
    tokens (c :: cs) = tokens cs := by
  obtain hs | hb := h
  · simpa using tokens_append_separator [] cs hs
  · have hnone : isSeparator c = false := not_isSeparator_of_isBlank hb
    have hne : Text.pieces isSeparator cs ≠ [] := Text.pieces_ne_nil cs
    obtain ⟨p, ps, hp⟩ := List.exists_cons_of_ne_nil hne
    have htrim : Text.trim (c :: p) = Text.trim p :=
      Text.trim_append_left (List.forall_mem_singleton.mpr hb)
    simp [tokens, Text.pieces_cons, hnone, hp, Text.attach, htrim]

theorem tokens_append_filler {c : Char} (h : Filler c) (cs : List Char) :
    tokens (cs ++ [c]) = tokens cs := by
  obtain hs | hb := h
  · simpa using tokens_append_separator cs [] hs
  -- The blank is behind the last piece, and the pieces before it stay as they are.
  · induction pieced cs with
    | last hp =>
      rw [(hp.append_blank hb).tokens_eq, hp.tokens_eq,
        Text.trim_append_right (List.forall_mem_singleton.mpr hb)]
    | @cons piece rest s hp hs hr ih =>
      rw [List.append_assoc, List.cons_append, tokens_append_separator _ _ hs, ih,
        tokens_append_separator _ _ hs]

section Fillers

variable {fillers : List Char}

theorem tokens_fillers_append (h : ∀ c ∈ fillers, Filler c) (cs : List Char) :
    tokens (fillers ++ cs) = tokens cs := by
  induction fillers with
  | nil => rfl
  | cons c fillers ih =>
    obtain ⟨hc, hfillers⟩ := List.forall_mem_cons.mp h
    rw [List.cons_append, tokens_cons_filler hc, ih hfillers]

theorem tokens_append_fillers (h : ∀ c ∈ fillers, Filler c) (cs : List Char) :
    tokens (cs ++ fillers) = tokens cs := by
  induction fillers generalizing cs with
  | nil => rw [List.append_nil]
  | cons c fillers ih =>
    obtain ⟨hc, hfillers⟩ := List.forall_mem_cons.mp h
    rw [List.append_cons, ih hfillers, tokens_append_filler hc]

end Fillers

section Respelled

variable {as bs cs : List Char}

theorem Respelling.tokens_eq (h : Respelling as bs) : tokens as = tokens bs := by
  cases h with
  | exchange before after hs ht =>
    rw [tokens_append_separator before after hs, tokens_append_separator before after ht]
  | insert before fillers after h hf =>
    obtain hl | hr := h
    · rw [hl.tokens_append, hl.tokens_append, tokens_fillers_append hf]
    · rw [← List.append_assoc, hr.tokens_append, hr.tokens_append, tokens_append_fillers hf]

theorem Respelled.tokens_eq (h : Respelled as bs) : tokens as = tokens bs := by
  induction h with
  | rel _ _ h => exact h.tokens_eq
  | refl _ => rfl
  | symm _ _ _ ih => exact ih.symm
  | trans _ _ _ _ _ ih ih' => exact ih.trans ih'

theorem Respelling.respelled (h : Respelling as bs) : Respelled as bs := .rel _ _ h

theorem Respelled.symm (h : Respelled as bs) : Respelled bs as := Relation.EqvGen.symm _ _ h

theorem Respelled.trans (h : Respelled as bs) (h' : Respelled bs cs) : Respelled as cs :=
  Relation.EqvGen.trans _ _ _ h h'

instance : Trans Respelled Respelled Respelled := ⟨Respelled.trans⟩

theorem Respelling.append_left {front : List Char} (hl : LeftEdge front) (h : Respelling as bs) :
    Respelling (front ++ as) (front ++ bs) := by
  cases h with
  | exchange before after hs ht =>
    rw [← List.append_assoc, ← List.append_assoc]
    exact .exchange (front ++ before) after hs ht
  | insert before fillers after h hf =>
    rw [← List.append_assoc, ← List.append_assoc]
    exact .insert (front ++ before) fillers after (h.imp_left fun hb => hb.append hl) hf

theorem Respelled.append_left {front : List Char} (hl : LeftEdge front) (h : Respelled as bs) :
    Respelled (front ++ as) (front ++ bs) := by
  induction h with
  | rel _ _ h => exact (h.append_left hl).respelled
  | refl _ => exact .refl _
  | symm _ _ _ ih => exact ih.symm
  | trans _ _ _ _ _ ih ih' => exact ih.trans ih'

def written (ts : List (List Char)) : List Char := ts.flatMap fun t => t ++ [',']

theorem filler_comma : ∀ c ∈ [','], Filler c := List.forall_mem_singleton.mpr (.inl .comma)

theorem respelled_trim (piece : List Char) {rest : List Char} (h : RightEdge rest) :
    Respelled (piece ++ rest) (Text.trim piece ++ rest) := by
  obtain ⟨before, after, hpiece, hb, ha⟩ := (Text.trimmed_trim piece).between
  generalize Text.trim piece = kept at *
  have hbehind : Respelled (kept ++ rest) (kept ++ (after ++ rest)) :=
    (Respelling.insert kept after rest (.inr h) fun c hc => .inr (ha c hc)).respelled
  have hbefore : Respelled (kept ++ (after ++ rest)) (before ++ (kept ++ (after ++ rest))) :=
    (Respelling.insert [] before _ (.inl .start) fun c hc => .inr (hb c hc)).respelled
  rw [hpiece, List.append_assoc, List.append_assoc]
  exact (hbehind.trans hbefore).symm

/-- A piece loses its blanks, and where nothing is left of it, the comma behind it too. -/
theorem Piece.respelled {piece : List Char} (h : Piece piece) (rest : List Char) :
    Respelled (piece ++ ',' :: rest) (written (tokens piece) ++ rest) := by
  have htrim := respelled_trim piece (.separator rest .comma)
  rw [h.tokens_eq]
  split
  · rename_i hblank
    have hcomma : Respelled rest (',' :: rest) :=
      (Respelling.insert [] [','] rest (.inl .start) filler_comma).respelled
    rw [hblank] at htrim
    exact htrim.trans hcomma.symm
  · simpa [written] using htrim

theorem respelled_written (cs : List Char) : Respelled cs (written (tokens cs)) := by
  induction pieced cs with
  | @last piece hp =>
    have hcomma : Respelling (piece ++ []) (piece ++ ([','] ++ [])) :=
      .insert piece [','] [] (.inr .stop) filler_comma
    have hwritten := hp.respelled []
    rw [List.append_nil] at hcomma hwritten
    exact hcomma.respelled.trans hwritten
  | @cons piece rest s hp hs hr ih =>
    have hrest : Respelled (piece ++ ',' :: rest) (piece ++ ',' :: written (tokens rest)) := by
      simpa using ih.append_left (.separator piece .comma)
    rw [tokens_append_separator piece rest hs, written, List.flatMap_append]
    calc
      Respelled (piece ++ s :: rest) (piece ++ ',' :: rest) :=
        (Respelling.exchange piece rest hs .comma).respelled
      Respelled _ (piece ++ ',' :: written (tokens rest)) := hrest
      Respelled _ (written (tokens piece) ++ written (tokens rest)) := hp.respelled _

/-- Respelling is all that the tokens leave open. -/
theorem respelled_iff : Respelled as bs ↔ tokens as = tokens bs := by
  constructor
  · exact Respelled.tokens_eq
  · intro h
    have hbs := respelled_written bs
    rw [← h] at hbs
    exact (respelled_written as).trans hbs.symm

end Respelled

theorem readToken?_eq_none_iff {cs : List Char} :
    readToken? cs = none ↔ ∀ l, ¬Literal.Spells cs l := by
  rw [Option.eq_none_iff_forall_ne_some]
  simp only [ne_eq, readToken?_eq_some_iff]
  constructor
  · exact fun h l hl => h _ ⟨l, hl, Literal.denotes_toBinary64 l⟩
  · exact fun h x hx => h _ hx.choose_spec.1

theorem readParameters?_append_separator (a b : String) {s : Char} (hs : Separator s) :
    readParameters? (a ++ String.singleton s ++ b) =
      (readParameters? a).bind fun xs => (readParameters? b).map fun ys => xs ++ ys := by
  have htext : (a ++ String.singleton s ++ b).toList = a.toList ++ s :: b.toList := by simp
  rw [readParameters?, htext, tokens_append_separator _ _ hs, List.mapM_append]
  simp [readParameters?, Option.map_eq_bind]

theorem readParameters?_eq_none_iff {t : String} :
    readParameters? t = none ↔ ∃ before piece after, t.toList = before ++ (piece ++ after) ∧
      LeftEdge before ∧ BadPiece piece ∧ RightEdge after := by
  rw [readParameters?, mapM_eq_none_iff]
  constructor
  · rintro ⟨token, htoken, hread⟩
    obtain ⟨before, piece, after, ht, hb, hp, ha, rfl, hne⟩ := mem_tokens_iff.mp htoken
    exact ⟨before, piece, after, ht, hb, ⟨hp, hne, readToken?_eq_none_iff.mp hread⟩, ha⟩
  · rintro ⟨before, piece, after, ht, hb, hbad, ha⟩
    refine ⟨Text.trim piece, ?_, readToken?_eq_none_iff.mpr hbad.unspelled⟩
    exact mem_tokens_iff.mpr ⟨before, piece, after, ht, hb, hbad.piece, ha, rfl, hbad.nonblank⟩

/-- Two texts with a separator between them are read as the numbers of the one and then those of the
other, or not at all where one of them is not. Texts that differ only in separators and blanks
between tokens are read alike. A text is not read at all exactly when some piece of it, whatever is
around it, is neither blank nor a number. -/
theorem readParameters?_separators :
    (∀ s, Separator s → ∀ a b : String,
      (∀ xs ys, readParameters? a = some xs → readParameters? b = some ys →
        readParameters? (a ++ String.singleton s ++ b) = some (xs ++ ys)) ∧
      (readParameters? (a ++ String.singleton s ++ b) = none ↔
        readParameters? a = none ∨ readParameters? b = none)) ∧
    (∀ a b : String, (Respelled a.toList b.toList ↔ tokens a.toList = tokens b.toList) ∧
      (Respelled a.toList b.toList → readParameters? a = readParameters? b)) ∧
    ∀ t, readParameters? t = none ↔ ∃ before piece after, t.toList = before ++ (piece ++ after) ∧
      LeftEdge before ∧ BadPiece piece ∧ RightEdge after := by
  refine ⟨fun s hs a b => ?_, fun a b => ⟨respelled_iff, fun h => ?_⟩,
    fun t => readParameters?_eq_none_iff⟩
  · rw [readParameters?_append_separator a b hs]
    constructor
    · intro xs ys ha hb
      rw [ha, hb]
      rfl
    · cases readParameters? a <;> simp
  · rw [readParameters?, readParameters?, h.tokens_eq]

/-- A separator that is doubled, exchanged and padded, and a letter in place of a digit. -/
theorem readParameters?_separators_mixed :
    readParameters? "800,320;-0.5" =
      some [⟨0x4089000000000000⟩, ⟨0x4074000000000000⟩, ⟨0xBFE0000000000000⟩] ∧
    readParameters? "800,,320" = readParameters? "\u2003;800\u3000; 320" ∧
    readParameters? "800; 32O ,-0.5" = none := by
  obtain ⟨happend, hrespelled, hnone⟩ := readParameters?_separators
  have hpair : readParameters? "800,320" = some [⟨0x4089000000000000⟩, ⟨0x4074000000000000⟩] := by
    decide +kernel
  have hhalf : readParameters? "-0.5" = some [⟨0xBFE0000000000000⟩] := by decide +kernel
  have hspace : ∀ c ∈ [' '], Filler c := List.forall_mem_singleton.mpr (.inr rfl)
  have hwide : ∀ c ∈ ['\u3000'], Filler c := List.forall_mem_singleton.mpr (.inr rfl)
  have hmixed : ∀ c ∈ ['\u2003', ';'], Filler c :=
    List.forall_mem_cons.mpr ⟨.inr rfl, List.forall_mem_singleton.mpr (.inl .semicolon)⟩
  have hdoubled : Respelled "800,320".toList "800,,320".toList :=
    (Respelling.insert "800,".toList [','] "320".toList
      (.inl (.separator "800".toList .comma)) filler_comma).respelled
  have hsame := calc
    Respelled "800,,320".toList "800,320".toList := hdoubled.symm
    Respelled _ "800;320".toList :=
      (Respelling.exchange "800".toList "320".toList .comma .semicolon).respelled
    Respelled _ "800; 320".toList :=
      (Respelling.insert "800;".toList [' '] "320".toList
        (.inl (.separator "800".toList .semicolon)) hspace).respelled
    Respelled _ "800\u3000; 320".toList :=
      (Respelling.insert "800".toList ['\u3000'] "; 320".toList
        (.inr (.separator " 320".toList .semicolon)) hwide).respelled
    Respelled _ "\u2003;800\u3000; 320".toList :=
      (Respelling.insert [] ['\u2003', ';'] "800\u3000; 320".toList (.inl .start)
        hmixed).respelled
  have hbad : BadPiece " 32O ".toList :=
    ⟨by decide, by decide, readToken?_eq_none_iff.mp (by decide +kernel)⟩
  refine ⟨(happend ';' .semicolon "800,320" "-0.5").1 _ _ hpair hhalf, ?_, ?_⟩
  · exact (hrespelled _ _).2 hsame
  · exact (hnone _).mpr ⟨"800;".toList, " 32O ".toList, ",-0.5".toList, rfl,
      .separator "800".toList .semicolon, hbad, .separator "-0.5".toList .comma⟩

end FeaturePipeline.Camera

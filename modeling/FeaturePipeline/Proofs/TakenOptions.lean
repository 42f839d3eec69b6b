import FeaturePipeline.CommandLine.Arguments
import FeaturePipeline.Proofs.FieldValues
import FeaturePipeline.Proofs.GivenOptions

/-! Reading the arguments of a command, option by option: taking one of them sets one field of the
form. Main statements: whatever is read was taken option by option, and behind that the fields of
the given options hold what their values say while all else is blank; whether another option can be
taken does not depend on what the form holds. -/
namespace FeaturePipeline.CommandLine

variable {α : Type} {blank : α} {settings : List (Setting α)}

namespace Setting

def shape (s : Setting α) : Shape := ⟨s.option, s.field.isSwitch⟩

/-- The option is neither help nor the end of the options. -/
def Spoken (s : Setting α) : Prop :=
  asksHelp s.option = false ∧ s.option ≠ "--" ∧ looksLikeOption s.option = true

instance (s : Setting α) : Decidable s.Spoken := inferInstanceAs (Decidable (_ ∧ _ ∧ _))

end Setting

/-- A table for reading: the options are told apart, and each has a place of its own in the form. -/
structure Readable (settings : List (Setting α)) : Prop where
  distinct : (settings.map Setting.option).Nodup
  spoken : ∀ s ∈ settings, s.Spoken
  lawful : ∀ s ∈ settings, s.field.Lawful
  apart : ∀ s ∈ settings, ∀ t ∈ settings, t.option ≠ s.option → ∀ target form : α,
    t.field.content (s.field.copy target form) = t.field.content form

def Progress.Open (p : Progress α) : Prop := p.helpAsked = false ∧ p.optionsEnded = false

theorem missing_eq_nil_iff {given : List String} :
    missing settings given = [] ↔ ∀ s ∈ settings, s.required = true → s.option ∈ given := by
  simp [missing, List.filter_eq_nil_iff]

section Table

variable (ht : Readable settings)
include ht

theorem Readable.eq_of_option_eq {s t : Setting α} (hs : s ∈ settings) (hs' : t ∈ settings)
    (h : s.option = t.option) : s = t :=
  List.inj_on_of_nodup_map ht.distinct hs hs' h

theorem Readable.apart_shapes : Apart (settings.map Setting.shape) where
  nodup := by
    rw [List.map_map]
    exact ht.distinct
  mark h := by
    rw [List.map_map] at h
    obtain ⟨s, hs, hmark⟩ := List.mem_map.mp h
    exact (ht.spoken s hs).2.1 hmark

theorem Readable.find?_option {s : Setting α} (hs : s ∈ settings) :
    settings.find? (·.option == s.option) = some s := by
  obtain ⟨before, after, rfl⟩ := List.append_of_mem hs
  have hd := ht.distinct
  rw [List.map_append, List.map_cons, List.nodup_append] at hd
  refine List.find?_eq_some_iff_append.mpr ⟨beq_self_eq_true _, before, after, rfl, fun t htm => ?_⟩
  have hne := hd.2.2 t.option (List.mem_map_of_mem htm) s.option List.mem_cons_self
  simpa using hne

theorem readSettings_switch {s : Setting α} (hs : s ∈ settings) {l : Lens α Bool}
    (hf : s.field = .switch l) {p : Progress α} (hp : p.Open) (rest : List String) :
    readSettings settings p (s.option :: rest) =
      readSettings settings { p with form := l.set true p.form } rest := by
  obtain ⟨hhelp, hended⟩ := hp
  obtain ⟨hnothelp, hnotend, hlooks⟩ := ht.spoken s hs
  rw [readSettings]
  simp [hended, hnothelp, hnotend, hlooks, hhelp, ht.find?_option hs, hf]

/-- An option takes the next argument as its value, whatever it looks like. -/
theorem readSettings_value {s : Setting α} (hs : s ∈ settings) (hsw : s.field.isSwitch = false)
    {p : Progress α} (hp : p.Open) (value : String) (rest : List String) :
    readSettings settings p (s.option :: value :: rest) =
      p.fill s.option value s.field >>= fun p => readSettings settings p rest := by
  obtain ⟨hhelp, hended⟩ := hp
  obtain ⟨hnothelp, hnotend, hlooks⟩ := ht.spoken s hs
  rw [readSettings]
  simp only [hended, hnothelp, hnotend, hlooks, hhelp, ht.find?_option hs]
  cases hf : s.field with
  | switch l => simp [hf, Field.isSwitch] at hsw
  | _ => cases hp : p.fill s.option value s.field <;> simp [← hf, hp, bind, Except.bind]

end Table

/-- Taking one option: its field is set, and an option with a value is noted. -/
inductive Step (settings : List (Setting α)) (p : Progress α) : Given → Progress α → Prop where
  | switch {s : Setting α} {l : Lens α Bool} (hs : s ∈ settings) (hf : s.field = .switch l) :
    Step settings p ⟨s.option, none⟩ { p with form := l.set true p.form }
  | value {s : Setting α} {value : String} {form : α} (hs : s ∈ settings)
    (hsw : s.field.isSwitch = false) (hnew : s.option ∉ p.given)
    (hw : s.field.write value p.form = .ok form) :
    Step settings p ⟨s.option, some value⟩ { p with form := form, given := s.option :: p.given }

inductive Takes (settings : List (Setting α)) : Progress α → List Given → Progress α → Prop where
  | nil (p : Progress α) : Takes settings p [] p
  | cons {p p' q : Progress α} {g : Given} {given : List Given} (head : Step settings p g p')
    (tail : Takes settings p' given q) : Takes settings p (g :: given) q

section Run

variable {p q : Progress α} {g : Given} {given : List Given}

theorem Step.shape_mem (h : Step settings p g q) : g.shape ∈ settings.map Setting.shape := by
  cases h with
  | switch hs hf => exact List.mem_map.mpr ⟨_, hs, by rw [Setting.shape, hf]; rfl⟩
  | value hs hsw => exact List.mem_map.mpr ⟨_, hs, by rw [Setting.shape, hsw]; rfl⟩

theorem Step.value_cases {option value : String} (h : Step settings p ⟨option, some value⟩ q) :
    option ∉ p.given ∧ q.given = option :: p.given := by
  generalize hg : (⟨option, some value⟩ : Given) = g at h
  cases h with
  | switch => cases hg
  | value _ _ hnew =>
    cases hg
    exact ⟨hnew, rfl⟩

theorem Step.isOpen (h : Step settings p g q) (hp : p.Open) : q.Open := by
  cases h <;> exact hp

theorem Takes.isOpen (h : Takes settings p given q) (hp : p.Open) : q.Open := by
  induction h with
  | nil p => exact hp
  | cons head _ ih => exact ih (head.isOpen hp)

theorem takes_append_iff {before after : List Given} : Takes settings p (before ++ after) q ↔
    ∃ m, Takes settings p before m ∧ Takes settings m after q := by
  induction before generalizing p with
  | nil =>
    constructor
    · intro h
      exact ⟨p, .nil p, h⟩
    · rintro ⟨m, h, h'⟩
      cases h
      exact h'
  | cons g before ih =>
    constructor
    · intro h
      cases h with
      | cons head tail =>
        obtain ⟨m, h, h'⟩ := ih.mp tail
        exact ⟨m, .cons head h, h'⟩
    · rintro ⟨m, h, h'⟩
      cases h with
      | cons head tail => exact .cons head (ih.mpr ⟨m, tail, h'⟩)

/-- Whether options can be taken depends only on which ones already had a value. -/
theorem Step.transfer {p₂ : Progress α} (h : Step settings p g q) (hgiven : p₂.given = p.given) :
    ∃ q₂, Step settings p₂ g q₂ ∧ q₂.given = q.given := by
  cases h with
  | switch hs hf => exact ⟨_, .switch hs hf, hgiven⟩
  | value hs hsw hnew hw =>
    obtain ⟨form₂, hw₂⟩ := Field.write_ok_of_ok hw p₂.form
    exact ⟨_, .value hs hsw (hgiven ▸ hnew) hw₂, by rw [hgiven]⟩

theorem Takes.transfer {p₂ : Progress α} (h : Takes settings p given q)
    (hgiven : p₂.given = p.given) : ∃ q₂, Takes settings p₂ given q₂ ∧ q₂.given = q.given := by
  induction h generalizing p₂ with
  | nil p => exact ⟨p₂, .nil p₂, hgiven⟩
  | cons head _ ih =>
    obtain ⟨m, hstep, hm⟩ := head.transfer hgiven
    obtain ⟨q₂, htail, hq⟩ := ih hm
    exact ⟨q₂, .cons hstep htail, hq⟩

section Read

variable (ht : Readable settings)
include ht

theorem Step.read (h : Step settings p g q) (hp : p.Open) (rest : List String) :
    readSettings settings p (g.arguments ++ rest) = readSettings settings q rest := by
  cases h with
  | switch hs hf => exact readSettings_switch ht hs hf hp rest
  | value hs hsw hnew hw =>
    rw [Given.arguments, Option.toList_some, List.cons_append, List.cons_append, List.nil_append,
      readSettings_value ht hs hsw hp, Progress.fill, if_neg hnew, hw]
    rfl

theorem Takes.read (h : Takes settings p given q) (hp : p.Open) (rest : List String) :
    readSettings settings p (given.flatMap Given.arguments ++ rest) =
      readSettings settings q rest := by
  induction h with
  | nil p => rfl
  | cons head _ ih =>
    rw [List.flatMap_cons, List.append_assoc, head.read ht hp]
    exact ih (head.isOpen hp)

end Read

theorem readSettings_ending (settings : List (Setting α)) {ending : List String}
    (hending : ending = [] ∨ ending = ["--"]) (hp : p.Open) :
    ∃ q, readSettings settings p ending = .ok q ∧ q.helpAsked = false ∧ q.form = p.form ∧
      q.given = p.given := by
  obtain ⟨hhelp, hended⟩ := hp
  obtain rfl | rfl := hending
  · exact ⟨p, rfl, hhelp, rfl, rfl⟩
  · have hdash : asksHelp "--" = false := by decide
    refine ⟨{ p with optionsEnded := true }, ?_, hhelp, rfl, rfl⟩
    simp [readSettings, hended, hdash]

theorem helpAsked_of_readSettings {arguments : List String}
    (h : readSettings settings p arguments = .ok q) (hp : p.helpAsked = true) :
    q.helpAsked = true := by
  fun_induction readSettings settings p arguments with
  | case1 p =>
    cases h
    exact hp
  | case3 p argument rest hended hhelp ih => exact ih h rfl
  | case4 p rest hended hhelp ih => exact ih h hp
  | case8 p option rest hended hhelp hdash hlooks hasked => exact absurd hp hasked
  | case10 p option hended hhelp hdash hlooks hasked => exact absurd hp hasked
  | case2 | case5 | case6 | case7 | case9 | case11 => cases h

theorem eq_nil_of_optionsEnded {arguments : List String}
    (h : readSettings settings p arguments = .ok q) (hp : p.optionsEnded = true) :
    arguments = [] ∧ q = p := by
  cases arguments with
  | nil =>
    cases h
    exact ⟨rfl, rfl⟩
  | cons argument rest => simp [readSettings, hp] at h

theorem fill_eq_ok_iff {option value : String} {field : Field α} :
    p.fill option value field = .ok q ↔ option ∉ p.given ∧
      ∃ form, field.write value p.form = .ok form ∧
        { p with form := form, given := option :: p.given } = q := by
  unfold Progress.fill
  split
  · simp [*]
  · cases field.write value p.form <;> simp [*]

/-- Whatever is read without help was taken option by option. -/
theorem exists_takes {arguments : List String} (h : readSettings settings p arguments = .ok q)
    (hp : p.Open) (hq : q.helpAsked = false) :
    ∃ given m, MadeOf (settings.map Setting.shape) given arguments ∧
      Takes settings p given m ∧ m.form = q.form ∧ m.given = q.given := by
  fun_induction readSettings settings p arguments with
  | case1 p =>
    cases h
    exact ⟨[], _, madeOf_nil, .nil _, rfl, rfl⟩
  | case3 p argument rest hended hhelp ih =>
    rw [helpAsked_of_readSettings h rfl] at hq
    cases hq
  | case4 p rest hended hhelp ih =>
    obtain ⟨rfl, rfl⟩ := eq_nil_of_optionsEnded h rfl
    exact ⟨[], p, madeOf_ended, .nil p, rfl, rfl⟩
  | case8 p option rest hended hhelp hdash hlooks hasked s hfind l hf ih =>
    have hs := List.mem_of_find?_eq_some hfind
    obtain rfl : s.option = option := by simpa using List.find?_some hfind
    obtain ⟨given, m, hmade, htail, hm⟩ := ih h hp
    have head := Step.switch hs hf (p := p)
    exact ⟨_, m, hmade.cons head.shape_mem, .cons head htail, hm⟩
  | case10 p option hended hhelp hdash hlooks hasked s hfind value rest p' hf hfill ih =>
    have hs := List.mem_of_find?_eq_some hfind
    obtain rfl : s.option = option := by simpa using List.find?_some hfind
    obtain ⟨hnew, form, hw, rfl⟩ := fill_eq_ok_iff.mp hfill
    obtain ⟨given, m, hmade, htail, hm⟩ := ih h hp
    have hsw : s.field.isSwitch = false := by
      cases hfield : s.field with
      | switch l => exact absurd hfield (hf l)
      | _ => rfl
    have head := Step.value hs hsw hnew hw
    exact ⟨_, m, hmade.cons head.shape_mem, .cons head htail, hm⟩
  | case2 | case5 | case6 | case7 | case9 | case11 => cases h

/-- Options can be taken when their values say what some form holds, and none has a value twice. -/
theorem takes_of_saidBy {form : α} (hshapes : ∀ g ∈ given, g.shape ∈ settings.map Setting.shape)
    (hsaid : ∀ s ∈ settings, ∀ value, ⟨s.option, some value⟩ ∈ given →
      (s.field.content form).SaidBy value)
    (honce : (Given.withValue given ++ p.given).Nodup) : ∃ m, Takes settings p given m := by
  induction given generalizing p with
  | nil => exact ⟨p, .nil p⟩
  | cons g given ih =>
    obtain ⟨hg, hshapes'⟩ := List.forall_mem_cons.mp hshapes
    obtain ⟨s, hs, hshape⟩ := List.mem_map.mp hg
    have hsaid' := fun t ht value hmem => hsaid t ht value (List.mem_cons_of_mem g hmem)
    obtain ⟨option, value⟩ := g
    obtain ⟨rfl, halone⟩ := Shape.mk.inj hshape
    cases value with
    | none =>
      obtain ⟨l, hf⟩ := Field.eq_switch_of_isSwitch halone
      obtain ⟨m, htakes⟩ := ih (p := { p with form := l.set true p.form }) hshapes' hsaid' honce
      exact ⟨m, .cons (.switch hs hf) htakes⟩
    | some value =>
      have hw := Field.write_of_saidBy (hsaid s hs value List.mem_cons_self) p.form
      rw [Given.withValue_cons_some, List.cons_append] at honce
      have hnew : s.option ∉ p.given := fun hmem =>
        (List.nodup_cons.mp honce).1 (List.mem_append_right _ hmem)
      obtain ⟨m, htakes⟩ := ih (p := { p with form := _, given := s.option :: p.given }) hshapes'
        hsaid' (List.nodup_middle.mpr honce)
      exact ⟨m, .cons (.value hs halone hnew hw) htakes⟩

end Run

/-- What one field holds when options were given: what its option says, and nothing new without it. -/
structure FieldOf (blank : α) (given : List Given) (form : α) (s : Setting α) : Prop where
  value : ∀ value, ⟨s.option, some value⟩ ∈ given → (s.field.content form).SaidBy value
  on : s.field.isSwitch = true → ⟨s.option, none⟩ ∈ given → s.field.content form = .switch true
  unset : s.option ∉ given.map Given.option → s.field.content form = s.field.content blank

/-- What the form holds when options were given, and that no value was given twice. -/
structure Filled (blank : α) (settings : List (Setting α)) (given : List Given)
    (p : Progress α) : Prop where
  noted : p.given = (Given.withValue given).reverse
  once : p.given.Nodup
  fields : ∀ s ∈ settings, FieldOf blank given p.form s

theorem filled_blank : Filled blank settings [] { form := blank } where
  noted := rfl
  once := List.nodup_nil
  fields := fun _ _ =>
    ⟨fun _ h => absurd h List.not_mem_nil, fun _ h => absurd h List.not_mem_nil, fun _ => rfl⟩

section FieldOf

variable {past : List Given} {form form' : α} {s : Setting α}

theorem FieldOf.keep (h : FieldOf blank past form s) {g : Given} (hne : s.option ≠ g.option)
    (hsame : s.field.content form' = s.field.content form) :
    FieldOf blank (past ++ [g]) form' s := by
  have hpast : ∀ value, ⟨s.option, value⟩ ∈ past ++ [g] → ⟨s.option, value⟩ ∈ past := by
    intro value hmem
    obtain hmem | hlast := List.mem_append.mp hmem
    · exact hmem
    · exact absurd (congrArg Given.option (List.mem_singleton.mp hlast)) hne
  refine ⟨fun value hv => ?_, fun hsw hon => ?_, fun hnot => ?_⟩
  · rw [hsame]
    exact h.value value (hpast _ hv)
  · rw [hsame]
    exact h.on hsw (hpast _ hon)
  · rw [hsame]
    refine h.unset fun hmem => hnot ?_
    rw [List.map_append]
    exact List.mem_append_left _ hmem

theorem FieldOf.switch (h : FieldOf blank past form s) {l : Lens α Bool}
    (hf : s.field = .switch l) (hl : s.field.Lawful) :
    FieldOf blank (past ++ [⟨s.option, none⟩]) (l.set true form) s := by
  refine ⟨fun value hv => ?_, fun _ _ => ?_, fun hnot => absurd ?_ hnot⟩
  · have hsaid := h.value value (by simpa using hv)
    rw [hf] at hsaid
    cases hsaid
  · rw [hf] at hl ⊢
    exact congrArg Content.switch (hl true form)
  · simp

theorem FieldOf.fill (hl : s.field.Lawful) (hsw : s.field.isSwitch = false) {value : String}
    (hnew : ∀ v, ⟨s.option, some v⟩ ∉ past) (hw : s.field.write value form = .ok form') :
    FieldOf blank (past ++ [⟨s.option, some value⟩]) form' s := by
  refine ⟨fun v hv => ?_, fun hsw' => ?_, fun hnot => absurd ?_ hnot⟩
  · obtain rfl : v = value := by simpa [hnew v] using hv
    exact (Field.saidBy_of_write hl hsw hw).1
  · rw [hsw'] at hsw
    cases hsw
  · simp

end FieldOf

section Fill

variable (ht : Readable settings) {p q : Progress α} {g : Given} {given past : List Given}
include ht

theorem Step.copies (h : Step settings p g q) :
    ∃ s ∈ settings, s.option = g.option ∧ q.form = s.field.copy q.form p.form := by
  cases h with
  | switch hs hf =>
    refine ⟨_, hs, rfl, ?_⟩
    have hl := ht.lawful _ hs
    rw [hf] at hl ⊢
    exact (congrArg (Lens.set _ · _) (hl true p.form)).symm
  | value hs hsw _ hw =>
    exact ⟨_, hs, rfl, (Field.saidBy_of_write (ht.lawful _ hs) hsw hw).2⟩

theorem Step.content_eq (h : Step settings p g q) {t : Setting α} (hs : t ∈ settings)
    (hne : t.option ≠ g.option) : t.field.content q.form = t.field.content p.form := by
  obtain ⟨s, hs', hoption, hcopy⟩ := h.copies ht
  rw [hcopy]
  exact ht.apart s hs' t hs (hoption ▸ hne) q.form p.form

theorem Filled.step (h : Filled blank settings past p) (hstep : Step settings p g q) :
    Filled blank settings (past ++ [g]) q := by
  have hothers := fun (t : Setting α) hmem (hne : t.option ≠ g.option) =>
    (h.fields t hmem).keep hne (hstep.content_eq ht hmem hne)
  cases hstep with
  | @switch s l hs hf =>
    refine ⟨by simp [h.noted, Given.withValue], h.once, fun t hmem => ?_⟩
    by_cases hoption : t.option = s.option
    · obtain rfl := ht.eq_of_option_eq hmem hs hoption
      exact (h.fields t hs).switch hf (ht.lawful t hs)
    · exact hothers t hmem hoption
  | @value s value form hs hsw hnew hw =>
    refine ⟨by simp [h.noted, Given.withValue], List.nodup_cons.mpr ⟨hnew, h.once⟩,
      fun t hmem => ?_⟩
    by_cases hoption : t.option = s.option
    · obtain rfl := ht.eq_of_option_eq hmem hs hoption
      refine .fill (ht.lawful t hs) hsw (fun v hpast => ?_) hw
      rw [h.noted, List.mem_reverse, Given.mem_withValue] at hnew
      exact hnew ⟨v, hpast⟩
    · exact hothers t hmem hoption

theorem Takes.filled (htakes : Takes settings p given q) (h : Filled blank settings past p) :
    Filled blank settings (past ++ given) q := by
  induction htakes generalizing past with
  | nil p => rwa [List.append_nil]
  | cons head _ ih =>
    have hnext := ih (h.step ht head)
    rwa [List.append_assoc] at hnext

theorem Takes.fixes (htakes : Takes settings p given q) {f : α → α}
    (hf : ∀ s ∈ settings, ∀ target form, f (s.field.copy target form) =
      s.field.copy target (f form)) (hp : f p.form = p.form) : f q.form = q.form := by
  induction htakes with
  | nil p => exact hp
  | cons head _ ih =>
    obtain ⟨s, hs, -, hcopy⟩ := head.copies ht
    refine ih ?_
    rw [hcopy, hf s hs, hp]

end Fill
end FeaturePipeline.CommandLine

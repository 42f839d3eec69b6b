import FeaturePipeline.Proofs.RequestEntries

/-! Requests as they are read. Main statements: whatever arguments a request is read from, they name
its command and then the options of that command, the required ones among them and none with a
value twice, and every field of the request holds what its option says, or else its default; and
arguments of which this is true are read as that request. -/
namespace FeaturePipeline.CommandLine

/-- How an option got what the request holds for it: from its value, from being given alone or not,
or by default. -/
inductive Settled (given : List Given) (en : Entry) : Prop where
  | value {value : String} (hg : ⟨en.option, some value⟩ ∈ given) (h : en.content.SaidBy value)
  | switch {on : Bool} (hc : en.content = .switch on) (h : on = true ↔ ⟨en.option, none⟩ ∈ given)
  | default (hg : en.option ∉ given.map Given.option) (hsw : en.content.isSwitch = false)
    (h : en.default = some en.content)

/-- A request is made of the options that are given, and what no option sets has its default. -/
structure TakenFrom (given : List Given) (r : Request) : Prop where
  required : ∀ en ∈ r.entries, en.default = none → en.option ∈ Given.withValue given
  once : (Given.withValue given).Nodup
  settled : ∀ en ∈ r.entries, Settled given en
  settable : r.entryPoint.settable r.form = r.form

theorem settled_iff_of_not_given {given : List Given} {r : Request} {en : Entry}
    (hen : en ∈ r.entries) (hnot : en.option ∉ given.map Given.option) :
    Settled given en ↔ en.default = some en.content := by
  have hoff := r.default_of_isSwitch en hen
  constructor
  · intro h
    cases h with
    | value hg => exact absurd (List.mem_map_of_mem hg) hnot
    | @switch on hc hon =>
      cases on with
      | true => exact absurd (List.mem_map_of_mem (hon.mp rfl)) hnot
      | false =>
        rw [hc] at hoff ⊢
        exact hoff rfl
    | default _ _ hd => exact hd
  · intro hd
    cases hsw : en.content.isSwitch with
    | true =>
      have hc : en.content = .switch false := Option.some.inj (hd.symm.trans (hoff hsw))
      exact .switch hc (iff_of_false (by simp) fun hmem => hnot (List.mem_map_of_mem hmem))
    | false => exact .default hnot hsw hd

section Command

variable {e : EntryPoint} {form : e.Form} {given : List Given} {arguments : List String}
  {r : Request}

theorem takenFrom_request_iff : TakenFrom given (e.request form) ↔
    (∀ s ∈ e.settings, s.required = true → s.option ∈ Given.withValue given) ∧
      (Given.withValue given).Nodup ∧
      (∀ s ∈ e.settings, Settled given (s.entry e.blank form)) ∧ e.settable form = form := by
  have hform : (e.request form).entryPoint.settable (e.request form).form = (e.request form).form ↔
      e.settable form = form := by
    cases e <;> exact Iff.rfl
  have hdefault : ∀ s : Setting e.Form, (s.entry e.blank form).default = none ↔
      s.required = true := by
    intro s
    cases hs : s.required <;> simp [Setting.entry, hs]
  constructor
  · rintro ⟨hrequired, honce, hsettled, hsettable⟩
    refine ⟨fun s hs hr => ?_, honce, fun s hs => ?_, hform.mp hsettable⟩
    · exact hrequired _ (EntryPoint.entry_mem hs form) ((hdefault s).mpr hr)
    · exact hsettled _ (EntryPoint.entry_mem hs form)
  · rintro ⟨hrequired, honce, hsettled, hsettable⟩
    refine ⟨fun en hen hr => ?_, honce, fun en hen => ?_, hform.mpr hsettable⟩
    · obtain ⟨s, hs, rfl⟩ := EntryPoint.mem_entries_request.mp hen
      exact hrequired s hs ((hdefault s).mp hr)
    · obtain ⟨s, hs, rfl⟩ := EntryPoint.mem_entries_request.mp hen
      exact hsettled s hs

/-- A command reads what can be taken option by option, when no required option is missing. -/
theorem readCommand_eq_ok_iff : readCommand e arguments = .ok r ↔
    ∃ given m, MadeOf (e.settings.map Setting.shape) given arguments ∧
      Takes e.settings { form := e.blank } given m ∧ missing e.settings m.given = [] ∧
      e.request m.form = r := by
  constructor
  · intro h
    unfold readCommand at h
    split at h
    · cases h
    · rename_i p hp
      split at h
      · cases h
      · rename_i hhelp
        split at h
        · rename_i hmissing
          obtain ⟨given, m, hmade, htakes, hform, hgiven⟩ :=
            exists_takes hp ⟨rfl, rfl⟩ (Bool.eq_false_iff.mpr hhelp)
          exact ⟨given, m, hmade, htakes, hgiven ▸ hmissing, hform ▸ Except.ok.inj h⟩
        · cases h
  · rintro ⟨given, m, ⟨-, ending, hending, rfl⟩, htakes, hmissing, rfl⟩
    have hend := htakes.read e.readable ⟨rfl, rfl⟩ ending
    obtain ⟨q, hread, hhelp, hform, hgiven⟩ :=
      readSettings_ending e.settings hending (htakes.isOpen ⟨rfl, rfl⟩)
    rw [readCommand, hend, hread]
    simp [hhelp, hform, hgiven, hmissing]

theorem settled_of_fieldOf {s : Setting e.Form}
    (hshapes : ∀ g ∈ given, g.shape ∈ e.settings.map Setting.shape) (hs : s ∈ e.settings)
    (h : FieldOf e.blank given form s)
    (hrequired : s.required = true → s.option ∈ Given.withValue given) :
    Settled given (s.entry e.blank form) := by
  by_cases hgiven : s.option ∈ given.map Given.option
  · obtain ⟨⟨option, value⟩, hmem, rfl⟩ := List.mem_map.mp hgiven
    cases value with
    | some value => exact .value hmem (h.value value hmem)
    | none =>
      obtain ⟨t, ht, hshape⟩ := List.mem_map.mp (hshapes _ hmem)
      obtain ⟨hoption, halone⟩ := Shape.mk.inj hshape
      obtain rfl := e.readable.eq_of_option_eq ht hs hoption
      exact .switch (h.on halone hmem) (iff_of_true rfl hmem)
  · have hoptional : s.required = false := by
      refine Bool.eq_false_iff.mpr fun hr => ?_
      obtain ⟨value, hmem⟩ := Given.mem_withValue.mp (hrequired hr)
      exact hgiven (List.mem_map_of_mem hmem)
    refine (settled_iff_of_not_given (EntryPoint.entry_mem hs form) hgiven).mpr ?_
    simp [Setting.entry, hoptional, h.unset hgiven]

theorem takenFrom_of_takes {m : Progress e.Form}
    (hshapes : ∀ g ∈ given, g.shape ∈ e.settings.map Setting.shape)
    (htakes : Takes e.settings { form := e.blank } given m)
    (hmissing : missing e.settings m.given = []) : TakenFrom given (e.request m.form) := by
  have hfilled : Filled e.blank e.settings given m := htakes.filled e.readable filled_blank
  have hrequired : ∀ s ∈ e.settings, s.required = true → s.option ∈ Given.withValue given := by
    intro s hs hs'
    have hnoted := missing_eq_nil_iff.mp hmissing s hs hs'
    rwa [hfilled.noted, List.mem_reverse] at hnoted
  have honce : (Given.withValue given).Nodup := by
    have honce := hfilled.once
    rwa [hfilled.noted, List.nodup_reverse] at honce
  have hsettable : e.settable m.form = m.form := by
    refine htakes.fixes e.readable (fun s hs target form => ?_) e.settable_blank
    exact congrFun (congrFun (List.map_inj_left.mp e.settable_copies s hs) target) form
  exact takenFrom_request_iff.mpr ⟨hrequired, honce,
    fun s hs => settled_of_fieldOf hshapes hs (hfilled.fields s hs) (hrequired s hs), hsettable⟩

theorem Settled.content_eq {form' : e.Form} {s : Setting e.Form} (hs : s ∈ e.settings)
    (honce : (Given.withValue given).Nodup) (h : Settled given (s.entry e.blank form))
    (h' : Settled given (s.entry e.blank form')) : s.field.content form = s.field.content form' := by
  have hsaid : ∀ {form : e.Form} {value : String}, (s.field.content form).SaidBy value →
      s.field.isSwitch = false := by
    intro form value hsaid
    cases hf : s.field with
    | switch l =>
      rw [hf] at hsaid
      cases hsaid
    | _ => rfl
  have hswitch : ∀ {form : e.Form} {on : Bool}, s.field.content form = .switch on →
      s.field.isSwitch = true := by
    intro form on hc
    rw [← Field.isSwitch_content s.field form, hc]
    rfl
  by_cases hgiven : s.option ∈ given.map Given.option
  case pos =>
    cases h with
    | value hg hv =>
      cases h' with
      | value hg' hv' =>
        obtain rfl := Given.value_unique honce hg hg'
        exact Field.content_eq_of_saidBy (e.readable.lawful s hs) hv hv'
      | switch hc =>
        rw [hsaid hv] at hswitch
        cases hswitch hc
      | default hnot => exact absurd hgiven hnot
    | switch hc hon =>
      cases h' with
      | value _ hv =>
        rw [hsaid hv] at hswitch
        cases hswitch hc
      | switch hc' hon' =>
        have hsame : s.field.content form = .switch _ := hc
        rw [hsame, Bool.eq_iff_iff.mpr (hon.trans hon'.symm)]
        exact hc'.symm
      | default hnot => exact absurd hgiven hnot
    | default hnot => exact absurd hgiven hnot
  case neg =>
    have hd := (settled_iff_of_not_given (EntryPoint.entry_mem hs form) hgiven).mp h
    have hd' := (settled_iff_of_not_given (EntryPoint.entry_mem hs form') hgiven).mp h'
    exact Option.some.inj (hd.symm.trans hd')

theorem TakenFrom.unique {form' : e.Form} (h : TakenFrom given (e.request form))
    (h' : TakenFrom given (e.request form')) : form = form' := by
  obtain ⟨-, honce, hsettled, hform⟩ := takenFrom_request_iff.mp h
  obtain ⟨-, -, hsettled', hform'⟩ := takenFrom_request_iff.mp h'
  rw [← hform, ← hform']
  exact EntryPoint.settable_congr fun s hs =>
    (hsettled s hs).content_eq hs honce (hsettled' s hs)

theorem TakenFrom.bare_eq (h : TakenFrom given (e.request form))
    (hbare : ∀ en ∈ (e.request form).entries, en.option ∈ given.map Given.option →
      en.default = none) : e.bare form = form := by
  obtain ⟨-, -, hsettled, hform⟩ := takenFrom_request_iff.mp h
  have hcontent : ∀ s ∈ e.settings,
      s.field.content (e.bare form) = s.field.content form := by
    intro s hs
    have hen := EntryPoint.entry_mem hs form
    rw [List.forall_iff_forall_mem.mp e.content_bare s hs form]
    cases hr : s.required with
    | true => rfl
    | false =>
      have hd : (s.entry e.blank form).default = some (s.field.content e.blank) := by
        simp [Setting.entry, hr]
      have hnot : s.option ∉ given.map Given.option := by
        intro hmem
        cases hd.symm.trans (hbare _ hen hmem)
      have hheld := (settled_iff_of_not_given hen hnot).mp (hsettled s hs)
      exact Option.some.inj (hd.symm.trans hheld)
  calc e.bare form = e.settable (e.bare form) := (e.settable_bare form).symm
    _ = e.settable form := EntryPoint.settable_congr hcontent
    _ = form := hform

theorem TakenFrom.read (h : TakenFrom given (e.request form))
    (hmade : MadeOf (e.settings.map Setting.shape) given arguments) :
    readCommand e arguments = .ok (e.request form) := by
  obtain ⟨hrequired, honce, hsettled, -⟩ := takenFrom_request_iff.mp h
  have hsaid : ∀ s ∈ e.settings, ∀ value, ⟨s.option, some value⟩ ∈ given →
      (s.field.content form).SaidBy value := by
    intro s hs value hmem
    cases hsettled s hs with
    | value hg hv =>
      obtain rfl := Given.value_unique honce hg hmem
      exact hv
    | switch hc =>
      obtain ⟨t, ht, hshape⟩ := List.mem_map.mp (hmade.1 _ hmem)
      obtain ⟨hoption, halone⟩ := Shape.mk.inj hshape
      obtain rfl := e.readable.eq_of_option_eq ht hs hoption
      have hsw : t.field.isSwitch = true := by
        rw [← Field.isSwitch_content t.field form]
        exact congrArg Content.isSwitch hc
      cases halone.symm.trans hsw
    | default hnot => exact absurd (List.mem_map_of_mem hmem) hnot
  obtain ⟨m, htakes⟩ := takes_of_saidBy (p := { form := e.blank }) hmade.1 hsaid
    (by rwa [List.append_nil])
  have hmissing : missing e.settings m.given = [] := by
    refine missing_eq_nil_iff.mpr fun s hs hr => ?_
    have hfilled : Filled e.blank e.settings given m := htakes.filled e.readable filled_blank
    rw [hfilled.noted, List.mem_reverse]
    exact hrequired s hs hr
  have hform := (takenFrom_of_takes hmade.1 htakes hmissing).unique h
  exact readCommand_eq_ok_iff.mpr ⟨given, m, hmade, htakes, hmissing, hform ▸ rfl⟩

end Command

/-- The name of a command, possibly behind the mark that ends the options of the program. A NUL
stands for the first command, too. -/
def Leads (lead : List String) (e : EntryPoint) : Prop :=
  ∃ command, (lead = [command] ∨ lead = ["--", command]) ∧
    (e.name = command ∨ command = "\x00" ∧ e = .featureExtractor)

section Program

variable {e : EntryPoint} {arguments lead rest : List String} {r : Request}

theorem readCommand_help_ne_ok : readCommand e ("help" :: rest) ≠ .ok r := by
  intro h
  unfold readCommand at h
  split at h
  · cases h
  · rename_i p hp
    have hread : readSettings e.settings { form := e.blank, helpAsked := true } rest = .ok p := by
      simpa [readSettings, asksHelp] using hp
    simp [helpAsked_of_readSettings hread rfl] at h

theorem readProgram_help_ne_ok (optionsEnded : Bool) :
    readProgram true optionsEnded arguments ≠ .ok r := by
  induction arguments generalizing optionsEnded with
  | nil => simp [readProgram]
  | cons argument rest ih =>
    rw [readProgram]
    split
    · exact ih optionsEnded
    · split
      · exact ih true
      · split
        · simp
        · split
          · exact readCommand_help_ne_ok
          · simp

theorem Leads.read (h : Leads lead e) (rest : List String) :
    read (lead ++ rest) = readCommand e rest := by
  obtain ⟨command, hlead, hname⟩ := h
  have hfind := EntryPoint.ofName?_eq_some_iff.mpr hname
  have hplain : asksHelp command = false ∧ command ≠ "--" ∧ looksLikeOption command = false := by
    obtain rfl | ⟨rfl, -⟩ := hname
    · cases e <;> decide
    · decide
  have hdash : asksHelp "--" = false := by decide
  obtain rfl | rfl := hlead
  · simp [CommandLine.read, readProgram, hplain, hfind]
  · simp [CommandLine.read, readProgram, hdash, hfind]

/-- A mark in front of the command is read once: behind it everything is a name. -/
theorem exists_command_of_readProgram {optionsEnded : Bool}
    (h : readProgram false optionsEnded arguments = .ok r) :
    ∃ before command rest e, arguments = before ++ command :: rest ∧
      (before = [] ∨ optionsEnded = false ∧ before = ["--"]) ∧
      EntryPoint.ofName? command = some e ∧ readCommand e rest = .ok r := by
  induction arguments generalizing optionsEnded with
  | nil => simp [readProgram] at h
  | cons argument rest ih =>
    rw [readProgram] at h
    split at h
    · exact absurd h (readProgram_help_ne_ok optionsEnded)
    · split at h
      · rename_i hmark
        obtain ⟨rfl, rfl⟩ : optionsEnded = false ∧ argument = "--" := by simpa using hmark
        obtain ⟨before, command, behind, e, rfl, rfl | ⟨hended, -⟩, hcommand⟩ := ih h
        · exact ⟨["--"], command, behind, e, rfl, .inr ⟨rfl, rfl⟩, hcommand⟩
        · cases hended
      · split at h
        · cases h
        · split at h
          · rename_i e he
            exact ⟨[], argument, rest, e, rfl, .inl rfl, he, h⟩
          · cases h

theorem read_eq_ok_iff : read arguments = .ok r ↔
    ∃ lead e rest, arguments = lead ++ rest ∧ Leads lead e ∧ readCommand e rest = .ok r := by
  constructor
  · intro h
    obtain ⟨before, command, rest, e, rfl, hbefore, he, hread⟩ := exists_command_of_readProgram h
    refine ⟨before ++ [command], e, rest, by simp,
      ⟨command, ?_, EntryPoint.ofName?_eq_some_iff.mp he⟩, hread⟩
    obtain rfl | ⟨-, rfl⟩ := hbefore
    · exact .inl rfl
    · exact .inr rfl
  · rintro ⟨lead, e, rest, rfl, hlead, h⟩
    rw [hlead.read, h]

/-- The arguments that a request is read from are the name of its command and options of that
command, which they are made of in one way only. The request is taken from these options: the
required ones are given, none has two values, and each field holds what its option says, or its
default. With the required options alone, all else is as the library has it by default. -/
theorem read_sound (h : read arguments = .ok r) :
    ∃ mark command rest given, arguments = mark ++ command :: rest ∧
      (mark = [] ∨ mark = ["--"]) ∧
      (r.name = command ∨ command = "\x00" ∧ r.name = "feature_extractor") ∧
      MadeOf r.shapes given rest ∧ (∀ given', MadeOf r.shapes given' rest → given' = given) ∧
      TakenFrom given r ∧
      ((∀ en ∈ r.entries, en.option ∈ given.map Given.option → en.default = none) →
        r.entryPoint.bare r.form = r.form) := by
  obtain ⟨lead, e, rest, rfl, ⟨command, hlead, hname⟩, hread⟩ := read_eq_ok_iff.mp h
  obtain ⟨given, m, hmade, htakes, hmissing, rfl⟩ := readCommand_eq_ok_iff.mp hread
  have htaken := takenFrom_of_takes hmade.1 htakes hmissing
  obtain ⟨mark, hmark, hsplit⟩ : ∃ mark, (mark = [] ∨ mark = ["--"]) ∧
      lead ++ rest = mark ++ command :: rest := by
    obtain rfl | rfl := hlead
    · exact ⟨[], .inl rfl, rfl⟩
    · exact ⟨["--"], .inr rfl, rfl⟩
  refine ⟨mark, command, rest, given, hsplit, hmark, ?_, ?_, ?_, htaken, fun hbare => ?_⟩
  · rw [Request.name, Request.entryPoint_request]
    exact hname.imp_right fun ⟨hnul, he⟩ => ⟨hnul, he ▸ rfl⟩
  · rwa [EntryPoint.shapes_request]
  · rw [EntryPoint.shapes_request]
    exact fun given' h' => hmade.unique e.readable.apart_shapes h'
  · have hform := htaken.bare_eq hbare
    cases e <;> exact hform

/-- Marks, a value that looks like help, and a sign and zeros in front of a number. -/
theorem read_sound_marks :
    let r : Request := .sequentialMatcher
      { databasePath := "--help",
        options := { overlap := 7, loopDetection := true, vocabTreePath := some "--" } }
    ∃ mark command rest given,
      ["--", "sequential_matcher", "--overlap", "+007", "--vocab-tree-path", "--",
        "--loop-detection", "--database-path", "--help", "--"] = mark ++ command :: rest ∧
      (mark = [] ∨ mark = ["--"]) ∧
      (r.name = command ∨ command = "\x00" ∧ r.name = "feature_extractor") ∧
      MadeOf r.shapes given rest ∧ (∀ given', MadeOf r.shapes given' rest → given' = given) ∧
      TakenFrom given r ∧
      ((∀ en ∈ r.entries, en.option ∈ given.map Given.option → en.default = none) →
        r.entryPoint.bare r.form = r.form) :=
  read_sound (by decide +kernel)

/-- A NUL is read as the first command, though it is not its name. -/
theorem read_nul : ∃ r, read ["\x00", "--database-path", "d", "--image-path", "i"] = .ok r ∧
    r.name ∉ ["\x00", "--database-path", "d", "--image-path", "i"] :=
  ⟨.featureExtractor { reader := { databasePath := "d", imagePath := "i" } }, by decide +kernel,
    by decide⟩

/-- The name of a command and options that a request is taken from are read as that request. -/
theorem read_complete {mark : List String} {command : String} {given : List Given}
    (hmark : mark = [] ∨ mark = ["--"])
    (hcommand : r.name = command ∨ command = "\x00" ∧ r.name = "feature_extractor")
    (hmade : MadeOf r.shapes given rest) (htaken : TakenFrom given r) :
    read (mark ++ command :: rest) = .ok r := by
  have hlead : Leads (mark ++ [command]) r.entryPoint := by
    refine ⟨command, ?_, hcommand.imp_right fun ⟨hnul, hname⟩ =>
      ⟨hnul, EntryPoint.name_injective (f := .featureExtractor) hname⟩⟩
    obtain rfl | rfl := hmark
    · exact .inl rfl
    · exact .inr rfl
  rw [← Request.request_form r] at hmade htaken
  rw [EntryPoint.shapes_request] at hmade
  have hread := hlead.read rest
  rwa [List.append_assoc, List.singleton_append, htaken.read hmade, Request.request_form] at hread

end Program
end FeaturePipeline.CommandLine

import FeaturePipeline.Proofs.ReadRequests

/-! Integers among the options. Main statement: wherever an integer option stands in arguments that
are read, its value may be any numeral within the bounds of its type, and the request then holds that
number exactly for the option; any other value is turned down. -/
namespace FeaturePipeline.CommandLine

def lineWith (lead : List String) (before : List Given) (option : String) (after : List String)
    (value : String) : List String :=
  lead ++ (before.flatMap Given.arguments ++ option :: value :: after)

section Replaced

variable {e : EntryPoint} {lead after : List String} {before : List Given} {s : Setting e.Form}
  {v₀ : String} {r₀ : Request}

/-- A value may be replaced in arguments that are read. Only whether its option can read the new one
decides what becomes of them. -/
theorem read_replaced (hlead : Leads lead e)
    (hbefore : ∀ g ∈ before, g.shape ∈ e.settings.map Setting.shape) (hs : s ∈ e.settings)
    (hsw : s.field.isSwitch = false)
    (h : read (lineWith lead before s.option after v₀) = .ok r₀) (v : String) :
    (∀ form, s.field.write v e.blank = .ok form → ∃ form,
      read (lineWith lead before s.option after v) = .ok (e.request form) ∧
        (s.field.content form).SaidBy v) ∧
    ∀ fault, s.field.write v e.blank = .error fault →
      read (lineWith lead before s.option after v) =
        .error (.fault (.badValue s.option v fault)) := by
  let g : String → Given := fun value => ⟨s.option, some value⟩
  have hshape : ∀ value, (g value).shape ∈ e.settings.map Setting.shape := fun value =>
    List.mem_map.mpr ⟨s, hs, by rw [Setting.shape, hsw]; rfl⟩
  rw [lineWith, hlead.read] at h
  rw [lineWith, hlead.read]
  obtain ⟨given, q, hmade, htakes, hmissing, -⟩ := readCommand_eq_ok_iff.mp h
  have hapart := e.readable.apart_shapes
  obtain ⟨behind, rfl, hbehind⟩ := hmade.uncons_flatMap hapart hbefore
  obtain ⟨later, rfl, hlater⟩ := MadeOf.uncons hapart (g := g v₀) hbehind (hshape v₀)
  obtain ⟨p, hfront, htail⟩ := takes_append_iff.mp htakes
  have hopen : p.Open := hfront.isOpen ⟨rfl, rfl⟩
  cases htail with
  | cons head tail =>
    obtain ⟨hnew, hgiven⟩ := head.value_cases
    constructor
    · intro form hw
      obtain ⟨form', hw'⟩ := Field.write_ok_of_ok hw p.form
      have hnoted : ({ p with form := form', given := s.option :: p.given } :
          Progress e.Form).given = _ := hgiven.symm
      obtain ⟨q', htail', hq⟩ := tail.transfer hnoted
      have htakes' : Takes e.settings { form := e.blank } (before ++ g v :: later) q' :=
        takes_append_iff.mpr ⟨p, hfront, .cons (.value hs hsw hnew hw') htail'⟩
      have hmade' := (hlater.cons (hshape v)).prepend hbefore
      have hsaid := ((htakes'.filled e.readable filled_blank).fields s hs).value v (by simp [g])
      exact ⟨q'.form, readCommand_eq_ok_iff.mpr ⟨_, q', hmade', htakes', hq ▸ hmissing, rfl⟩, hsaid⟩
    · intro fault hw
      have hfront' := hfront.read e.readable ⟨rfl, rfl⟩ (s.option :: v :: after)
      rw [readCommand, hfront', readSettings_value e.readable hs hsw hopen, Progress.fill,
        if_neg hnew, Field.write_error_of_error hw p.form]
      rfl

end Replaced

def Content.int? : Content → Option Int
  | size n => some n.toNat
  | integer i => some i.toInt
  | _ => none

/-- Arguments with one value left open are read exactly when the value is a numeral within bounds,
and the request then holds that number for the option. Otherwise the value is reported. -/
structure ReadsWithin (e : EntryPoint) (line : String → List String) (option : String)
    (signed : Bool) (least greatest : Int) (v : String) : Prop where
  accepts : ∀ z, Integer.Numeral signed v.toList z → least ≤ z → z ≤ greatest →
    ∃ r, read (line v) = .ok r ∧ r.entryPoint = e ∧
      ∃ en ∈ r.entries, en.option = option ∧ en.content.int? = some z
  rejects : (∀ z, Integer.Numeral signed v.toList z → z < least ∨ greatest < z) →
    ∃ fault, read (line v) = .error (.fault (.badValue option v (.notInteger fault)))

section Integers

variable {e : EntryPoint} {lead after : List String} {before : List Given} {v₀ : String}
  {r₀ : Request}

/-- What a field takes and what it turns down is taken and turned down in any arguments. -/
theorem readsWithin_of_write {s : Setting e.Form} {v : String} {signed : Bool} {least greatest : Int}
    (hlead : Leads lead e) (hbefore : ∀ g ∈ before, g.shape ∈ e.settings.map Setting.shape)
    (hs : s ∈ e.settings) (hsw : s.field.isSwitch = false)
    (h : read (lineWith lead before s.option after v₀) = .ok r₀)
    (hheld : ∀ form, (s.field.content form).SaidBy v →
      ∃ z, (s.field.content form).int? = some z ∧ Integer.Numeral signed v.toList z)
    (htakes : ∀ z, Integer.Numeral signed v.toList z → least ≤ z → z ≤ greatest →
      ∃ form, s.field.write v e.blank = .ok form)
    (hrefuses : (∀ z, Integer.Numeral signed v.toList z → z < least ∨ greatest < z) →
      ∃ fault, s.field.write v e.blank = .error (.notInteger fault)) :
    ReadsWithin e (lineWith lead before s.option after) s.option signed least greatest v := by
  obtain ⟨haccepts, hrejects⟩ := read_replaced hlead hbefore hs hsw h v
  constructor
  · intro z hnum hlow hhigh
    obtain ⟨written, hw⟩ := htakes z hnum hlow hhigh
    obtain ⟨form, hread, hsaid⟩ := haccepts written hw
    obtain ⟨z', hint, hnum'⟩ := hheld form hsaid
    obtain rfl := hnum'.unique hnum
    exact ⟨_, hread, Request.entryPoint_request e form, _, EntryPoint.entry_mem hs form, rfl, hint⟩
  · intro hout
    obtain ⟨fault, hw⟩ := hrefuses hout
    exact ⟨fault, hrejects _ hw⟩

theorem read_size {s : Setting e.Form} {l : Lens e.Form UInt64} (hlead : Leads lead e)
    (hbefore : ∀ g ∈ before, g.shape ∈ e.settings.map Setting.shape) (hs : s ∈ e.settings)
    (hf : s.field = .size l) (h : read (lineWith lead before s.option after v₀) = .ok r₀)
    (v : String) :
    ReadsWithin e (lineWith lead before s.option after) s.option false 0 18446744073709551615 v := by
  refine readsWithin_of_write hlead hbefore hs (by rw [hf]; rfl) h ?_ ?_ ?_
  all_goals rw [hf]
  · exact fun form hsaid => ⟨_, rfl, hsaid⟩
  · intro z hnum _ hhigh
    obtain ⟨n, hn, -⟩ := Integer.exists_readUInt64 hnum hhigh
    exact ⟨l.set n e.blank, by rw [Field.write, hn]; rfl⟩
  · intro hout
    cases hn : Integer.readUInt64 v with
    | error fault => exact ⟨fault, by rw [Field.write, hn]; rfl⟩
    | ok n =>
      have hlt := n.toNat_lt
      have hbounds := hout _ (Integer.readUInt64_eq_ok_iff.mp hn)
      omega

theorem read_integer {s : Setting e.Form} {l : Lens e.Form Int32} (hlead : Leads lead e)
    (hbefore : ∀ g ∈ before, g.shape ∈ e.settings.map Setting.shape) (hs : s ∈ e.settings)
    (hf : s.field = .integer l) (h : read (lineWith lead before s.option after v₀) = .ok r₀)
    (v : String) :
    ReadsWithin e (lineWith lead before s.option after) s.option true
      (-2147483648) 2147483647 v := by
  refine readsWithin_of_write hlead hbefore hs (by rw [hf]; rfl) h ?_ ?_ ?_
  all_goals rw [hf]
  · exact fun form hsaid => ⟨_, rfl, hsaid⟩
  · intro z hnum hlow hhigh
    obtain ⟨i, hi, -⟩ := Integer.exists_readInt32 hnum hlow hhigh
    exact ⟨l.set i e.blank, by rw [Field.write, hi]; rfl⟩
  · intro hout
    cases hi : Integer.readInt32 v with
    | error fault => exact ⟨fault, by rw [Field.write, hi]; rfl⟩
    | ok i =>
      have hlow := i.le_toInt
      have hhigh := i.toInt_lt
      have hbounds := hout _ (Integer.readInt32_eq_ok_iff.mp hi)
      omega

/-- An integer option never wraps around and never cuts off: it takes the numerals within the bounds
of its type, each as what it is, and nothing else. -/
theorem read_integers (hlead : Leads lead r₀.entryPoint) (hbefore : ∀ g ∈ before, g.shape ∈ r₀.shapes)
    {en : Entry} (hen : en ∈ r₀.entries)
    (h : read (lineWith lead before en.option after v₀) = .ok r₀) (v : String) :
    (∀ n, en.content = .size n →
      ReadsWithin r₀.entryPoint (lineWith lead before en.option after) en.option false
        0 18446744073709551615 v) ∧
    ∀ i, en.content = .integer i →
      ReadsWithin r₀.entryPoint (lineWith lead before en.option after) en.option true
        (-2147483648) 2147483647 v := by
  rw [← Request.request_form r₀] at hbefore hen
  rw [EntryPoint.shapes_request] at hbefore
  obtain ⟨s, hs, rfl⟩ := EntryPoint.mem_entries_request.mp hen
  constructor
  · intro n hn
    cases hf : s.field with
    | size l => exact read_size hlead hbefore hs hf h v
    | _ =>
      rw [Setting.entry, hf] at hn
      cases hn
  · intro i hi
    cases hf : s.field with
    | integer l => exact read_integer hlead hbefore hs hf h v
    | _ =>
      rw [Setting.entry, hf] at hi
      cases hi

/-- The greatest size is read behind a sign and zeros, and the next number is not. -/
theorem read_integers_greatest :
    (∃ form : MatcherRequest ExhaustiveOptions,
      read ["exhaustive_matcher", "--database-path", "--help", "--block-size",
        "+00018446744073709551615", "--"] = .ok (.exhaustiveMatcher form) ∧
      (form.options.blockSize.toNat : Int) = 18446744073709551615) ∧
    ∃ fault, read ["exhaustive_matcher", "--database-path", "--help", "--block-size",
        "18446744073709551616", "--"] =
      .error (.fault (.badValue "--block-size" "18446744073709551616" (.notInteger fault))) := by
  let r : Request := .exhaustiveMatcher { databasePath := "--help", options := {} }
  have hlead : Leads ["exhaustive_matcher"] r.entryPoint := ⟨_, .inl rfl, .inl rfl⟩
  have hshapes : ∀ g ∈ [(⟨"--database-path", some "--help"⟩ : Given)], g.shape ∈ r.shapes :=
    List.forall_mem_singleton.mpr List.mem_cons_self
  have hen : ⟨"--block-size", .size 50, some (.size 50)⟩ ∈ r.entries :=
    List.mem_cons_of_mem _ List.mem_cons_self
  have hread : read (lineWith ["exhaustive_matcher"] [⟨"--database-path", some "--help"⟩]
      "--block-size" ["--"] "50") = .ok r := by
    decide +kernel
  have hexact := fun v => (read_integers hlead hshapes hen hread v).1 50 rfl
  have hgreatest : Integer.Numeral false "+00018446744073709551615".toList 18446744073709551615 :=
    Integer.readUInt64_eq_ok_iff.mp
      (by decide +kernel : Integer.readUInt64 "+00018446744073709551615" = .ok 18446744073709551615)
  have hnext : Integer.Numeral false "18446744073709551616".toList 18446744073709551616 :=
    .plain (List.all_eq_true.mp (by decide)) (by decide)
  constructor
  · obtain ⟨r', hr', he, en, hen', hoption, hz⟩ :=
      (hexact _).accepts _ hgreatest (by decide) (by decide)
    cases r' with
    | exhaustiveMatcher form =>
      obtain rfl : en = ⟨"--block-size", .size form.options.blockSize, some (.size 50)⟩ :=
        List.inj_on_of_nodup_map (Request.options_nodup _) hen'
          (List.mem_cons_of_mem _ List.mem_cons_self) hoption
      exact ⟨form, hr', Option.some.inj hz⟩
    | _ => cases he
  · refine (hexact _).rejects fun z hz => ?_
    rw [hz.unique hnext]
    exact .inr (by decide)

end Integers
end FeaturePipeline.CommandLine

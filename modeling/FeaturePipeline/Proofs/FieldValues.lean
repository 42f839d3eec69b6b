import FeaturePipeline.CommandLine.Setting
import FeaturePipeline.Proofs.IntegerNumerals
import FeaturePipeline.Proofs.NearestDouble

/-! Fields and the values of options. Main statement: a value is read into a field exactly when it
says what the field can hold, and then the field holds that and nothing else is set. -/
namespace FeaturePipeline.CommandLine

variable {α : Type} {field : Field α} {value : String}

inductive Content where
  | text (s : String)
  | optionalText (s : Option String)
  | flag (b : Bool)
  | size (n : UInt64)
  | integer (i : Int32)
  | number (x : Binary64)
  | switch (on : Bool)
deriving DecidableEq

def flagText (b : Bool) : String := bif b then "true" else "false"

theorem readFlag_eq_ok_iff {b : Bool} : readFlag value = .ok b ↔ value = flagText b := by
  constructor
  · intro h
    unfold readFlag at h
    split at h
    · cases h
      assumption
    · split at h
      · cases h
        assumption
      · cases h
  · rintro rfl
    cases b <;> rfl

namespace Content

def isSwitch : Content → Bool
  | switch _ => true
  | _ => false

/-- A text stands for itself, an integer for itself exactly, and a number for the nearest double. A
switch has no value. -/
def SaidBy (value : String) : Content → Prop
  | text s => s = value
  | optionalText s => s = some value
  | flag b => value = flagText b
  | size n => Integer.Numeral false value.toList n.toNat
  | integer i => Integer.Numeral true value.toList i.toInt
  | number x => ∃ literal, Literal.Spells value.toList literal ∧ literal.Denotes x
  | switch _ => False

end Content

/-- What is set is what the place holds. -/
def Lens.Lawful {β : Type} (l : Lens α β) : Prop := ∀ v form, l.get (l.set v form) = v

namespace Field

def content (form : α) : Field α → Content
  | text l => .text (l.get form)
  | optionalText l => .optionalText (l.get form)
  | flag l => .flag (l.get form)
  | size l => .size (l.get form)
  | integer l => .integer (l.get form)
  | number l => .number (l.get form)
  | switch l => .switch (l.get form)

/-- The form with the field set to what it holds in another form. -/
def copy (target form : α) : Field α → α
  | text l => l.set (l.get target) form
  | optionalText l => l.set (l.get target) form
  | flag l => l.set (l.get target) form
  | size l => l.set (l.get target) form
  | integer l => l.set (l.get target) form
  | number l => l.set (l.get target) form
  | switch l => l.set (l.get target) form

def Lawful : Field α → Prop
  | text l => l.Lawful
  | optionalText l => l.Lawful
  | flag l => l.Lawful
  | size l => l.Lawful
  | integer l => l.Lawful
  | number l => l.Lawful
  | switch l => l.Lawful

@[simp] theorem isSwitch_content (field : Field α) (form : α) :
    (field.content form).isSwitch = field.isSwitch := by
  cases field <;> rfl

theorem eq_switch_of_isSwitch (h : field.isSwitch = true) : ∃ l, field = switch l := by
  cases field with
  | switch l => exact ⟨l, rfl⟩
  | _ => cases h

theorem copy_congr {target target' : α} (h : field.content target = field.content target')
    (form : α) : field.copy target form = field.copy target' form := by
  cases field <;> exact congrArg (Lens.set _ · form) (by simpa [content] using h)

theorem write_of_saidBy {target : α} (h : (field.content target).SaidBy value) (form : α) :
    field.write value form = .ok (field.copy target form) := by
  cases field with
  | text l =>
    have hget : l.get target = value := h
    rw [write, copy, hget]
  | optionalText l =>
    have hget : l.get target = some value := h
    rw [write, copy, hget]
  | flag l => exact map_eq_ok_iff.mpr ⟨_, readFlag_eq_ok_iff.mpr h, rfl⟩
  | size l =>
    exact map_eq_ok_iff.mpr
      ⟨_, mapError_eq_ok_iff.mpr (Integer.readUInt64_eq_ok_iff.mpr h), rfl⟩
  | integer l =>
    exact map_eq_ok_iff.mpr
      ⟨_, mapError_eq_ok_iff.mpr (Integer.readInt32_eq_ok_iff.mpr h), rfl⟩
  | number l =>
    obtain ⟨literal, hspells, hdenotes⟩ := h
    have hread : Binary64.read value.toList = .ok (l.get target) :=
      map_eq_ok_iff.mpr ⟨literal, Literal.read_eq_ok_iff.mpr hspells,
        (Literal.eq_toBinary64_iff.mpr hdenotes).symm⟩
    exact map_eq_ok_iff.mpr ⟨_, mapError_eq_ok_iff.mpr hread, rfl⟩
  | switch l => cases h

theorem content_eq_of_saidBy (hl : field.Lawful) {a b : α} (ha : (field.content a).SaidBy value)
    (hb : (field.content b).SaidBy value) : field.content a = field.content b := by
  have hcopy : field.copy a a = field.copy b a := by
    have hwrite := write_of_saidBy ha a
    rw [write_of_saidBy hb a] at hwrite
    exact (Except.ok.inj hwrite).symm
  cases field with
  | switch l => cases ha
  | _ l => exact congrArg _ ((hl _ a).symm.trans ((congrArg l.get hcopy).trans (hl _ a)))

/-- What a field is set to from a value is what the value says, and nothing else is set. -/
theorem saidBy_of_write (hl : field.Lawful) (hs : field.isSwitch = false) {form form' : α}
    (h : field.write value form = .ok form') :
    (field.content form').SaidBy value ∧ form' = field.copy form' form := by
  -- The lens laws turn what was written into what the outcome holds.
  have hset : ∀ {β : Type} {l : Lens α β} {v : β}, l.Lawful → l.set v form = form' →
      l.get form' = v ∧ form' = l.set (l.get form') form := by
    rintro β l v hl rfl
    rw [hl]
    exact ⟨rfl, rfl⟩
  cases field with
  | text l => exact hset hl (Except.ok.inj h)
  | optionalText l => exact hset hl (Except.ok.inj h)
  | flag l =>
    obtain ⟨b, hb, hform⟩ := map_eq_ok_iff.mp h
    obtain ⟨rfl, hcopy⟩ := hset hl hform
    exact ⟨readFlag_eq_ok_iff.mp hb, hcopy⟩
  | size l =>
    obtain ⟨n, hn, hform⟩ := map_eq_ok_iff.mp h
    obtain ⟨rfl, hcopy⟩ := hset hl hform
    exact ⟨Integer.readUInt64_eq_ok_iff.mp (mapError_eq_ok_iff.mp hn), hcopy⟩
  | integer l =>
    obtain ⟨i, hi, hform⟩ := map_eq_ok_iff.mp h
    obtain ⟨rfl, hcopy⟩ := hset hl hform
    exact ⟨Integer.readInt32_eq_ok_iff.mp (mapError_eq_ok_iff.mp hi), hcopy⟩
  | number l =>
    obtain ⟨x, hx, hform⟩ := map_eq_ok_iff.mp h
    obtain ⟨rfl, hcopy⟩ := hset hl hform
    obtain ⟨literal, hread, hdouble⟩ := map_eq_ok_iff.mp (mapError_eq_ok_iff.mp hx)
    exact ⟨⟨literal, Literal.read_eq_ok_iff.mp hread, Literal.eq_toBinary64_iff.mp hdouble.symm⟩,
      hcopy⟩
  | switch l => cases hs

theorem write_ok_of_ok {form form' : α} (h : field.write value form = .ok form') (other : α) :
    ∃ other', field.write value other = .ok other' := by
  cases field with
  | text l | optionalText l | switch l => exact ⟨_, rfl⟩
  | flag l | size l | integer l | number l =>
    obtain ⟨v, hv, -⟩ := map_eq_ok_iff.mp h
    exact ⟨_, map_eq_ok_iff.mpr ⟨v, hv, rfl⟩⟩

theorem write_error_of_error {form : α} {fault : ValueFault}
    (h : field.write value form = .error fault) (other : α) :
    field.write value other = .error fault := by
  have hmap : ∀ {β : Type} {read : Except ValueFault β} {l : Lens α β},
      read.map (l.set · form) = .error fault → read.map (l.set · other) = .error fault := by
    intro β read l h
    cases read with
    | error _ => exact h
    | ok v => cases h
  cases field with
  | text l | optionalText l | switch l => cases h
  | flag l | size l | integer l | number l => exact hmap h

end Field
end FeaturePipeline.CommandLine

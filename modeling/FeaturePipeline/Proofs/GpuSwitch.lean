import FeaturePipeline.Proofs.CallSegments
import FeaturePipeline.Proofs.DryRunReports
import FeaturePipeline.Proofs.FailedDispatch

/-! The variable that switches the GPU off. Main statement: a run keeps what the variable promises
exactly when its value is text. Bytes that are no text pass for a variable that is not set, and
contexts are acquired all the same. -/
namespace FeaturePipeline

theorem Text.encodeUtf8_eq_nil_iff {s : String} : encodeUtf8 s = [] ↔ s = "" :=
  ⟨fun h => encodeUtf8_injective (t := "") h, fun h => h ▸ rfl⟩

theorem Text.encodeUtf8_eq_zero_iff {s : String} : encodeUtf8 s = [0x30] ↔ s = "0" :=
  ⟨fun h => encodeUtf8_injective (t := "0") h, fun h => h ▸ rfl⟩

namespace Program

/-- The variable is set to more than a zero. -/
def SwitchedOff (env : Environment) : Prop :=
  ∃ bytes, env.lookup gpuSwitch = some bytes ∧ bytes ≠ [] ∧ bytes ≠ [0x30]

/-- The variable is set to bytes that are no text. -/
def Illegible (env : Environment) : Prop :=
  ∃ bytes, env.lookup gpuSwitch = some bytes ∧ ∀ s, bytes ≠ Text.encodeUtf8 s

theorem gpuEnabled_eq_false_iff {env : Environment} :
    gpuEnabled env = false ↔ SwitchedOff env ∧ ¬Illegible env := by
  cases hvalue : env.lookup gpuSwitch with
  | none => simp [gpuEnabled, switchesOff, SwitchedOff, hvalue]
  | some bytes =>
    cases htext : Text.decodeUtf8? bytes with
    | none =>
      have hillegible : Illegible env := by
        refine ⟨bytes, hvalue, ?_⟩
        rintro s rfl
        rw [Text.decodeUtf8?_encodeUtf8] at htext
        cases htext
      simp [gpuEnabled, switchesOff, hvalue, htext, hillegible]
    | some s =>
      obtain rfl := Text.decodeUtf8?_eq_some_iff.mp htext
      have hlegible : ¬Illegible env := by
        rintro ⟨bytes, hbytes, hnone⟩
        rw [hvalue] at hbytes
        exact hnone s (Option.some.inj hbytes).symm
      simp [gpuEnabled, switchesOff, SwitchedOff, hvalue, hlegible,
        Text.encodeUtf8_eq_nil_iff, Text.encodeUtf8_eq_zero_iff]

theorem gpuEnabled_eq_true_iff {env : Environment} :
    gpuEnabled env = true ↔ SwitchedOff env → Illegible env := by
  rw [← Bool.not_eq_false, gpuEnabled_eq_false_iff, not_and, Classical.not_not]

theorem Illegible.switchedOff {env : Environment} (h : Illegible env) : SwitchedOff env := by
  obtain ⟨bytes, hvalue, hnone⟩ := h
  exact ⟨bytes, hvalue, hnone "", hnone "0"⟩

/-- The arguments are a request that is accepted, and the strategy is the one that is run for it. -/
def Runs (files : FileSource) (arguments : List String) (s : Strategy) : Prop :=
  ∃ r, CommandLine.read arguments = .ok r ∧ r.FirstCase files (.build s)

section Calls

variable {files : FileSource} {env : Environment} {arguments : List String} {s : Strategy}

def turn (r : Request) : Turn := ⟨.run, r, DryRun.factory 0, .headless⟩

theorem calls_trace {r : Request} (h : CommandLine.read arguments = .ok r) :
    (trace files env arguments).calls = (turn r).calls (gpuEnabled env) files 0 := by
  simp only [trace, h]
  rfl

theorem calls_trace_of_runs (h : Runs files arguments s) :
    (trace files env arguments).calls =
      if s.usesGpu && gpuEnabled env then
        [(.acquire, .runner 0), (.start, .runner 0), (.wait, .runner 0), (.release, .runner 0)]
      else [(.start, .caller), (.wait, .caller)] := by
  obtain ⟨r, hr, hbuild⟩ := h
  have hplanned : (turn r).request.planned files = some s := r.firstCase_build_iff.mp hbuild
  have hstarts : ((turn r).factory s).starts = true :=
    Task.starts_of_run (DryRun.run_factory 0 s .caller)
  have hacquires : (turn r).provider.acquires = true := rfl
  rw [calls_trace hr, Turn.calls_of_some _ files 0 (turn r) hplanned, hstarts, hacquires]
  rfl

theorem calls_trace_of_not_runs (h : ∀ s, ¬Runs files arguments s) :
    (trace files env arguments).calls = [] := by
  cases hr : CommandLine.read arguments with
  | error early => simp [trace, hr]
  | ok r =>
    have hnone : (turn r).request.planned files = none :=
      Request.planned_eq_none fun s hs => h s ⟨r, hr, hs⟩
    rw [calls_trace hr, Turn.calls_of_none _ files 0 (turn r) hnone]

theorem exists_acquire_iff : (∃ x, (.acquire, x) ∈ (trace files env arguments).calls) ↔
    gpuEnabled env = true ∧ ∃ s, Runs files arguments s ∧ s.usesGpu = true := by
  constructor
  · rintro ⟨x, hx⟩
    by_cases hruns : ∃ s, Runs files arguments s
    · obtain ⟨s, hs⟩ := hruns
      rw [calls_trace_of_runs hs] at hx
      split at hx
      case isTrue hboth =>
        obtain ⟨hasks, hgpu⟩ := Bool.and_eq_true_iff.mp hboth
        exact ⟨hgpu, s, hs, hasks⟩
      case isFalse => simp at hx
    · rw [calls_trace_of_not_runs (not_exists.mp hruns)] at hx
      cases hx
  · rintro ⟨hgpu, s, hs, hasks⟩
    rw [calls_trace_of_runs hs, hasks, hgpu]
    exact ⟨_, List.mem_cons_self⟩

end Calls

/-- What the variable promises of a run. -/
structure SwitchKept (files : FileSource) (env : Environment) (arguments : List String) : Prop where
  off : SwitchedOff env → gpuEnabled env = false
  noContext : SwitchedOff env → ¬∃ x, (.acquire, x) ∈ (trace files env arguments).calls
  onCaller : SwitchedOff env → ∀ s, Runs files arguments s →
    (trace files env arguments).calls = [(.start, .caller), (.wait, .caller)]
  on : ¬SwitchedOff env → ((∃ x, (.acquire, x) ∈ (trace files env arguments).calls) ↔
    ∃ s, Runs files arguments s ∧ s.usesGpu = true)

/-- The promise is kept in a run exactly when the variable is not set or its value is text. With any
other value the GPU was to be off, and still a context is acquired for every strategy that asks for
one. -/
theorem switchKept_iff (files : FileSource) (env : Environment) (arguments : List String) :
    (SwitchKept files env arguments ↔ ¬Illegible env) ∧
    (Illegible env → SwitchedOff env ∧
      ((∃ x, (.acquire, x) ∈ (trace files env arguments).calls) ↔
        ∃ s, Runs files arguments s ∧ s.usesGpu = true)) := by
  refine ⟨⟨fun hkept hillegible => ?_, fun hlegible => ?_⟩, fun hillegible => ?_⟩
  · have hoff := hkept.off hillegible.switchedOff
    exact (gpuEnabled_eq_false_iff.mp hoff).2 hillegible
  · have hfalse (h : SwitchedOff env) : gpuEnabled env = false :=
      gpuEnabled_eq_false_iff.mpr ⟨h, hlegible⟩
    refine ⟨hfalse, fun h => ?_, fun h s hs => ?_, fun h => ?_⟩
    · simp [exists_acquire_iff, hfalse h]
    · simp [calls_trace_of_runs hs, hfalse h]
    · have htrue : gpuEnabled env = true := gpuEnabled_eq_true_iff.mpr fun hoff => absurd hoff h
      rw [exists_acquire_iff, and_iff_right htrue]
  · have htrue : gpuEnabled env = true := gpuEnabled_eq_true_iff.mpr fun _ => hillegible
    exact ⟨hillegible.switchedOff, by rw [exists_acquire_iff, and_iff_right htrue]⟩

/-- A byte that is no text leaves the GPU on, and a context is acquired. -/
theorem trace_of_illegible_switch :
    let env : Environment := [(gpuSwitch, [0xFF])]
    let arguments := ["exhaustive_matcher", "--database-path", "db"]
    SwitchedOff env ∧ gpuEnabled env = true ∧
      (trace (fun _ => .error .notFound) env arguments).calls =
        [(.acquire, .runner 0), (.start, .runner 0), (.wait, .runner 0), (.release, .runner 0)] :=
  ⟨⟨[0xFF], by decide, by decide, by decide⟩, by decide +kernel, by decide +kernel⟩

end Program
end FeaturePipeline

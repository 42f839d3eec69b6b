import FeaturePipeline.Program
import FeaturePipeline.Proofs.DecisionOrder

/-! The exit code of the program. Main statement: it is zero exactly when help is asked for or the
arguments are a request that is accepted, and one in every other case; the program never unwinds,
and no variable of the environment changes its exit code. -/
namespace FeaturePipeline

namespace Request

variable {files : FileSource} {r : Request}

/-- A request without a fault: its list file can be read, and either the list is blank, or the
camera, the match type and the options are valid. -/
inductive Accepted (files : FileSource) (r : Request) : Prop where
  | blankList {path : String} (hl : r.listFile? = some path) (h : ImageList.AllBlank files path)
  | valid {s : Strategy} (hp : Prepared files r s)
    (hcamera : ∀ o, r.reader? = some o → ∃ m : Camera.Model,
      m.name = o.cameraModel ∧ m.acceptsText o.cameraParameters = true)
    (hcheck : s.check = .ok ())

theorem Prepared.readable {s : Strategy} {path : String} {fault : FileFault}
    (hp : Prepared files r s) (hl : r.listFile? = some path) :
    ¬ImageList.Unreadable files path fault := by
  have hread {listPath : Option String} {own images : List String}
      (hi : Images files listPath own images) (hg : givenPath listPath = some path) :
      ¬ImageList.Unreadable files path fault := by
    intro hu
    cases hi with
    | ofFile hg' hfile =>
      rw [hg] at hg'
      cases hg'
      have hok := ImageList.read_eq_ok_iff.mpr ⟨_, hfile, rfl⟩
      rw [ImageList.read_eq_error_iff.mpr hu] at hok
      cases hok
    | own hg' =>
      rw [hg] at hg'
      cases hg'
  cases hp with
  | extraction hi | featureImport hi => exact hread hi hl
  | _ => cases hl

theorem Prepared.typeKnown {s : Strategy} {f : MatchesImporterRequest}
    (hp : Prepared files (matchesImporter f) s) : f.matchType ∈ ["pairs", "raw", "inliers"] := by
  cases hp with
  | pairs h | raw h | inliers h => simp [h]

theorem Accepted.not_reject {e : PipelineError} (h : r.Accepted files) :
    ¬FirstCase files r (.reject e) := by
  rintro ⟨n, ha, hbefore⟩
  cases h with
  | blankList hl hb =>
    have hle : n ≤ 2 := by
      by_contra hn
      exact hbefore 2 (by omega) _ (.blankList hl hb)
    cases ha with
    | unreadableList hl' hu =>
      rw [hl] at hl'
      cases hl'
      have hnil := ImageList.read_eq_nil_iff.mpr hb
      rw [ImageList.read_eq_error_iff.mpr hu] at hnil
      cases hnil
    | _ => omega
  | @valid s hp hcamera hcheck =>
    cases ha with
    | unreadableList hl hu => exact hp.readable hl hu
    | unknownModel hr hu =>
      obtain ⟨m, hm, -⟩ := hcamera _ hr
      exact hu m hm
    | unfitParameters hr hm hu =>
      obtain ⟨k, hk, hfit⟩ := hcamera _ hr
      rw [Camera.Model.name_injective (hk.trans hm.symm), hu] at hfit
      cases hfit
    | unknownMatchType hr hu =>
      subst hr
      exact hu hp.typeKnown
    | failingOption hp' hj =>
      have hok := s.judged_check
      rw [hcheck] at hok
      rw [hp'.unique hp] at hj
      cases hok.unique hj

theorem check_of_build {s : Strategy} (h : FirstCase files r (.build s)) : s.check = .ok () := by
  obtain ⟨n, ha, hbefore⟩ := h
  cases ha with
  | accepted hp =>
    cases hc : s.check with
    | ok u => rfl
    | error fault =>
      have hj := s.judged_check
      rw [hc] at hj
      exact absurd (.failingOption hp hj) (hbefore 6 (by omega) _)

theorem accepted_of_build {s : Strategy} (h : FirstCase files r (.build s)) : r.Accepted files := by
  have hcheck := check_of_build h
  obtain ⟨n, ha, hbefore⟩ := h
  cases ha with
  | accepted hp =>
    refine .valid hp (fun o ho => ?_) hcheck
    by_contra hnone
    simp only [not_exists, not_and, Bool.not_eq_true] at hnone
    by_cases hm : ∃ m : Camera.Model, m.name = o.cameraModel
    · obtain ⟨m, hm⟩ := hm
      exact hbefore 4 (by omega) _ (.unfitParameters ho hm (hnone m hm))
    · exact hbefore 3 (by omega) _ (.unknownModel ho fun m hn => hm ⟨m, hn⟩)

/-- A request is accepted exactly when its resolution is no error. -/
theorem accepted_iff : r.Accepted files ↔ ∃ planned, r.resolve files = .ok planned := by
  have hfirst := firstCase_resolve files r
  cases hr : r.resolve files with
  | error e =>
    rw [hr] at hfirst
    constructor
    · exact fun h => absurd hfirst h.not_reject
    · rintro ⟨planned, hp⟩
      cases hp
  | ok planned =>
    rw [hr] at hfirst
    refine ⟨fun _ => ⟨planned, rfl⟩, fun _ => ?_⟩
    cases planned with
    | some s => exact accepted_of_build hfirst
    | none =>
      obtain ⟨n, ha, -⟩ := hfirst
      cases ha with
      | blankList hl hb => exact .blankList hl hb

end Request

/-- The tasks of a dry run have names that threads can have. -/
theorem StrategyKind.nul_not_mem_name (k : StrategyKind) : ThreadTask.nul ∉ k.name.toList := by
  cases k <;> decide

theorem DryRun.run_factory (pace : Nat) (s : Strategy) (on : Thread) :
    ((DryRun.factory pace s).run on).1 = .returned () := by
  have hstart := ThreadTask.start_of_job (t := task s) rfl s.kind.nul_not_mem_name
  simp [factory, Task.run, Task.start, hstart, Task.wait]

namespace Program

variable (files : FileSource) (env : Environment) (r : Request)

theorem runTask_dispatcher (s : Strategy) :
    ((dispatcher env).runTask s).1 = .returned (.ok ()) := by
  have hrun (on : Thread) : (((dispatcher env).factory s).run on).1 = .returned () :=
    DryRun.run_factory 0 s on
  have hacquire : (dispatcher env).provider.acquire = .returned (.ok ()) := rfl
  cases hu : (dispatcher env).usesGpu s with
  | true =>
    simp [Dispatcher.runTask, Dispatcher.build, hu, ContextProvider.run, hacquire, hrun]
  | false => simp [Dispatcher.runTask, Dispatcher.build, hu, hrun]

theorem dispatch_dispatcher : ((dispatcher env).dispatch files r).1 =
    .returned ((r.resolve files).map fun planned =>
      planned.elim .emptyImageList fun s => .completed s.kind) := by
  cases hr : r.resolve files with
  | error e => simp only [Dispatcher.dispatch, hr, Except.map]
  | ok planned =>
    cases planned with
    | none => simp only [Dispatcher.dispatch, hr, Except.map, Option.elim_none]
    | some s =>
      simp [Dispatcher.dispatch, hr, Dispatcher.perform, runTask_dispatcher, Except.map]

theorem run_dispatcher : ((dispatcher env).run files r).1 =
    .returned (match r.resolve files with | .ok _ => .success | .error _ => .failure) := by
  rw [Dispatcher.run_eq, dispatch_dispatcher]
  cases r.resolve files <;> rfl

theorem exitCode_runRequest : (runRequest files env r).exitCode =
    match r.resolve files with | .ok _ => 0 | .error _ => 1 := by
  simp only [runRequest, run_dispatcher]
  cases r.resolve files <;> rfl

/-- The exit code is zero exactly when help is asked for or the arguments are a request that is
accepted, and one otherwise. No request makes the program unwind; the requests that its dispatcher
answers without an error are the accepted ones; and with another environment the exit code is the
same. -/
theorem exitCode_run (files : FileSource) (env : Environment) (arguments : List String) :
    ((run files env arguments).exitCode = 0 ↔
      (∃ text, CommandLine.read arguments = .error (.help text)) ∨
        ∃ r, CommandLine.read arguments = .ok r ∧ r.Accepted files) ∧
    ((run files env arguments).exitCode = 0 ∨ (run files env arguments).exitCode = 1) ∧
    (∀ r, (∃ status, ((dispatcher env).run files r).1 = .returned status) ∧
      (r.Accepted files ↔
        ∃ outcome, ((dispatcher env).dispatch files r).1 = .returned (.ok outcome))) ∧
    ∀ env', (run files env' arguments).exitCode = (run files env arguments).exitCode := by
  have hanswer : ∀ r, (∃ status, ((dispatcher env).run files r).1 = .returned status) ∧
      (r.Accepted files ↔
        ∃ outcome, ((dispatcher env).dispatch files r).1 = .returned (.ok outcome)) := by
    intro r
    refine ⟨⟨_, run_dispatcher files env r⟩, ?_⟩
    rw [Request.accepted_iff, dispatch_dispatcher]
    cases r.resolve files <;> simp [Except.map]
  cases hread : CommandLine.read arguments with
  | error early =>
    cases early with
    | help text => simp [run, hread, hanswer]
    | fault fault => simp [run, hread, hanswer]
  | ok r =>
    have hcode (env : Environment) : (run files env arguments).exitCode =
        match r.resolve files with | .ok _ => 0 | .error _ => 1 := by
      simp only [run, hread, exitCode_runRequest]
    refine ⟨?_, ?_, hanswer, fun env' => by rw [hcode, hcode]⟩
    · simp only [hcode, reduceCtorEq, exists_false, false_or, Except.ok.injEq, exists_eq_left',
        Request.accepted_iff]
      cases r.resolve files <;> simp
    · rw [hcode]
      cases r.resolve files <;> simp

end Program
end FeaturePipeline

import FeaturePipeline.Path
import FeaturePipeline.Strategy.Plan
import FeaturePipeline.Task.Basic

/-! The dry run: tasks that only report the plan of their strategy. -/
namespace FeaturePipeline.DryRun

def imagePaths : Strategy → List String
  | .extraction reader _ => reader.imageList.map (Path.join reader.imagePath)
  | _ => []

def records (s : Strategy) : List Log.Record :=
  ⟨.info, .dryRun, s!"Running {s.plan}"⟩ ::
    (imagePaths s).map (fun path => ⟨.debug, .dryRun, "  " ++ path⟩) ++
    [⟨.info, .dryRun, s!"Finished {s.kind.name}"⟩]

def task (s : Strategy) : ThreadTask := .new s.kind.name { effects := (records s).map .logged }

/-- A task for every strategy, with a worker of the given pace. -/
def factory (pace : Nat) (s : Strategy) : Task := .thread (task s) pace

end FeaturePipeline.DryRun

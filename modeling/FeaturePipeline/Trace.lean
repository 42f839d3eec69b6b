import FeaturePipeline.Log
import FeaturePipeline.Strategy.Basic

/-! What a run shows, in the order in which it happens, and how a call ends. -/
namespace FeaturePipeline

/-- The thread that asks for the work, or one that was started to own a rendering context; each of
those has a number of its own. -/
inductive Thread where
  | caller
  | runner (number : Nat)
deriving DecidableEq

/-- The calls by which a task and the context around it are driven. -/
inductive Call where
  | acquire
  | start
  | wait
  | release
deriving DecidableEq

inductive Observation where
  /-- A strategy was handed over, and a task for it was made. -/
  | built (strategy : Strategy)
  | called (call : Call) (thread : Thread)
  | logged (record : Log.Record)
  /-- A job added one to the common counter. -/
  | counted
deriving DecidableEq

abbrev Trace := List Observation

/-- What a job does that shows: it writes to the log, or it adds one to the counter. It makes no
task and drives none. -/
inductive Effect where
  | logged (record : Log.Record)
  | counted
deriving DecidableEq

def Effect.observation : Effect → Observation
  | logged r => .logged r
  | counted => .counted

namespace Trace

def built (t : Trace) : List Strategy :=
  t.filterMap fun | .built s => some s | _ => none

def calls (t : Trace) : List (Call × Thread) :=
  t.filterMap fun | .called c x => some (c, x) | _ => none

def records (t : Trace) : List Log.Record :=
  t.filterMap fun | .logged r => some r | _ => none

def count (t : Trace) : Nat := t.countP (· == .counted)

def ofEffects (effects : List Effect) : Trace := effects.map Effect.observation

variable (s t : Trace)

@[simp] theorem built_nil : built [] = [] := rfl
@[simp] theorem calls_nil : calls [] = [] := rfl
@[simp] theorem records_nil : records [] = [] := rfl
@[simp] theorem count_nil : count [] = 0 := rfl

@[simp] theorem built_append : built (s ++ t) = s.built ++ t.built := List.filterMap_append
@[simp] theorem calls_append : calls (s ++ t) = s.calls ++ t.calls := List.filterMap_append
@[simp] theorem records_append : records (s ++ t) = s.records ++ t.records :=
  List.filterMap_append
@[simp] theorem count_append : count (s ++ t) = s.count + t.count := List.countP_append

section Cons

variable (strategy : Strategy) (call : Call) (thread : Thread) (record : Log.Record)

@[simp] theorem built_cons_built : built (.built strategy :: t) = strategy :: t.built := rfl
@[simp] theorem built_cons_called : built (.called call thread :: t) = t.built := rfl
@[simp] theorem built_cons_logged : built (.logged record :: t) = t.built := rfl
@[simp] theorem calls_cons_built : calls (.built strategy :: t) = t.calls := rfl
@[simp] theorem calls_cons_called :
    calls (.called call thread :: t) = (call, thread) :: t.calls := rfl
@[simp] theorem calls_cons_logged : calls (.logged record :: t) = t.calls := rfl
@[simp] theorem records_cons_built : records (.built strategy :: t) = t.records := rfl
@[simp] theorem records_cons_called : records (.called call thread :: t) = t.records := rfl
@[simp] theorem records_cons_logged : records (.logged record :: t) = record :: t.records := rfl

end Cons

@[simp] theorem built_map_logged (rs : List Log.Record) : built (rs.map .logged) = [] := by
  induction rs with
  | nil => rfl
  | cons r rs ih => exact ih

@[simp] theorem calls_map_logged (rs : List Log.Record) : calls (rs.map .logged) = [] := by
  induction rs with
  | nil => rfl
  | cons r rs ih => exact ih

@[simp] theorem records_map_logged (rs : List Log.Record) : records (rs.map .logged) = rs := by
  induction rs with
  | nil => rfl
  | cons r rs ih => exact congrArg (r :: ·) ih

@[simp] theorem ofEffects_append (es fs : List Effect) :
    ofEffects (es ++ fs) = ofEffects es ++ ofEffects fs := List.map_append

@[simp] theorem built_ofEffects (es : List Effect) : (ofEffects es).built = [] := by
  induction es with
  | nil => rfl
  | cons e es ih => cases e <;> exact ih

@[simp] theorem calls_ofEffects (es : List Effect) : (ofEffects es).calls = [] := by
  induction es with
  | nil => rfl
  | cons e es ih => cases e <;> exact ih

end Trace

inductive Panic where
  | acquire
  | start
  | wait
  /-- A thread was to be started under a name that holds a NUL. -/
  | threadName
deriving DecidableEq

/-- How a call ends: it returns, or it unwinds. -/
inductive Ended (α : Type) where
  | returned (value : α)
  | panicked (panic : Panic)
deriving DecidableEq

def Ended.map {α β : Type} (f : α → β) : Ended α → Ended β
  | .returned a => .returned (f a)
  | .panicked p => .panicked p

@[simp] theorem Ended.map_returned {α β : Type} (f : α → β) (a : α) :
    (Ended.returned a).map f = .returned (f a) := rfl
@[simp] theorem Ended.map_panicked {α β : Type} (f : α → β) (p : Panic) :
    (Ended.panicked p).map f = .panicked p := rfl

end FeaturePipeline

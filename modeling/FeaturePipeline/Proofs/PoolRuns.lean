import Mathlib.Data.List.Perm.Basic
import FeaturePipeline.Proofs.TaskLives

/-! Runs of a pool. What a run shows is split into what each task shows in its life. Main
statement: nothing unwinds, each task runs its job at most once, nothing is shown outside the lives
of the tasks, and while no task is running, the counter is the number of tasks that were started
with a job that counts. -/
namespace FeaturePipeline

namespace Pool

variable {p : Pool} {m : Moment} {h : String} {t : ThreadTask}

/-- Unless a task is made or dropped, what happens is what the task under the handle meets. -/
theorem moment_of_keeps (hm : m.givesUp = false) (ht : p.task? m.handle = some t) :
    p.moment m = ((t.meet m).1, p.put m.handle (t.meet m).2.1, (t.meet m).2.2) := by
  cases m with
  | advance k n =>
    have hk : p.task? k = some t := ht
    simp [moment, advance, hk, ThreadTask.meet, Moment.handle]
  | step s =>
    cases s with
    | make _ _ _ | drop _ => cases hm
    | start k | wait k =>
      have hk : p.task? k = some t := ht
      simp [moment, step, hk, ThreadTask.meet, Moment.handle]

theorem moment_of_absent (hm : m.givesUp = false) (ht : p.task? m.handle = none) :
    p.moment m = (.returned (), p, []) := by
  cases m with
  | advance k n =>
    have hk : p.task? k = none := ht
    simp [moment, advance, hk]
  | step s =>
    cases s with
    | make _ _ _ | drop _ => cases hm
    | start k | wait k =>
      have hk : p.task? k = none := ht
      simp [moment, step, hk]

theorem task?_moment_of_ne (p : Pool) (hm : m.handle ≠ h) :
    (p.moment m).2.1.task? h = p.task? h := by
  cases hg : m.givesUp with
  | false =>
    cases ht : p.task? m.handle with
    | none => rw [moment_of_absent hg ht]
    | some t =>
      rw [moment_of_keeps hg ht]
      exact task?_put_of_ne p _ hm.symm
  | true =>
    obtain ⟨k, name, job, rfl⟩ | ⟨k, rfl⟩ := Moment.givesUp_cases hg
    · exact task?_put_of_ne p _ hm.symm
    · exact task?_erase_of_ne p hm.symm

@[simp] theorem task?_erase_self (p : Pool) (h : String) : (p.erase h).task? h = none := by
  rw [task?, List.lookup_eq_none_iff]
  intro e he
  have hne : e.1 ≠ h := by simpa using (List.mem_filter.mp he).2
  simpa using hne.symm

theorem entry_of_task (ht : p.task? m.handle = some t) : p.entry m = t.entry m := by
  cases hg : m.givesUp with
  | false =>
    have hworker : p.worker? m.handle = t.worker := by rw [worker?, ht, Option.bind_some]
    rw [entry, moment_of_keeps hg ht, hworker, worker?, task?_put_self]
    rfl
  | true =>
    have hwait : newJob t.worker t.wait.1.worker = none := by
      cases hw : t.worker <;> simp [newJob, ThreadTask.wait, hw]
    obtain ⟨k, name, job, rfl⟩ | ⟨k, rfl⟩ := Moment.givesUp_cases hg
    · have hk : p.task? k = some t := ht
      simp [entry, ThreadTask.entry, worker?, moment, step, dropShown, hk, ThreadTask.meet,
        Moment.handle, ThreadTask.drop, hwait, ThreadTask.new]
    · have hk : p.task? k = some t := ht
      simp [entry, ThreadTask.entry, worker?, moment, step, dropShown, hk, ThreadTask.meet,
        Moment.handle, ThreadTask.drop, hwait]

theorem shown_entry_of_absent (ht : p.task? m.handle = none) : (p.entry m).shown = [] := by
  cases hg : m.givesUp with
  | false => rw [entry, moment_of_absent hg ht]
  | true =>
    obtain ⟨k, name, job, rfl⟩ | ⟨k, rfl⟩ := Moment.givesUp_cases hg
    all_goals
      have hk : p.task? k = none := ht
      simp [entry, moment, step, dropShown, hk]

theorem lived_lifetime (ms : List Moment) (ht : p.task? h = some t) :
    ∃ left, t.Lived (lifetime h (p.entries ms)) left ∧
      ∀ u, left = some u → (p.play ms).1.task? h = some u := by
  -- Moments about other handles change the pool but not this task, so both vary.
  induction ms generalizing p t with
  | nil => exact ⟨some t, .nil t, fun u hu => hu ▸ ht⟩
  | cons m rest ih =>
    by_cases hm : m.handle = h
    · subst hm
      have hentry : p.entry m = t.entry m := entry_of_task ht
      cases hg : m.givesUp with
      | true =>
        refine ⟨none, ?_, nofun⟩
        have hlast : lifetime m.handle (p.entries (m :: rest)) = [t.entry m] := by
          simp [entries, lifetime, hentry, ThreadTask.entry, hg]
        rw [hlast]
        exact .last t hg
      | false =>
        have ht' : (p.moment m).2.1.task? m.handle = some (t.meet m).2.1 := by
          rw [moment_of_keeps hg ht, task?_put_self]
        obtain ⟨left, hlived, hleft⟩ := ih ht'
        refine ⟨left, ?_, hleft⟩
        have hnext : lifetime m.handle (p.entries (m :: rest)) =
            t.entry m :: lifetime m.handle ((p.moment m).2.1.entries rest) := by
          simp [entries, lifetime, hentry, ThreadTask.entry, hg]
        rw [hnext]
        exact .cons hg hlived
    · have ht' : (p.moment m).2.1.task? h = some t := by rw [task?_moment_of_ne p hm, ht]
      have hskip : lifetime h (p.entries (m :: rest)) =
          lifetime h ((p.moment m).2.1.entries rest) := by
        simp [entries, lifetime, entry, hm]
      rw [hskip]
      exact ih ht'

/-- Every life in a run began with a task being made, and is a life of that task alone. -/
theorem lived_of_mem_lives {l : Life} (ms : List Moment) (hl : l ∈ lives (p.entries ms)) :
    (∃ h, .step (.make h l.name l.job) ∈ ms) ∧
      ∃ left, (ThreadTask.new l.name l.job).Lived l.deeds left ∧
        ∀ u, left = some u → ∃ h, (p.play ms).1.task? h = some u := by
  induction ms generalizing p with
  | nil => cases hl
  | cons m rest ih =>
    have hlater (hl : l ∈ lives ((p.moment m).2.1.entries rest)) :
        (∃ h, .step (.make h l.name l.job) ∈ m :: rest) ∧
          ∃ left, (ThreadTask.new l.name l.job).Lived l.deeds left ∧
            ∀ u, left = some u → ∃ h, (p.play (m :: rest)).1.task? h = some u := by
      obtain ⟨⟨h, hmade⟩, hlived⟩ := ih hl
      exact ⟨⟨h, List.mem_cons_of_mem m hmade⟩, hlived⟩
    cases m with
    | advance _ _ => exact hlater hl
    | step s =>
      cases s with
      | start _ | wait _ | drop _ => exact hlater hl
      | make h name job =>
        rcases List.mem_cons.mp hl with rfl | hl
        · obtain ⟨left, hlived, hleft⟩ := lived_lifetime (h := h) rest
            (task?_put_self p h (.new name job))
          exact ⟨⟨h, List.mem_cons_self⟩, left, hlived, fun u hu => ⟨h, hleft u hu⟩⟩
        · exact hlater hl

def handles (p : Pool) : List String := p.map (·.1)

theorem task?_eq_none_iff : p.task? h = none ↔ h ∉ p.handles := by
  rw [task?, List.lookup_eq_none_iff, handles, List.mem_map]
  simp only [bne_iff_ne, ne_eq, not_exists, not_and]
  exact forall₂_congr fun e he => not_congr eq_comm

@[simp] theorem handles_erase (p : Pool) (h : String) :
    (p.erase h).handles = p.handles.filter (· != h) := by
  simp [handles, erase, List.filter_map, Function.comp_def]

@[simp] theorem handles_put (p : Pool) (h : String) (t : ThreadTask) :
    (p.put h t).handles = h :: p.handles.filter (· != h) := by
  rw [← handles_erase]
  rfl

theorem erase_of_absent (ht : p.task? h = none) : p.erase h = p := by
  rw [erase, List.filter_eq_self]
  intro e he
  have hne : e.1 ≠ h := by
    rintro rfl
    exact task?_eq_none_iff.mp ht (List.mem_map_of_mem he)
  simpa using hne

theorem nodup_handles_moment (hp : p.handles.Nodup) (m : Moment) :
    (p.moment m).2.1.handles.Nodup := by
  have hput (h : String) (t : ThreadTask) : (p.put h t).handles.Nodup := by
    rw [handles_put, List.nodup_cons]
    exact ⟨by simp, hp.filter _⟩
  cases hg : m.givesUp with
  | false =>
    cases ht : p.task? m.handle with
    | none => rwa [moment_of_absent hg ht]
    | some t =>
      rw [moment_of_keeps hg ht]
      exact hput _ _
  | true =>
    obtain ⟨k, name, job, rfl⟩ | ⟨k, rfl⟩ := Moment.givesUp_cases hg
    · exact hput _ _
    · rw [moment, step, handles_erase]
      exact hp.filter _

theorem lifetime_cons_of_ne {e : Entry} (es : List Entry) (he : e.moment.handle ≠ h) :
    lifetime h (e :: es) = lifetime h es := by
  rw [lifetime, if_neg he]

theorem handles_perm (hp : p.handles.Nodup) (ht : p.task? h = some t) :
    p.handles.Perm (h :: p.handles.filter (· != h)) := by
  have hmem : h ∈ p.handles := by
    by_contra hmem
    rw [task?_eq_none_iff.mpr hmem] at ht
    cases ht
  rw [← hp.erase_eq_filter h]
  exact List.perm_cons_erase hmem

section Split

variable (p : Pool) (m : Moment) (es : List Entry)

/-- What the tasks that are there show in the rest of a run. -/
def shownHeld (es : List Entry) : Trace := p.handles.flatMap fun h => shown (lifetime h es)

/-- What the tasks that are not under the handle of the moment show in the rest of a run. -/
def shownAside (es : List Entry) : Trace :=
  (p.handles.filter (· != m.handle)).flatMap fun h => shown (lifetime h es)

theorem shownAside_cons : p.shownAside m (p.entry m :: es) = p.shownAside m es := by
  refine List.flatMap_congr fun k hk => ?_
  have hne : k ≠ m.handle := by simpa using (List.mem_filter.mp hk).2
  rw [lifetime_cons_of_ne es hne.symm]

theorem filter_handles_of_absent (ht : p.task? m.handle = none) :
    p.handles.filter (· != m.handle) = p.handles := by
  rw [← handles_erase, erase_of_absent ht]

theorem shownHeld_of_absent (ht : p.task? m.handle = none) :
    p.shownHeld (p.entry m :: es) = p.shownAside m es := by
  rw [← shownAside_cons, shownAside, filter_handles_of_absent p m ht, shownHeld]

variable {p}

theorem shownHeld_perm (hp : p.handles.Nodup) (ht : p.task? m.handle = some t) :
    (p.shownHeld (p.entry m :: es)).Perm
      (shown (lifetime m.handle (p.entry m :: es)) ++ p.shownAside m es) := by
  rw [← shownAside_cons]
  exact (handles_perm hp ht).flatMap_right _

def shownLater (es : List Entry) : Trace := (lives es).flatMap fun l => shown l.deeds

theorem shownHeld_step_of_keeps (hp : p.handles.Nodup) (hg : m.givesUp = false) :
    (p.shownHeld (p.entry m :: es)).Perm
      ((p.entry m).shown ++ (p.moment m).2.1.shownHeld es) := by
  cases ht : p.task? m.handle with
  | none =>
    rw [shownHeld_of_absent p m es ht, shown_entry_of_absent ht, moment_of_absent hg ht,
      shownAside, filter_handles_of_absent p m ht]
    exact .refl _
  | some t =>
    have hown : shown (lifetime m.handle (p.entry m :: es)) =
        (p.entry m).shown ++ shown (lifetime m.handle es) := by
      rw [lifetime, moment_entry, if_pos rfl, hg, if_neg Bool.false_ne_true, shown_cons]
    have hheld : (p.moment m).2.1.shownHeld es =
        shown (lifetime m.handle es) ++ p.shownAside m es := by
      rw [moment_of_keeps hg ht, shownHeld, handles_put, List.flatMap_cons]
      rfl
    rw [hheld, ← List.append_assoc, ← hown]
    exact shownHeld_perm m es hp ht

theorem shownHeld_step_of_givesUp (hp : p.handles.Nodup) (hg : m.givesUp = true) :
    (p.shownHeld (p.entry m :: es)).Perm ((p.entry m).shown ++ p.shownAside m es) := by
  cases ht : p.task? m.handle with
  | none =>
    rw [shownHeld_of_absent p m es ht, shown_entry_of_absent ht]
    exact .refl _
  | some t =>
    have hlast : shown (lifetime m.handle (p.entry m :: es)) = (p.entry m).shown := by
      rw [lifetime, moment_entry, if_pos rfl, hg, if_pos rfl, shown_cons, shown_nil,
        List.append_nil]
    rw [← hlast]
    exact shownHeld_perm m es hp ht

/-- What is left to show before a moment is what the moment shows and what is left after it. -/
theorem shownHeld_step (hp : p.handles.Nodup) :
    (p.shownHeld (p.entry m :: es) ++ shownLater (p.entry m :: es)).Perm
      ((p.entry m).shown ++ ((p.moment m).2.1.shownHeld es ++ shownLater es)) := by
  cases m with
  | advance h n =>
    rw [← List.append_assoc]
    exact (shownHeld_step_of_keeps _ es hp rfl).append_right _
  | step s =>
    cases s with
    | start h | wait h =>
      rw [← List.append_assoc]
      exact (shownHeld_step_of_keeps _ es hp rfl).append_right _
    | drop h =>
      have hheld : (p.erase h).shownHeld es = p.shownAside (.step (.drop h)) es := by
        rw [shownHeld, handles_erase]
        rfl
      rw [moment, step, hheld, ← List.append_assoc]
      exact (shownHeld_step_of_givesUp _ es hp rfl).append_right _
    | make h name job =>
      have hheld : (p.put h (.new name job)).shownHeld es =
          shown (lifetime h es) ++ p.shownAside (.step (.make h name job)) es := by
        rw [shownHeld, handles_put, List.flatMap_cons]
        rfl
      have hlater : shownLater (p.entry (.step (.make h name job)) :: es) =
          shown (lifetime h es) ++ shownLater es := rfl
      have hswap : (p.shownAside (.step (.make h name job)) es ++ shown (lifetime h es)).Perm
          (shown (lifetime h es) ++ p.shownAside (.step (.make h name job)) es) :=
        List.perm_append_comm
      rw [moment, step, hheld, hlater]
      refine ((shownHeld_step_of_givesUp _ es hp rfl).append_right _).trans ?_
      rw [List.append_assoc, ← List.append_assoc (p.shownAside _ es)]
      exact (hswap.append_right _).append_left _

end Split

/-- What a run shows is shown by the tasks that were there and by those that are made in it, each
in its own life. -/
theorem shown_perm (hp : p.handles.Nodup) (ms : List Moment) :
    (shown (p.entries ms)).Perm (p.shownHeld (p.entries ms) ++ shownLater (p.entries ms)) := by
  -- Split what is left to show at each moment; only making a task moves something from what is made
  -- later to what is held.
  induction ms generalizing p with
  | nil =>
    have hheld : p.shownHeld [] = [] := List.flatMap_eq_nil_iff.mpr fun _ _ => rfl
    rw [entries, hheld]
    exact .refl _
  | cons m rest ih =>
    have hrest := (ih (nodup_handles_moment hp m)).append_left (p.entry m).shown
    exact hrest.trans (shownHeld_step m _ hp).symm

def Nameable (p : Pool) : Prop := ∀ h t, p.task? h = some t → ThreadTask.nul ∉ t.name.toList

theorem nameable_nil : Nameable [] := by
  intro h t ht
  cases ht

theorem nameable_moment (hp : p.Nameable) (hm : m.Nameable) : (p.moment m).2.1.Nameable := by
  intro h t ht
  by_cases hh : m.handle = h
  · subst hh
    cases hg : m.givesUp with
    | false =>
      cases hu : p.task? m.handle with
      | none =>
        rw [moment_of_absent hg hu, hu] at ht
        cases ht
      | some u =>
        rw [moment_of_keeps hg hu, task?_put_self, Option.some.injEq] at ht
        rw [← ht, ThreadTask.name_meet]
        exact hp _ _ hu
    | true =>
      obtain ⟨k, name, job, rfl⟩ | ⟨k, rfl⟩ := Moment.givesUp_cases hg
      · rw [moment, step, Moment.handle, task?_put_self, Option.some.injEq] at ht
        rw [← ht]
        exact hm
      · rw [moment, step, Moment.handle, task?_erase_self] at ht
        cases ht
  · rw [task?_moment_of_ne p hh] at ht
    exact hp _ _ ht

theorem ended_entry (hp : p.Nameable) (m : Moment) : (p.entry m).ended = .returned () := by
  cases ht : p.task? m.handle with
  | some t =>
    rw [entry_of_task ht]
    exact ThreadTask.meet_fst m (hp _ _ ht)
  | none =>
    cases hg : m.givesUp with
    | false => rw [entry, moment_of_absent hg ht]
    | true => obtain ⟨k, name, job, rfl⟩ | ⟨k, rfl⟩ := Moment.givesUp_cases hg <;> rfl

theorem ended_entries (hp : p.Nameable) {ms : List Moment} (hn : ∀ m ∈ ms, m.Nameable) :
    ∀ e ∈ p.entries ms, e.ended = .returned () := by
  induction ms generalizing p with
  | nil => exact nofun
  | cons m rest ih =>
    obtain ⟨hm, hrest⟩ := List.forall_mem_cons.mp hn
    exact List.forall_mem_cons.mpr ⟨ended_entry hp m, ih (nameable_moment hp hm) hrest⟩

theorem state_ne_of_not_busy (hb : p.isBusy = false) (ht : p.task? h = some t) :
    t.state ≠ .running := by
  obtain ⟨before, after, rfl, -⟩ := List.lookup_eq_some_iff.mp ht
  simp only [isBusy, List.any_append, List.any_cons, Bool.or_eq_false_iff] at hb
  simpa using hb.2.1

theorem count_of_mem_lives {ms : List Moment} (hn : ∀ m ∈ ms, m.Nameable)
    (hb : (p.play ms).1.isBusy = false) {l : Life} (hl : l ∈ lives (p.entries ms)) :
    (shown l.deeds).count = if l.isStarted then l.job.counts else 0 := by
  obtain ⟨⟨h, hmade⟩, left, hlived, hleft⟩ := lived_of_mem_lives ms hl
  refine hlived.count_of_fresh (ThreadTask.fresh_new (hn _ hmade) l.job) fun u hu => ?_
  obtain ⟨k, hk⟩ := hleft u hu
  exact state_ne_of_not_busy hb hk

theorem count_shown_lives {ls : List Life}
    (hls : ∀ l ∈ ls, (shown l.deeds).count = if l.isStarted then l.job.counts else 0)
    (hone : ∀ l ∈ ls, l.job.counts ≤ 1) :
    Trace.count (ls.flatMap fun l => shown l.deeds) =
      ls.countP fun l => l.isStarted && l.job.counts == 1 := by
  induction ls with
  | nil => rfl
  | cons l ls ih =>
    obtain ⟨hl, hls⟩ := List.forall_mem_cons.mp hls
    obtain ⟨hle, hone⟩ := List.forall_mem_cons.mp hone
    rw [List.flatMap_cons, Trace.count_append, hl, ih hls hone, List.countP_cons, Nat.add_comm]
    congr 1
    cases l.isStarted with
    | false => rfl
    | true =>
      rcases Nat.le_one_iff_eq_zero_or_eq_one.mp hle with h0 | h1
      · simp [h0]
      · simp [h1]

/-- A run of a pool that starts empty, with names that threads can have, whatever the pace of the
workers. Nothing unwinds. Each task runs its job at most once: a start before the task is given up
hands the job to a worker, which shows it exactly once, and the first join after that reports a
panic. Nothing is shown outside these lives. While no task is running, the counter is the number
of tasks that were started with a job that counts. -/
theorem play_runsOnce (ms : List Moment) (hn : ∀ m ∈ ms, m.Nameable) :
    let run := entries [] ms
    run.map (fun e => (e.ended, e.shown)) = (play [] ms).2 ∧
    (∀ e ∈ run, e.ended = .returned ()) ∧
    (∀ l ∈ lives run, RunsOnce l.name l.job l.deeds) ∧
    (shown run).Perm ((lives run).flatMap fun l => shown l.deeds) ∧
    ((play [] ms).1.isBusy = false → (∀ l ∈ lives run, l.job.counts ≤ 1) →
      (shown run).count = (lives run).countP fun l => l.isStarted && l.job.counts == 1) := by
  intro run
  have hperm : (shown run).Perm ((lives run).flatMap fun l => shown l.deeds) :=
    shown_perm (p := []) .nil ms
  refine ⟨map_entries [] ms, ended_entries nameable_nil hn, fun l hl => ?_, hperm,
    fun hb hone => ?_⟩
  · obtain ⟨⟨h, hmade⟩, left, hlived, -⟩ := lived_of_mem_lives ms hl
    exact hlived.runsOnce_of_fresh (ThreadTask.fresh_new (hn _ hmade) l.job)
  · have hcount : (shown run).count = Trace.count ((lives run).flatMap fun l => shown l.deeds) :=
      hperm.countP_eq _
    rw [hcount]
    exact count_shown_lives (fun l hl => count_of_mem_lives hn hb hl) hone

/-- A task that counts and panics is replaced while it runs, and the next one is started twice and
waited for twice. -/
theorem play_runsOnce_replaced :
    let ms : List Moment :=
      [.step (.make "a" "boom" { effects := [.counted], panics := true }), .step (.wait "a"),
        .step (.start "a"), .advance "a" 1, .step (.make "a" "next" { effects := [.counted] }),
        .step (.start "a"), .step (.start "a"), .step (.wait "a"), .step (.wait "a")]
    (∀ m ∈ ms, m.Nameable) ∧ (play [] ms).1.isBusy = false ∧ (shown (entries [] ms)).count = 2 ∧
      (shown (entries [] ms)).records = [ThreadTask.panicRecord "boom"] := by
  intro ms
  have hn : ∀ m ∈ ms, m.Nameable := by decide +kernel
  have hb : (play [] ms).1.isBusy = false := by decide +kernel
  have hone : ∀ l ∈ lives (entries [] ms), l.job.counts ≤ 1 := by decide +kernel
  refine ⟨hn, hb, ((play_runsOnce ms hn).2.2.2.2 hb hone).trans ?_, ?_⟩
  · decide +kernel
  · decide +kernel

end Pool
end FeaturePipeline

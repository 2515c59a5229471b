import IncludeScan.Index.Memory
import IncludeScan.Workspace
import Mathlib.Data.List.Perm.Basic

/-!
Scans of many files in any order.

A scan of many files sets aside a fixed number of permits and spawns a task for each path. A task
waits for a permit, scans its file while it holds the permit, and leaves an outcome; once all tasks
are spawned the outcomes are collected, each when its task has ended. `Pool.step` makes one of these
moves, and which of the possible ones comes next is left open. Every move keeps account of the
permits and of the outcomes (`Accounts`) and uses up one unit of work, so under any schedule no
more scans run than there are permits, some move is possible until all is collected, and then the
report has one outcome for each place in the list (`scanFiles_under_any_schedule`).

There are only so many permits. A scan that asks for more makes no move at all and has no report.
-/

set_option autoImplicit false

namespace IncludeScan

/-! ## Outcomes in a report -/

namespace MultiReport

/-- What a report has collected, in no particular order. -/
def outcomes (m : MultiReport) : List (Except Failure Report) :=
  m.reports.map .ok ++ m.failures.map .error

theorem outcomes_collect (m : MultiReport) (o : Except Failure Report) :
    (Workspace.collect m o).outcomes.Perm (o :: m.outcomes) := by
  cases o with
  | ok report =>
    simp only [Workspace.collect, outcomes, List.map_append, List.append_assoc]
    exact List.perm_middle
  | error failure =>
    simp only [Workspace.collect, outcomes, List.map_append, ← List.append_assoc]
    exact List.perm_append_singleton _ _

def failure? : Except Failure Report → Option Failure
  | .ok _ => none
  | .error failure => some failure

theorem filterMap_toOption_outcomes (m : MultiReport) :
    m.outcomes.filterMap Except.toOption = m.reports := by
  simp [outcomes, List.filterMap_map, Function.comp_def, Except.toOption]

theorem filterMap_failure?_outcomes (m : MultiReport) :
    m.outcomes.filterMap failure? = m.failures := by
  simp [outcomes, List.filterMap_map, Function.comp_def, failure?]

end MultiReport

/-! ## The pool of tasks -/

/-- A scan of many files under way: the paths without a task yet, the tasks that wait for a permit
and those that hold one, by their paths, the outcomes of tasks that have ended, the report so far
and the permits that are free. -/
structure Pool where
  unspawned : List String
  waiting : List String
  running : List String
  finished : List (Except Failure Report)
  report : MultiReport
  free : Nat

namespace Pool

/-- The moves: the next task is spawned, or the task or outcome at some place goes on. -/
inductive Event where
  | spawn
  | acquire (i : Nat)
  | finish (i : Nat)
  | join (i : Nat)
  deriving DecidableEq, Repr

/-- The pool before the first move, if there can be so many permits. -/
def start (permits : Nat) (paths : List String) : Option Pool :=
  if Workspace.maxPermits < permits then none else some ⟨paths, [], [], [], .empty, permits⟩

def step (scan : String → Except Failure Report) (p : Pool) : Event → Option Pool
  | .spawn =>
    match p.unspawned with
    | [] => none
    | path :: rest => some { p with unspawned := rest, waiting := p.waiting ++ [path] }
  | .acquire i =>
    match p.free, p.waiting[i]? with
    | free + 1, some path =>
      some { p with
        waiting := p.waiting.eraseIdx i
        running := p.running ++ [path]
        free := free }
    | _, _ => none
  | .finish i =>
    match p.running[i]? with
    | none => none
    | some path =>
      some { p with
        running := p.running.eraseIdx i
        finished := p.finished ++ [scan path]
        free := p.free + 1 }
  | .join i =>
    match p.unspawned, p.finished[i]? with
    | [], some o =>
      some { p with
        finished := p.finished.eraseIdx i
        report := Workspace.collect p.report o }
    | _, _ => none

def run (scan : String → Except Failure Report) (p : Pool) (events : List Event) : Option Pool :=
  events.foldlM (step scan) p

structure Complete (p : Pool) : Prop where
  unspawned_eq : p.unspawned = []
  waiting_eq : p.waiting = []
  running_eq : p.running = []
  finished_eq : p.finished = []

variable {scan : String → Except Failure Report} {p p' : Pool}

inductive Moves (scan : String → Except Failure Report) (p : Pool) : Pool → Prop
  | spawn {path : String} {rest : List String} (h : p.unspawned = path :: rest) :
      Moves scan p { p with unspawned := rest, waiting := p.waiting ++ [path] }
  | acquire {i free : Nat} {path : String} (hfree : p.free = free + 1)
      (h : p.waiting.Perm (path :: p.waiting.eraseIdx i)) :
      Moves scan p { p with
        waiting := p.waiting.eraseIdx i
        running := p.running ++ [path]
        free := free }
  | finish {i : Nat} {path : String} (h : p.running.Perm (path :: p.running.eraseIdx i)) :
      Moves scan p { p with
        running := p.running.eraseIdx i
        finished := p.finished ++ [scan path]
        free := p.free + 1 }
  | join {i : Nat} {o : Except Failure Report} (hspawned : p.unspawned = [])
      (h : p.finished.Perm (o :: p.finished.eraseIdx i)) :
      Moves scan p { p with
        finished := p.finished.eraseIdx i
        report := Workspace.collect p.report o }

theorem perm_cons_eraseIdx {α : Type} {xs : List α} {i : Nat} {x : α} (h : xs[i]? = some x) :
    xs.Perm (x :: xs.eraseIdx i) := by
  obtain ⟨hi, rfl⟩ := List.getElem?_eq_some_iff.1 h
  exact (List.getElem_cons_eraseIdx_perm hi).symm

theorem moves_of_step {event : Event} (h : step scan p event = some p') : Moves scan p p' := by
  cases event with
  | spawn =>
    simp only [step] at h
    split at h
    · cases h
    · next hrest =>
      cases h
      exact .spawn hrest
  | acquire i =>
    simp only [step] at h
    split at h
    · next hfree hpath =>
      cases h
      exact .acquire hfree (perm_cons_eraseIdx hpath)
    · cases h
  | finish i =>
    simp only [step] at h
    split at h
    · cases h
    · next hpath =>
      cases h
      exact .finish (perm_cons_eraseIdx hpath)
  | join i =>
    simp only [step] at h
    split at h
    · next hspawned ho =>
      cases h
      exact .join hspawned (perm_cons_eraseIdx ho)
    · cases h

/-! ## What a move keeps -/

/-- The outcomes that have been or will be collected. -/
def held (scan : String → Except Failure Report) (p : Pool) : List (Except Failure Report) :=
  p.report.outcomes ++ p.finished ++ (p.running ++ p.waiting ++ p.unspawned).map scan

/-- The moves still to come: four for each path, less those made for it. -/
def work (p : Pool) : Nat :=
  4 * p.unspawned.length + 3 * p.waiting.length + 2 * p.running.length + p.finished.length

/-- A permit is free or held by a running task, and no outcome is lost or doubled. -/
structure Accounts (scan : String → Except Failure Report) (permits : Nat) (paths : List String)
    (p : Pool) : Prop where
  permits_eq : p.free + p.running.length = permits
  held_perm : (p.held scan).Perm (paths.map scan)

theorem start_of_le {permits : Nat} (h : permits ≤ Workspace.maxPermits) (paths : List String) :
    start permits paths = some ⟨paths, [], [], [], .empty, permits⟩ :=
  if_neg (by omega)

theorem start_eq_none_iff {permits : Nat} {paths : List String} :
    start permits paths = none ↔ Workspace.maxPermits < permits := by
  simp [start]

theorem accounts_start {permits : Nat} {paths : List String} (h : start permits paths = some p) :
    Accounts scan permits paths p ∧ p.work = 4 * paths.length := by
  unfold start at h
  split at h
  · cases h
  · cases h
    exact ⟨⟨rfl, .refl _⟩, rfl⟩

theorem Moves.held_perm (h : Moves scan p p') : (p'.held scan).Perm (p.held scan) := by
  classical
  rw [List.perm_iff_count]
  intro a
  cases h with
  | spawn hrest =>
    simp only [held, hrest, List.count_append, List.map_append, List.map_cons, List.map_nil,
      List.count_cons, List.count_nil]
    omega
  | acquire hfree hperm =>
    have hcount := (hperm.map scan).count_eq a
    simp only [held, List.count_append, List.map_append, List.map_cons, List.map_nil,
      List.count_cons, List.count_nil] at hcount ⊢
    omega
  | finish hperm =>
    have hcount := (hperm.map scan).count_eq a
    simp only [held, List.count_append, List.map_append, List.map_cons, List.count_cons,
      List.count_nil] at hcount ⊢
    omega
  | @join i o hspawned hperm =>
    have hcount := hperm.count_eq a
    have hcollect := (MultiReport.outcomes_collect p.report o).count_eq a
    simp only [held, List.count_append, List.count_cons] at hcount hcollect ⊢
    omega

theorem Moves.work_eq (h : Moves scan p p') : p'.work + 1 = p.work := by
  cases h with
  | spawn hrest =>
    simp only [work, hrest, List.length_append, List.length_cons, List.length_nil]
    omega
  | acquire hfree hperm =>
    have hlength := hperm.length_eq
    simp only [work, List.length_append, List.length_cons, List.length_nil] at hlength ⊢
    omega
  | finish hperm =>
    have hlength := hperm.length_eq
    simp only [work, List.length_append, List.length_cons, List.length_nil] at hlength ⊢
    omega
  | join hspawned hperm =>
    have hlength := hperm.length_eq
    simp only [work, List.length_cons] at hlength ⊢
    omega

theorem Moves.permits_eq (h : Moves scan p p') :
    p'.free + p'.running.length = p.free + p.running.length := by
  cases h with
  | spawn hrest => rfl
  | acquire hfree hperm =>
    simp only [hfree, List.length_append, List.length_cons, List.length_nil]
    omega
  | finish hperm =>
    have hlength := hperm.length_eq
    simp only [List.length_cons] at hlength ⊢
    omega
  | join hspawned hperm => rfl

theorem Accounts.of_moves {permits : Nat} {paths : List String}
    (ha : Accounts scan permits paths p) (h : Moves scan p p') : Accounts scan permits paths p' :=
  ⟨h.permits_eq.trans ha.permits_eq, h.held_perm.trans ha.held_perm⟩

theorem run_cons (event : Event) (events : List Event) :
    run scan p (event :: events) = (step scan p event).bind (fun q => run scan q events) :=
  List.foldlM_cons

theorem run_append (events more : List Event) :
    run scan p (events ++ more) = (run scan p events).bind (fun q => run scan q more) :=
  List.foldlM_append

theorem Accounts.of_run {permits : Nat} {paths : List String} {events : List Event}
    (ha : Accounts scan permits paths p) (h : run scan p events = some p') :
    Accounts scan permits paths p' ∧ events.length + p'.work = p.work := by
  induction events generalizing p with
  | nil =>
    cases h
    exact ⟨ha, Nat.zero_add _⟩
  | cons event events ih =>
    rw [run_cons] at h
    obtain ⟨q, hq, hrest⟩ := Option.bind_eq_some_iff.1 h
    have hmoves := moves_of_step hq
    obtain ⟨ha', hwork⟩ := ih (ha.of_moves hmoves) hrest
    refine ⟨ha', ?_⟩
    have hone := hmoves.work_eq
    rw [List.length_cons]
    omega

/-! ## Progress -/

theorem Accounts.exists_step {permits : Nat} {paths : List String}
    (ha : Accounts scan permits paths p) (hpermits : 0 < permits) (h : ¬ p.Complete) :
    ∃ event q, step scan p event = some q := by
  cases hunspawned : p.unspawned with
  | cons path rest => exact ⟨.spawn, _, by simp only [step, hunspawned]; rfl⟩
  | nil =>
    cases hrunning : p.running with
    | cons path rest => exact ⟨.finish 0, _, by simp only [step, hrunning]; rfl⟩
    | nil =>
      cases hfinished : p.finished with
      | cons o rest => exact ⟨.join 0, _, by simp only [step, hunspawned, hfinished]; rfl⟩
      | nil =>
        cases hwaiting : p.waiting with
        | nil => exact absurd ⟨hunspawned, hwaiting, hrunning, hfinished⟩ h
        | cons path rest =>
          -- no task runs, so all the permits are free
          have hfree : p.free = permits := by
            have heq := ha.permits_eq
            rwa [hrunning] at heq
          obtain ⟨free, hsucc⟩ : ∃ free, p.free = free + 1 := ⟨p.free - 1, by omega⟩
          exact ⟨.acquire 0, _, by simp only [step, hsucc, hwaiting]; rfl⟩

theorem Accounts.outcomes_perm {permits : Nat} {paths : List String}
    (ha : Accounts scan permits paths p) (h : p.Complete) :
    p.report.outcomes.Perm (paths.map scan) := by
  have hheld := ha.held_perm
  simp only [held, h.unspawned_eq, h.waiting_eq, h.running_eq, h.finished_eq, List.append_nil,
    List.map_nil] at hheld
  exact hheld

/-! ## One task after the other -/

/-- Spawns all tasks, then takes each in turn from its permit to its outcome. -/
def inTurn (paths : List String) : List Event :=
  paths.map (fun _ => .spawn) ++ paths.flatMap (fun _ => [.acquire 0, .finish 0, .join 0])

theorem run_spawn (paths waiting : List String) (free : Nat) (m : MultiReport) :
    run scan ⟨paths, waiting, [], [], m, free⟩ (paths.map (fun _ => .spawn)) =
      some ⟨[], waiting ++ paths, [], [], m, free⟩ := by
  induction paths generalizing waiting with
  | nil =>
    rw [List.append_nil]
    rfl
  | cons path paths ih =>
    rw [List.map_cons, run_cons]
    simpa [step] using ih (waiting ++ [path])

theorem run_each (paths : List String) (free : Nat) (m : MultiReport) :
    run scan ⟨[], paths, [], [], m, free + 1⟩
        (paths.flatMap (fun _ => [.acquire 0, .finish 0, .join 0])) =
      some ⟨[], [], [], [], (paths.map scan).foldl Workspace.collect m, free + 1⟩ := by
  induction paths generalizing m with
  | nil => rfl
  | cons path paths ih => exact ih (Workspace.collect m (scan path))

theorem run_inTurn (scan : String → Except Failure Report) {permits : Nat} (h : 0 < permits)
    (paths : List String) :
    run scan ⟨paths, [], [], [], .empty, permits⟩ (inTurn paths) =
      some ⟨[], [], [], [], (paths.map scan).foldl Workspace.collect .empty, permits⟩ := by
  obtain ⟨free, rfl⟩ : ∃ free, permits = free + 1 := ⟨permits - 1, by omega⟩
  rw [inTurn, run_append, run_spawn]
  exact run_each paths free .empty

end Pool

/-! ## The scan of many files -/

namespace Workspace

/-- The number of scans at once, where `machine` is what the machine allows. -/
def permits (w : Workspace) (machine : Nat) : Nat :=
  w.config.maxConcurrency.getD (max 1 machine)

theorem permits_create (index : SymbolIndex) (config : Config) (machine : Nat) :
    (create index config).permits machine = max 1 (config.maxConcurrency.getD machine) := by
  unfold permits create
  cases config.maxConcurrency with
  | none => rfl
  | some n => rfl

def poolAfter (w : Workspace) (fs : FileSystem) (level : Level) (machine : Nat)
    (paths : List String) (events : List Pool.Event) : Option Pool :=
  (Pool.start (w.permits machine) paths).bind fun p => p.run (w.outcome fs level) events

def scanFailure? (w : Workspace) (fs : FileSystem) (level : Level) (path : String) :
    Option Failure :=
  match w.scanFile fs level path with
  | .ok _ => none
  | .error e => some (failureFor path e)

variable {w : Workspace} {fs : FileSystem} {level : Level} {machine : Nat} {paths : List String}
  {events : List Pool.Event} {p : Pool}

theorem toOption_outcome (path : String) :
    (w.outcome fs level path).toOption = (w.scanFile fs level path).toOption := by
  unfold outcome
  cases w.scanFile fs level path with
  | ok report => rfl
  | error e => rfl

theorem failure?_outcome (path : String) :
    MultiReport.failure? (w.outcome fs level path) = w.scanFailure? fs level path := by
  unfold outcome scanFailure?
  cases w.scanFile fs level path with
  | ok report => rfl
  | error e => rfl

theorem accounts_poolAfter (h : w.poolAfter fs level machine paths events = some p) :
    p.Accounts (w.outcome fs level) (w.permits machine) paths ∧
      events.length + p.work = 4 * paths.length := by
  obtain ⟨q, hq, hrun⟩ := Option.bind_eq_some_iff.1 h
  obtain ⟨hstart, hall⟩ := Pool.accounts_start hq
  rw [← hall]
  exact hstart.of_run hrun

theorem poolAfter_append (more : List Pool.Event) :
    w.poolAfter fs level machine paths (events ++ more) =
      (w.poolAfter fs level machine paths events).bind
        fun p => p.run (w.outcome fs level) more := by
  simp only [poolAfter, Pool.run_append, Option.bind_assoc]

theorem poolAfter_of_tooMany (h : maxPermits < w.permits machine) :
    w.poolAfter fs level machine paths events = none := by
  rw [poolAfter, Pool.start_eq_none_iff.2 h]
  rfl

theorem scanFiles_of_le (h : w.permits machine ≤ maxPermits) :
    w.scanFiles fs level paths = .ok ((paths.map (w.outcome fs level)).foldl collect .empty) := by
  unfold permits at h
  refine if_neg ?_
  cases hmost : w.config.maxConcurrency with
  | none => simp
  | some n =>
    rw [hmost] at h
    simpa using h

theorem exists_complete (hpos : 0 < w.permits machine) (h : w.permits machine ≤ maxPermits) :
    ∃ events p, w.poolAfter fs level machine paths events = some p ∧ p.Complete ∧
      w.scanFiles fs level paths = .ok p.report := by
  have hstart : w.poolAfter fs level machine paths (Pool.inTurn paths) =
      Pool.run (w.outcome fs level) ⟨paths, [], [], [], .empty, w.permits machine⟩
        (Pool.inTurn paths) := by
    rw [poolAfter, Pool.start_of_le h]
    rfl
  exact ⟨_, _, hstart.trans (Pool.run_inTurn _ hpos paths), ⟨rfl, rfl, rfl, rfl⟩,
    scanFiles_of_le h⟩

theorem report_of_complete (h : w.poolAfter fs level machine paths events = some p)
    (hc : p.Complete) :
    p.report.reports.Perm
        (paths.filterMap (fun path => (w.scanFile fs level path).toOption)) ∧
      p.report.failures.Perm (paths.filterMap (w.scanFailure? fs level)) := by
  have houtcomes := (accounts_poolAfter h).1.outcomes_perm hc
  have hreports := houtcomes.filterMap Except.toOption
  have hfailures := houtcomes.filterMap MultiReport.failure?
  rw [MultiReport.filterMap_toOption_outcomes, List.filterMap_map] at hreports
  rw [MultiReport.filterMap_failure?_outcomes, List.filterMap_map] at hfailures
  simp only [Function.comp_def, toOption_outcome] at hreports
  simp only [Function.comp_def, failure?_outcome] at hfailures
  exact ⟨hreports, hfailures⟩

theorem length_of_complete (h : w.poolAfter fs level machine paths events = some p)
    (hc : p.Complete) : p.report.reports.length + p.report.failures.length = paths.length := by
  have hlength := ((accounts_poolAfter h).1.outcomes_perm hc).length_eq
  simpa [MultiReport.outcomes] using hlength

theorem report_of_failing {before after : List String} {path : String} {e : IndexError}
    (he : w.scanFile fs level path = .error e)
    (h : w.poolAfter fs level machine (before ++ path :: after) events = some p)
    (hc : p.Complete) {others : List Pool.Event} {q : Pool}
    (hq : w.poolAfter fs level machine (before ++ after) others = some q) (hqc : q.Complete) :
    p.report.reports.Perm q.report.reports ∧
      p.report.failures.Perm (failureFor path e :: q.report.failures) := by
  obtain ⟨hreports, hfailures⟩ := report_of_complete h hc
  obtain ⟨hreports', hfailures'⟩ := report_of_complete hq hqc
  have hnone : (w.scanFile fs level path).toOption = none := by
    rw [he]
    rfl
  have hsome : w.scanFailure? fs level path = some (failureFor path e) := by
    unfold scanFailure?
    rw [he]
  simp only [List.filterMap_append, List.filterMap_cons, hnone] at hreports hreports'
  simp only [List.filterMap_append, List.filterMap_cons, hsome] at hfailures hfailures'
  exact ⟨hreports.trans hreports'.symm,
    hfailures.trans (List.perm_middle.trans (hfailures'.symm.cons _))⟩

/-- Whatever the order of the moves, no more scans run at once than are allowed, and at least one
is; the moves are four for each path, and one is possible until all is collected. Then each place
in the list has its report or its failure, as the scan of that file alone gives it, and a file that
fails changes nothing for the others. Exactly if there can be so many permits, one such order comes
to an end and gives `scanFiles`; a scan configured to use more has no moves and no report. -/
theorem scanFiles_under_any_schedule (index : SymbolIndex) (config : Config) (machine : Nat)
    (fs : FileSystem) (level : Level) (paths : List String) :
    (∀ events p, (create index config).poolAfter fs level machine paths events = some p →
      p.running.length ≤ max 1 (config.maxConcurrency.getD machine) ∧
      events.length ≤ 4 * paths.length ∧
      (¬ p.Complete → ∃ event q,
        (create index config).poolAfter fs level machine paths (events ++ [event]) = some q) ∧
      (p.Complete →
        p.report.reports.Perm (paths.filterMap
          (fun path => ((create index config).scanFile fs level path).toOption)) ∧
        p.report.failures.Perm
          (paths.filterMap ((create index config).scanFailure? fs level)) ∧
        p.report.reports.length + p.report.failures.length = paths.length ∧
        ∀ before path after e, paths = before ++ path :: after →
          (create index config).scanFile fs level path = .error e →
          ∀ others q,
            (create index config).poolAfter fs level machine (before ++ after) others = some q →
            q.Complete → p.report.reports.Perm q.report.reports ∧
              p.report.failures.Perm (failureFor path e :: q.report.failures))) ∧
    ((∃ events p, (create index config).poolAfter fs level machine paths events = some p ∧
        p.Complete ∧ (create index config).scanFiles fs level paths = .ok p.report) ↔
      max 1 (config.maxConcurrency.getD machine) ≤ maxPermits) ∧
    ∀ n, config.maxConcurrency = some n → maxPermits < n →
      (∀ events, (create index config).poolAfter fs level machine paths events = none) ∧
        (create index config).scanFiles fs level paths = .error .tooManyPermits := by
  have hpermits := permits_create index config machine
  refine ⟨fun events p h => ?_, ⟨?_, fun hle => ?_⟩, fun n hn hmany => ⟨fun events => ?_, ?_⟩⟩
  · obtain ⟨ha, hwork⟩ := accounts_poolAfter h
    refine ⟨?_, by omega, fun hnot => ?_, fun hc => ?_⟩
    · have hcount := ha.permits_eq
      omega
    · obtain ⟨event, q, hq⟩ := ha.exists_step (by omega) hnot
      refine ⟨event, q, ?_⟩
      rw [poolAfter_append, h]
      simp [Pool.run, hq]
    · obtain ⟨hreports, hfailures⟩ := report_of_complete h hc
      refine ⟨hreports, hfailures, length_of_complete h hc, ?_⟩
      rintro before path after e rfl he others q hq hqc
      exact report_of_failing he h hc hq hqc
  · rintro ⟨events, p, hp, -, -⟩
    rw [← hpermits]
    by_contra hmany
    rw [poolAfter_of_tooMany (by omega)] at hp
    cases hp
  · exact exists_complete (by omega) (by omega)
  · refine poolAfter_of_tooMany ?_
    rw [hpermits, hn, Option.getD_some]
    omega
  · refine if_pos ?_
    simp only [create, hn, Option.map_some, Option.any_some, decide_eq_true_eq]
    omega

/-- The second of three tasks goes first, and the outcome of the third is collected before it. -/
def overtaking : List Pool.Event :=
  [.spawn, .spawn, .acquire 1, .spawn, .finish 0, .acquire 1, .finish 0, .join 1, .acquire 0,
    .join 0, .finish 0, .join 0]

theorem run_overtaking (scan : String → Except Failure Report) (a b c : String) :
    Pool.run scan ⟨[a, b, c], [], [], [], .empty, 1⟩ overtaking =
      some ⟨[], [], [], [], [scan c, scan b, scan a].foldl collect .empty, 1⟩ :=
  rfl

def unreliable : SymbolIndex :=
  { (MemoryIndex.ofSnapshot ⟨[], []⟩).queries with
    unitsContaining := fun file =>
      if file = "/Bad.m" then .error (.query "no answer") else .ok [] }

theorem scanFile_unreliable (config : Config) (fs : FileSystem) (level : Level) (path : String) :
    (create unreliable config).scanFile fs level path =
      if path = "/Bad.m" then .error (.query "no answer") else .ok (.notIndexed path) := by
  unfold scanFile Scan.unusedIncludes Scan.latestUnit create unreliable
  by_cases h : path = "/Bad.m"
  · simp only [h, if_true]
    rfl
  · simp only [h, if_false]
    rfl

theorem scanFiles_overtaking :
    ∃ p, (create unreliable ⟨.allRemovable, [], some 0⟩).poolAfter default .allRemovable 8
        ["/A.m", "/Bad.m", "/A.m"] overtaking = some p ∧ p.Complete ∧
      p.report.reports.Perm [.notIndexed "/A.m", .notIndexed "/A.m"] ∧
      p.report.failures.Perm [⟨"/Bad.m", .index (.query "no answer")⟩] ∧
      ∀ events, (create unreliable ⟨.allRemovable, [], some (maxPermits + 1)⟩).poolAfter default
        .allRemovable 8 ["/A.m"] events = none := by
  have hrun : (create unreliable ⟨.allRemovable, [], some 0⟩).poolAfter default .allRemovable 8
      ["/A.m", "/Bad.m", "/A.m"] overtaking = some _ :=
    run_overtaking ((create unreliable ⟨.allRemovable, [], some 0⟩).outcome default .allRemovable)
      "/A.m" "/Bad.m" "/A.m"
  obtain ⟨-, -, -, hcomplete⟩ := (scanFiles_under_any_schedule unreliable
    ⟨.allRemovable, [], some 0⟩ 8 default .allRemovable ["/A.m", "/Bad.m", "/A.m"]).1 overtaking
    _ hrun
  obtain ⟨hreports, hfailures, -⟩ := hcomplete ⟨rfl, rfl, rfl, rfl⟩
  refine ⟨_, hrun, ⟨rfl, rfl, rfl, rfl⟩, ?_, ?_, ?_⟩
  · simpa [scanFile_unreliable, Except.toOption] using hreports
  · simpa [scanFailure?, scanFile_unreliable, failureFor] using hfailures
  · exact ((scanFiles_under_any_schedule unreliable ⟨.allRemovable, [], some (maxPermits + 1)⟩ 8
      default .allRemovable ["/A.m"]).2.2 _ rfl (Nat.lt_succ_self _)).1

theorem no_report_of_largest_concurrency :
    (create unreliable ⟨.allRemovable, [], some 0xFFFFFFFFFFFFFFFF⟩).scanFile default
        .allRemovable "/A.m" = .ok (.notIndexed "/A.m") ∧
      (create unreliable ⟨.allRemovable, [], some 0xFFFFFFFFFFFFFFFF⟩).scanFiles default
        .allRemovable ["/A.m"] = .error .tooManyPermits :=
  ⟨scanFile_unreliable _ _ _ _, rfl⟩

end Workspace
end IncludeScan

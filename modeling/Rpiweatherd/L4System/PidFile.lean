import Rpiweatherd.Core

/-!
# The PID file (`src/util.c:25-45`, `src/rpiweatherd.c:71-87,296-351`)

An instance of the daemon looks for the PID file, initialises its device,
creates the file and enters its query loop; on SIGTERM it removes the file.
The look and the creation are separate steps. The creation is exclusive, but
`write_pid_file` answers a failure with 0 and `main` does not look at it: the
instance goes on, and at its end `pid_fd != -1` holds and it removes a file
that is not its own.

Instances are of any type `ι`, so any number of them, started at any time.
The creator of the file and the removals are ghosts. `single_daemon` is the
property for the runs in which no instance meets the file when it creates it;
`two_daemons` is a run of two instances that break it.
-/
namespace Rpiweatherd

/-- Where an instance is in `main`. -/
inductive PidPhase where
  | start
  | checked
  | written
  | looping
  | gone
  deriving DecidableEq, Repr

/-- `file` is the PID file, with the instance that created it if that is one
of this run. -/
structure PidState (ι : Type) where
  file : Option (Option ι)
  phase : ι → PidPhase
  pidFd : ι → Int
  /-- ghost: who removed the file, and who had created it -/
  removals : List (ι × Option ι)

/-- The result of `open` is part of the label: it is looked at only where the
file does not exist. -/
inductive PidLabel (ι : Type) where
  | pidFileExists (i : ι)
  | deviceFails (i : ι)
  | writePidFile (i : ι) (opened : Option Nat)
  | initDbhandlerFails (i : ι)
  | queryLoop (i : ι)
  | quitRoutine (i : ι)

namespace PidState
variable {ι : Type}

/-- `static int pid_fd = -1` -/
def init (s : PidState ι) : Prop :=
  (∀ i, s.phase i = .start) ∧ (∀ i, s.pidFd i = -1) ∧ (∀ i, s.file ≠ some (some i)) ∧
    s.removals = []

/-! ## The property -/

/-- At most one instance is in its loop, and nobody has removed a file that was
not its own. -/
structure SingleDaemon (s : PidState ι) : Prop where
  single : ∀ i j, s.phase i = .looping → s.phase j = .looping → i = j
  own : ∀ p ∈ s.removals, p.2 = some p.1

/-- Behind the creation and up to its end. -/
def Running (s : PidState ι) (i : ι) : Prop := s.phase i = .written ∨ s.phase i = .looping

/-- The file names the instance that runs. -/
structure Owned (s : PidState ι) : Prop where
  file : ∀ i, s.Running i → s.file = some (some i)
  own : ∀ p ∈ s.removals, p.2 = some p.1

theorem Owned.single {s : PidState ι} (h : s.Owned) : SingleDaemon s where
  single := by
    intro i j hi hj
    have heq := (h.file i (.inr hi)).symm.trans (h.file j (.inr hj))
    exact Option.some.inj (Option.some.inj heq)
  own := h.own

theorem owned_init {s : PidState ι} (h : s.init) : s.Owned where
  file := by
    intro i hi
    rw [Running, h.1 i] at hi
    rcases hi with hi | hi <;> cases hi
  own := by
    rw [h.2.2.2]
    exact fun p hp => absurd hp List.not_mem_nil

/-! ## The steps -/

variable [DecidableEq ι]

def goto (s : PidState ι) (i : ι) (p : PidPhase) : PidState ι :=
  { s with phase := Function.update s.phase i p }

@[simp] theorem goto_phase_self (s : PidState ι) (i : ι) (p : PidPhase) :
    (s.goto i p).phase i = p := by
  simp [goto]

theorem goto_phase_ne (s : PidState ι) {i j : ι} (h : j ≠ i) (p : PidPhase) :
    (s.goto i p).phase j = s.phase j := by
  simp [goto, h]

/-- mirrors src/util.c:40-45 -/
def pidFileExists (s : PidState ι) : Bool := s.file.isSome

/-- The descriptor, or 0 for any failure. mirrors src/util.c:25-38 -/
def writePidFile (s : PidState ι) (i : ι) (opened : Option Nat) : PidState ι × Int :=
  match s.file, opened with
  | none, some fd => ({ s with file := some (some i) }, fd)
  | _, _ => (s, 0)

/-- mirrors src/rpiweatherd.c:83-86 -/
def quitRoutine (s : PidState ι) (i : ι) : PidState ι :=
  if s.pidFd i ≠ -1 then
    match s.file with
    | some creator => { s with file := none, removals := s.removals ++ [(i, creator)] }
    | none => s
  else s

/-- mirrors src/rpiweatherd.c:296-351 -/
def step (s : PidState ι) : PidLabel ι → Option (PidState ι)
  | .pidFileExists i =>
    if s.phase i = .start then some (s.goto i (if s.pidFileExists then .gone else .checked))
    else none
  | .deviceFails i => if s.phase i = .checked then some (s.goto i .gone) else none
  | .writePidFile i opened =>
    if s.phase i = .checked then
      let (t, fd) := s.writePidFile i opened
      some ({ t with pidFd := Function.update t.pidFd i fd }.goto i .written)
    else none
  -- `main` returns and leaves the file
  | .initDbhandlerFails i => if s.phase i = .written then some (s.goto i .gone) else none
  | .queryLoop i => if s.phase i = .written then some (s.goto i .looping) else none
  | .quitRoutine i =>
    if s.phase i = .looping then some ((s.quitRoutine i).goto i .gone) else none

def system (ι : Type) [DecidableEq ι] : LTS (PidState ι) (PidLabel ι) := .ofFn init step

/-! ## One daemon -/

/-- An instance that creates the file does not find it, and `open` succeeds. -/
def Creates (s : PidState ι) : PidLabel ι → Prop
  | .writePidFile _ opened => s.file = none ∧ opened.isSome = true
  | _ => True

/-- Moving to a phase that is no running, or that a running instance is in
already. -/
theorem Owned.goto {s : PidState ι} (h : s.Owned) {i : ι} {p : PidPhase}
    (hp : p = .written ∨ p = .looping → s.file = some (some i)) : (s.goto i p).Owned where
  file := by
    intro j hj
    by_cases hij : j = i
    · subst hij
      rw [Running, goto_phase_self] at hj
      exact hp hj
    · rw [Running, goto_phase_ne s hij] at hj
      exact h.file j hj
  own := h.own

theorem Owned.gone {s : PidState ι} (h : s.Owned) (i : ι) : (s.goto i .gone).Owned :=
  h.goto fun hp => by rcases hp with hp | hp <;> cases hp

/-- The file is created by the only instance that runs then. -/
theorem Owned.writePidFile {s : PidState ι} (h : s.Owned) {i : ι} {fd : Nat}
    (hfile : s.file = none) :
    ({ s with file := some (some i), pidFd := Function.update s.pidFd i fd }.goto i
      .written).Owned := by
  have hnone : ∀ j, ¬ s.Running j := by
    intro j hj
    have hj := h.file j hj
    rw [hfile] at hj
    cases hj
  have howned : Owned { s with file := some (some i), pidFd := Function.update s.pidFd i fd } :=
    ⟨fun j hj => absurd hj (hnone j), h.own⟩
  exact howned.goto fun _ => rfl

/-- The file is removed by its creator. -/
theorem Owned.quitRoutine {s : PidState ι} (h : s.Owned) {i : ι} (hi : s.phase i = .looping) :
    ((s.quitRoutine i).goto i .gone).Owned := by
  have hfile := h.file i (.inr hi)
  have hothers : ∀ j, j ≠ i → ¬ s.Running j := by
    intro j hne hj
    have heq := (h.file j hj).symm.trans hfile
    exact hne (Option.some.inj (Option.some.inj heq))
  unfold PidState.quitRoutine
  split
  · simp only [hfile]
    refine ⟨fun j hj => ?_, fun p hp => ?_⟩
    · by_cases hij : j = i
      · subst hij
        rw [Running, goto_phase_self] at hj
        rcases hj with hj | hj <;> cases hj
      · rw [Running, goto_phase_ne _ hij] at hj
        exact absurd hj (hothers j hij)
    · rcases List.mem_append.mp hp with hp | hp
      · exact h.own p hp
      · rw [List.mem_singleton.mp hp]
  · exact h.gone i

theorem owned_step {s t : PidState ι} {l : PidLabel ι} (h : s.Owned) (hcreates : s.Creates l)
    (hstep : s.step l = some t) : t.Owned := by
  cases l with
  | pidFileExists i =>
    simp only [step, Option.ite_none_right_eq_some, Option.some.injEq] at hstep
    obtain ⟨-, rfl⟩ := hstep
    split
    · exact h.gone i
    · exact h.goto fun hp => by rcases hp with hp | hp <;> cases hp
  | deviceFails i =>
    simp only [step, Option.ite_none_right_eq_some, Option.some.injEq] at hstep
    obtain ⟨-, rfl⟩ := hstep
    exact h.gone i
  | writePidFile i opened =>
    obtain ⟨hfile, hopened⟩ := hcreates
    obtain ⟨fd, rfl⟩ := Option.isSome_iff_exists.mp hopened
    simp only [step, PidState.writePidFile, hfile, Option.ite_none_right_eq_some,
      Option.some.injEq] at hstep
    obtain ⟨-, rfl⟩ := hstep
    exact h.writePidFile hfile
  | initDbhandlerFails i =>
    simp only [step, Option.ite_none_right_eq_some, Option.some.injEq] at hstep
    obtain ⟨-, rfl⟩ := hstep
    exact h.gone i
  | queryLoop i =>
    simp only [step, Option.ite_none_right_eq_some, Option.some.injEq] at hstep
    obtain ⟨hi, rfl⟩ := hstep
    exact h.goto fun _ => h.file i (.inl hi)
  | quitRoutine i =>
    simp only [step, Option.ite_none_right_eq_some, Option.some.injEq] at hstep
    obtain ⟨hi, rfl⟩ := hstep
    exact h.quitRoutine hi

theorem owned_inductive : ((system ι).guard Creates).Inductive Owned where
  init := fun _ h => owned_init h
  step := fun _ _ _ h hstep => owned_step h hstep.2 hstep.1

/-- **At most one daemon runs**, and none removes the file of another, in
every state of every run in which an instance that creates the file does not
find it. -/
theorem single_daemon (s : PidState ι) (h : ((system ι).guard Creates).Reachable s) :
    s.SingleDaemon :=
  (owned_inductive.reachable h).single

/-- A machine without a PID file, and two instances. -/
def twoInstances : PidState (Fin 2) := ⟨none, fun _ => .start, fun _ => -1, []⟩

theorem twoInstances_init : twoInstances.init := ⟨fun _ => rfl, fun _ => rfl, nofun, rfl⟩

/-- One instance starts and ends, then the other starts. -/
theorem single_daemon_in_turn :
    ∃ s : PidState (Fin 2), s.phase 1 = .looping ∧ s.removals = [(0, some 0)] ∧
      s.SingleDaemon := by
  have hrun : ((system (Fin 2)).guard Creates).Reachable _ :=
    ⟨twoInstances, [.pidFileExists 0, .writePidFile 0 (some 3), .queryLoop 0, .quitRoutine 0,
      .pidFileExists 1, .writePidFile 1 (some 3), .queryLoop 1], twoInstances_init,
      .cons ⟨rfl, trivial⟩ (.cons ⟨rfl, rfl, rfl⟩ (.cons ⟨rfl, trivial⟩ (.cons ⟨rfl, trivial⟩
        (.cons ⟨rfl, trivial⟩ (.cons ⟨rfl, rfl, rfl⟩ (.cons ⟨rfl, trivial⟩ (.nil _)))))))⟩
  exact ⟨_, rfl, rfl, single_daemon _ hrun⟩

/-- Both look before either creates: both run, and the second, which created
nothing, removes the file of the first. -/
theorem two_daemons :
    (∃ s, (system (Fin 2)).Reachable s ∧ s.phase 0 = .looping ∧ s.phase 1 = .looping) ∧
      ∃ s, (system (Fin 2)).Reachable s ∧ (1, some 0) ∈ s.removals ∧ s.phase 0 = .looping := by
  have hboth : (system (Fin 2)).Reachable _ :=
    LTS.runFn_reachable twoInstances_init
      (rfl : LTS.runFn step twoInstances [.pidFileExists 0, .pidFileExists 1,
        .writePidFile 0 (some 3), .writePidFile 1 (some 3), .queryLoop 0, .queryLoop 1] = some _)
  have hquit : (system (Fin 2)).Reachable _ :=
    LTS.runFn_reachable twoInstances_init
      (rfl : LTS.runFn step twoInstances [.pidFileExists 0, .pidFileExists 1,
        .writePidFile 0 (some 3), .writePidFile 1 (some 3), .queryLoop 0, .queryLoop 1,
        .quitRoutine 1] = some _)
  exact ⟨⟨_, hboth, rfl, rfl⟩, _, hquit, List.mem_singleton.mpr rfl, rfl⟩

end PidState
end Rpiweatherd

import Rpiweatherd.Core
import Rpiweatherd.L3Trigger.History

/-!
# The trigger table and the trigger file over whole runs

`main` loads the triggers once; from then on `trigger_exec_callback` loads
them again when the file's ctime, in seconds, is later than the ctime it saw
at its last load (`src/trigger.c:453-464`), and SIGHUP unloads them
(`src/rpiweatherd.c:175-187`) without touching that time. The static
`__rpiwd_trigger_last_update` starts at 0 and is not set by the load in
`main`.

Steps are edits of the file, ticks of the clock, measurement passes (up to
the point where evaluation starts), SIGHUPs, and other calls of the thread,
which show only in `errno`.
-/
namespace Rpiweatherd

structure Watch where
  triggers : Triggers
  file : Bytes
  ctime : Int
  clock : Int
  lastUpdate : Int
  /-- ghost: a pass has loaded the file, and neither an edit nor a SIGHUP came after it -/
  current : Bool

inductive WatchLabel where
  | edit (contents : Bytes)
  | tick (now : Int)
  | pass
  | sighup
  | other (errno : Errno)

/-- The state in which `query_loop` is entered: the load of `main` succeeded.
mirrors src/rpiweatherd.c:290-294 -/
def Watch.Started (s : Watch) : Prop :=
  ∃ (errno : Errno) (r : Loaded),
    loadTriggers { Triggers.zero with errno := errno } (some s.file) = .ok r ∧
      r.flag = TRIGGER_PARSE_OK ∧ s.triggers = r.triggers ∧ s.ctime ≤ s.clock ∧
      s.lastUpdate = 0 ∧ s.current = false

/-- The part of `trigger_exec_callback` before the evaluation, after a
successful `stat`. mirrors src/trigger.c:453-464 -/
def Watch.pass (s : Watch) : Except Fault Watch :=
  if s.lastUpdate < s.ctime then
    (loadTriggers s.triggers (some s.file)).map fun r =>
      { s with triggers := r.triggers, lastUpdate := s.ctime, current := true }
  else .ok s

/-- What SIGHUP does to the triggers. mirrors src/rpiweatherd.c:175-187 -/
def Watch.sighup (s : Watch) : Except Fault Watch :=
  (unloadTriggers s.triggers).map fun t => { s with triggers := t, current := false }

def Watch.step (s : Watch) : WatchLabel → Option Watch
  | .edit contents => some { s with file := contents, ctime := s.clock, current := false }
  | .tick now => if s.clock ≤ now then some { s with clock := now } else none
  | .pass => s.pass.toOption
  | .sighup => s.sighup.toOption
  | .other errno => some { s with triggers := { s.triggers with errno := errno } }

def watcher : LTS Watch WatchLabel := LTS.ofFn Watch.Started Watch.step

/-- The table is the one `load_triggers` builds from the file. -/
def InSync (s : Watch) : Prop :=
  (loadTriggers .zero (some s.file)).map (·.triggers.live) = .ok s.triggers.live

/-- A pass that loads finds a table that is clean for the file; one that does
not finds nothing edited and nothing unloaded since the last load. -/
def Watched (s : Watch) : WatchLabel → Prop
  | .pass =>
    if s.lastUpdate < s.ctime then CleanTable s.triggers (some s.file) else s.current = true
  | _ => True

theorem toOption_some {α : Type} {x : Except Fault α} {a : α} (h : x.toOption = some a) :
    x = .ok a := by
  cases x with
  | error e => cases h
  | ok b => exact congrArg Except.ok (Option.some.inj h)

theorem InSync.of_load {s : Watch} (htgt : TargetsLive s.triggers)
    (hclean : CleanTable s.triggers (some s.file)) {r : Loaded}
    (h : loadTriggers s.triggers (some s.file) = .ok r) :
    (loadTriggers .zero (some s.file)).map (·.triggers.live) = .ok r.triggers.live := by
  obtain ⟨live, hlive, hzero⟩ := (loadsAlike_iff htgt (some s.file)).mpr hclean
  rw [h] at hlive
  exact hzero.trans hlive.symm

/-- What a pass in a watched run establishes. -/
theorem InSync.of_pass {s s' : Watch} (htgt : TargetsLive s.triggers)
    (hcur : s.current = true → InSync s) (hwatched : Watched s .pass) (h : s.pass = .ok s') :
    InSync s' := by
  unfold Watch.pass at h
  simp only [Watched] at hwatched
  split at h
  · rename_i hlate
    rw [if_pos hlate] at hwatched
    obtain ⟨r, hr, rfl⟩ := map_ok h
    exact InSync.of_load htgt hwatched hr
  · rename_i hlate
    rw [if_neg hlate] at hwatched
    cases h
    exact hcur hwatched

/-- In a watched run a table that counts as current is in sync. -/
theorem watched_inductive : (watcher.guard Watched).Inductive fun s =>
    TargetsLive s.triggers ∧ (s.current = true → InSync s) := by
  refine ⟨fun s hs => ?_, fun s lab s' ⟨htgt, hcur⟩ ⟨hs, hwatched⟩ => ?_⟩
  · obtain ⟨errno, r, hr, -, htrig, -, -, hcur⟩ := hs
    rw [htrig]
    exact ⟨targetsLive_load hr, fun h => absurd (hcur.symm.trans h) (by decide)⟩
  · cases lab with
    | edit contents =>
      cases hs
      exact ⟨htgt, fun h => nomatch h⟩
    | tick now =>
      have hs : (if s.clock ≤ now then some { s with clock := now } else none) = some s' := hs
      split at hs
      · cases hs
        exact ⟨htgt, hcur⟩
      · cases hs
    | pass =>
      have hpass : s.pass = .ok s' := toOption_some hs
      refine ⟨?_, fun _ => InSync.of_pass htgt hcur hwatched hpass⟩
      unfold Watch.pass at hpass
      split at hpass
      · obtain ⟨r, hr, rfl⟩ := map_ok hpass
        exact targetsLive_load hr
      · cases hpass
        exact htgt
    | sighup =>
      have hhup : s.sighup = .ok s' := toOption_some hs
      obtain ⟨t, ht, rfl⟩ := map_ok hhup
      exact ⟨targetsLive_call (c := .unload) htgt ht, fun h => nomatch h⟩
    | other errno =>
      cases hs
      exact ⟨htgt, hcur⟩

/-- **The triggers follow the file.** In every run of edits, passes and
SIGHUPs in any order whose passes are watched, the table a pass starts to
evaluate is the one `load_triggers` builds from the file as it is. -/
theorem triggers_follow_file (s s' : Watch) (h : (watcher.guard Watched).Reachable s)
    (hpass : (watcher.guard Watched).step s .pass s') : InSync s' := by
  obtain ⟨htgt, hcur⟩ := watched_inductive.reachable h
  exact InSync.of_pass htgt hcur hpass.2 (toOption_some hpass.1)

/-- Started on `file` at second 5. -/
def Watch.startAt5 (file : Bytes) (r : Loaded) : Watch := ⟨r.triggers, file, 5, 5, 0, false⟩

theorem Watch.startAt5_started {file : Bytes} {r : Loaded}
    (h : loadTriggers .zero (some file) = .ok r) (hflag : r.flag = TRIGGER_PARSE_OK) :
    (Watch.startAt5 file r).Started :=
  ⟨0, r, h, hflag, rfl, Int.le_refl 5, rfl, rfl⟩

def oneTrigger : Bytes := ascii "%temp% > 5 exec /bin/a x\n"
def twoTriggers : Bytes := ascii "%temp% > 5 exec /bin/a x\n%humid% < 9 exec /bin/b y\n"

/-- An edit one second later is seen by the next pass. -/
theorem triggers_follow_edit : ∃ s s', (watcher.guard Watched).Reachable s ∧
    (watcher.guard Watched).step s .pass s' ∧ s'.triggers.live.length = 2 ∧ InSync s' := by
  have hstart : (loadTriggers .zero (some oneTrigger)).map (·.flag) = .ok TRIGGER_PARSE_OK := by
    decide +kernel
  have hload : ((loadTriggers .zero (some oneTrigger)).bind fun r =>
      (loadTriggers r.triggers (some twoTriggers)).map (·.triggers.live)) =
      (loadTriggers .zero (some twoTriggers)).map (·.triggers.live) := by decide +kernel
  have htwo : (loadTriggers .zero (some twoTriggers)).map (·.triggers.live.length) = .ok 2 := by
    decide +kernel
  obtain ⟨r, hr, hflag⟩ := map_ok hstart
  obtain ⟨r₂, hr₂, hlen⟩ := map_ok htwo
  rw [hr, hr₂] at hload
  obtain ⟨r', hr', hlive⟩ := map_ok hload
  let s : Watch := ⟨r.triggers, twoTriggers, 6, 6, 0, false⟩
  let s' : Watch := ⟨r'.triggers, twoTriggers, 6, 6, 6, true⟩
  have hclean : CleanTable r.triggers (some twoTriggers) := by
    apply (loadsAlike_iff (targetsLive_load hr) _).mp
    refine ⟨r₂.triggers.live, ?_, ?_⟩
    · rw [hr']
      exact congrArg Except.ok hlive
    · rw [hr₂]
      rfl
  have hreach : (watcher.guard Watched).Reachable s :=
    ⟨Watch.startAt5 oneTrigger r, [.tick 6, .edit twoTriggers],
      Watch.startAt5_started hr hflag,
      .cons ⟨rfl, trivial⟩ (.cons ⟨rfl, trivial⟩ (.nil s))⟩
  have hstep : (watcher.guard Watched).step s .pass s' := by
    refine ⟨?_, hclean⟩
    show s.pass.toOption = some s'
    have : s.pass = (loadTriggers r.triggers (some twoTriggers)).map fun q =>
      { s with triggers := q.triggers, lastUpdate := 6, current := true } := rfl
    rw [this, hr']
    rfl
  refine ⟨s, s', hreach, hstep, ?_, triggers_follow_file s s' hreach hstep⟩
  rw [← hlen]
  exact congrArg List.length hlive

/-- A run that ends with a table of the wrong length. -/
theorem sync_lost (file : Bytes) {file' : Bytes} {ls : List WatchLabel} {n m : Nat}
    (hrun : ((loadTriggers .zero (some file)).toOption.bind fun r =>
      (LTS.runFn Watch.step (Watch.startAt5 file r) ls).bind fun s => (s.step .pass).map fun s' =>
        (r.flag, s'.file, s'.triggers.live.length)) = some (TRIGGER_PARSE_OK, file', n))
    (hfresh : (loadTriggers .zero (some file')).map (·.triggers.live.length) = .ok m)
    (hne : n ≠ m) :
    ∃ s₀ s s', s₀.Started ∧ watcher.Run s₀ ls s ∧ watcher.step s .pass s' ∧ ¬ InSync s' := by
  obtain ⟨r, hr, hrun⟩ := Option.bind_eq_some_iff.mp hrun
  obtain ⟨s, hs, hrun⟩ := Option.bind_eq_some_iff.mp hrun
  obtain ⟨s', hs', hobs⟩ := Option.map_eq_some_iff.mp hrun
  obtain ⟨q, hq, hm⟩ := map_ok hfresh
  simp only [Prod.mk.injEq] at hobs
  obtain ⟨hflag, hfile, hn⟩ := hobs
  have hstarted := Watch.startAt5_started (toOption_some hr) hflag
  refine ⟨_, s, s', hstarted, LTS.runFn_run hs, hs', fun hsync => hne ?_⟩
  unfold InSync at hsync
  rw [hfile, hq] at hsync
  rw [← hn, ← hm]
  exact (congrArg List.length (Except.ok.inj hsync)).symm

/-- After a SIGHUP the table stays empty, and after an edit within the second
of the last load it stays old. -/
theorem triggers_lose_file :
    (∃ s₀ s s', s₀.Started ∧ watcher.Run s₀ [.pass, .sighup] s ∧ watcher.step s .pass s' ∧
      ¬ InSync s') ∧
    ∃ s₀ s s', s₀.Started ∧ watcher.Run s₀ [.pass, .edit twoTriggers] s ∧
      watcher.step s .pass s' ∧ ¬ InSync s' := by
  have hone : (loadTriggers .zero (some oneTrigger)).map (·.triggers.live.length) = .ok 1 := by
    decide +kernel
  have htwo : (loadTriggers .zero (some twoTriggers)).map (·.triggers.live.length) = .ok 2 := by
    decide +kernel
  constructor
  · refine sync_lost oneTrigger (n := 0) ?_ hone (by decide)
    decide +kernel
  · refine sync_lost oneTrigger (n := 1) ?_ htwo (by decide)
    decide +kernel

end Rpiweatherd

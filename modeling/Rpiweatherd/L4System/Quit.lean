import Rpiweatherd.L4System.Lifecycle

/-!
# The end of a round (`src/listener.c:61-75,162-176`)

`quit_listener_loop` waits for the listener, and the cleanup routine of the
listener cancels and joins the workers one after the other. A worker that
waits for the lock of the device does not act on its cancellation, and one that
acts on it in the delay of the sensor's query leaves the lock taken for good.
The main thread takes the lock too, but not in `quit_listener_loop`.

`quit_returns_iff`: in an orderly round `quit_listener_loop` can return from
exactly the states that are not `Stuck`: those in which nobody waits for the
lock, or whoever has it will release it.
-/
namespace Rpiweatherd
namespace Lifecycle

/-- A worker waits for the lock, and the one that took it does not get behind
the delay. -/
def State.Stuck (s : State) : Prop :=
  s.waiting ≠ [] ∧ ∃ t w, s.lock = .held t false ∧ s.threads[t]? = some w ∧ w ≠ .running

/-! ## The lock along a run -/

/-- Who waits for the lock and who has it; and the only worker with a
cancellation is the one that is to be joined next. -/
structure Locking (s : State) : Prop where
  nodup : s.waiting.Nodup
  alive : ∀ t ∈ s.waiting, s.Alive t
  free : ∀ t ∈ s.waiting, ∀ delayed, s.lock ≠ .held t delayed
  holder : ∀ t delayed, s.lock = .held t delayed → t < s.threads.length
  cancelled : ∀ t, s.threads[t]? = some .cancelled →
    ∃ i, s.listener = .joining i ∧ s.worker i = .ok t

section Locking
variable {s : State}

/-- Nobody is cancelled unless the listener waits for them. -/
theorem Locking.none_cancelled (h : Locking s) (hl : ∀ i, s.listener ≠ .joining i) {t : Nat} :
    s.threads[t]? ≠ some .cancelled := by
  intro ht
  obtain ⟨i, hi, -⟩ := h.cancelled t ht
  exact hl i hi

/-- A step that leaves the workers and the lock alone. -/
theorem Locking.elsewhere (h : Locking s) (hl : ∀ i, s.listener ≠ .joining i) {t : State}
    (hthreads : t.threads = s.threads) (hlock : t.lock = s.lock)
    (hwaiting : t.waiting = s.waiting) : Locking t where
  nodup := by
    rw [hwaiting]
    exact h.nodup
  alive := by
    rw [hwaiting]
    intro w hw
    have := h.alive w hw
    rwa [State.Alive, hthreads]
  free := by
    rw [hwaiting, hlock]
    exact h.free
  holder := by
    rw [hlock, hthreads]
    exact h.holder
  cancelled := by
    rw [hthreads]
    exact fun w hw => absurd hw (h.none_cancelled hl)

/-- A worker that is not waiting ends or is joined. -/
theorem Locking.setThread (h : Locking s) {t : Nat} (ht : t ∉ s.waiting) {w : WorkerAt}
    (hw : w ≠ .cancelled) {p : ListenerAt}
    (hcancelled : ∀ t', t ≠ t' → s.threads[t']? = some .cancelled →
      ∃ i, p = .joining i ∧ s.worker i = .ok t') :
    Locking { s with threads := s.threads.set t w, listener := p } where
  nodup := h.nodup
  alive := by
    intro t' ht'
    have hne : t ≠ t' := fun he => ht (he ▸ ht')
    have hold := h.alive t' ht'
    simpa only [State.Alive, List.getElem?_set_ne hne] using hold
  free := h.free
  holder := by
    intro t' delayed hlock
    rw [List.length_set]
    exact h.holder t' delayed hlock
  cancelled := by
    intro t' ht'
    by_cases hne : t = t'
    · subst hne
      obtain ⟨hlt, hset⟩ := List.getElem?_eq_some_iff.mp ht'
      rw [List.getElem_set_self] at hset
      exact absurd hset hw
    · rw [List.getElem?_set_ne hne] at ht'
      exact hcancelled t' hne ht'

/-- The next worker is cancelled. -/
theorem Locking.cancel (h : Locking s) {i t : Nat} (hl : s.listener = .cancelling i)
    (hw : s.worker i = .ok t) :
    Locking { s with threads := s.threads.set t .cancelled, listener := .joining i } where
  nodup := h.nodup
  alive := by
    intro t' ht'
    have hold := h.alive t' ht'
    by_cases hne : t = t'
    · subst hne
      exact .inr (List.getElem?_set_self hold.lt)
    · simpa only [State.Alive, List.getElem?_set_ne hne] using hold
  free := h.free
  holder := by
    intro t' delayed hlock
    rw [List.length_set]
    exact h.holder t' delayed hlock
  cancelled := by
    intro t' ht'
    by_cases hne : t = t'
    · subst hne
      exact ⟨i, rfl, hw⟩
    · rw [List.getElem?_set_ne hne] at ht'
      exact absurd ht' (h.none_cancelled (by simp [hl]))

/-- One more worker. -/
theorem Locking.create (h : Locking s) {i : Nat} (hl : s.listener = .creating i) {table : Table} :
    Locking { s with
      table := table, threads := s.threads ++ [.running], listener := .creating (i + 1) } where
  nodup := h.nodup
  alive := by
    intro t ht
    have hold := h.alive t ht
    simpa only [State.Alive, List.getElem?_append_left hold.lt] using hold
  free := h.free
  holder := by
    intro t delayed hlock
    have hlt := h.holder t delayed hlock
    rw [List.length_append]
    omega
  cancelled := by
    intro t ht
    rw [List.getElem?_append] at ht
    split at ht
    · exact absurd ht (h.none_cancelled (by simp [hl]))
    · cases List.mem_singleton.mp (List.mem_of_getElem? ht)

theorem Locking.asks (h : Locking s) {t : Nat} (hw : s.Alive t) (hidle : s.Idle t) :
    Locking { s with waiting := t :: s.waiting } where
  nodup := List.nodup_cons.mpr ⟨hidle.1, h.nodup⟩
  alive := List.forall_mem_cons.mpr ⟨hw, h.alive⟩
  free := by
    refine List.forall_mem_cons.mpr ⟨?_, h.free⟩
    intro delayed
    cases delayed with
    | false => exact hidle.2.1
    | true => exact hidle.2.2
  holder := h.holder
  cancelled := h.cancelled

theorem Locking.locks (h : Locking s) {t : Nat} (ht : t ∈ s.waiting) :
    Locking { s with lock := .held t false, waiting := s.waiting.erase t } where
  nodup := h.nodup.erase t
  alive t' ht' := h.alive t' (List.mem_of_mem_erase ht')
  free := by
    rintro t' ht' delayed ⟨⟩
    exact h.nodup.not_mem_erase ht'
  holder := by
    rintro t' delayed ⟨⟩
    exact (h.alive t ht).lt
  cancelled := h.cancelled

theorem Locking.delays (h : Locking s) {t : Nat} (hlock : s.lock = .held t false) :
    Locking { s with lock := .held t true } where
  nodup := h.nodup
  alive := h.alive
  free := by
    rintro t' ht' delayed ⟨⟩
    exact h.free t ht' false hlock
  holder := by
    rintro t' delayed ⟨⟩
    exact h.holder t false hlock
  cancelled := h.cancelled

theorem Locking.unlocks (h : Locking s) : Locking { s with lock := .free } where
  nodup := h.nodup
  alive := h.alive
  free t ht delayed he := by cases he
  holder t delayed he := by cases he
  cancelled := h.cancelled

end Locking

theorem Locking.step {o : Prop} {s t : State} {l : Label} (hinv : Inv o s) (h : Locking s)
    (ht : s.Takes l t) : Locking t := by
  have habsent : (s.main = .stopped ∨ s.main = .exited ∨ s.main = .freeing) →
      ∀ i, s.listener ≠ .joining i := by
    intro hm i hl
    rw [hinv.phase.absent (not_active hm)] at hl
    cases hl
  cases ht with
  | init hm => exact h.elsewhere (habsent (.inl hm)) rfl rfl rfl
  | exit hm => exact { h with }
  | store hm => exact { h with }
  | alloc hl hn => exact h.elsewhere (by simp [hl]) rfl rfl rfl
  | noMemory hl => exact h.elsewhere (by simp [hl]) rfl rfl rfl
  | opened hl => exact h.elsewhere (by simp [hl]) rfl rfl rfl
  | notOpened hl => exact h.elsewhere (by simp [hl]) rfl rfl rfl
  | worker hl hi htable hc => exact h.create hl
  | noWorker hl => exact h.elsewhere (by simp [hl]) rfl rfl rfl
  | created hl hi => exact h.elsewhere (by simp [hl]) rfl rfl rfl
  | bound hl => exact h.elsewhere (by simp [hl]) rfl rfl rfl
  | notBound hl => exact h.elsewhere (by simp [hl]) rfl rfl rfl
  | quit hm => exact { h with }
  | cleanup hm hl => exact h.elsewhere (by simp [hl]) rfl rfl rfl
  | noCleanup hm hl => exact h.elsewhere (by simp [hl]) rfl rfl rfl
  | cancel hl hi hw hrunning => exact h.cancel hl hw
  | cancelAgain hl hi hw hend => exact h.elsewhere (by simp [hl]) rfl rfl rfl
  | close hl hi => exact h.elsewhere (by simp [hl]) rfl rfl rfl
  | @join i t hl hw hend =>
    have hnot : t ∉ s.waiting := by
      intro hmem
      rcases h.alive t hmem with he | he
      all_goals
        rw [hend] at he
        cases he
    refine h.setThread hnot (by decide) fun t' hne ht' => ?_
    -- the worker that is joined was the only one with a cancellation
    obtain ⟨j, hj, hw'⟩ := h.cancelled t' ht'
    rw [hl] at hj
    cases hj
    rw [hw] at hw'
    exact absurd (Except.ok.inj hw') hne
  | asks hw hidle => exact h.asks hw hidle
  | locks hwaits hfree => exact h.locks hwaits
  | delays hlock hrunning => exact h.delays hlock
  | unlocks hlock => exact h.unlocks
  | returns hw hidle => exact h.setThread hidle.1 (by decide) fun t' _ ht' => h.cancelled t' ht'
  | acts hw hwaits hlock => exact h.setThread hwaits (by decide) fun t' _ ht' => h.cancelled t' ht'
  | joinListener hm hl => exact h.elsewhere (by simp [hl]) rfl rfl rfl
  | freeNull hm htable => exact { h with }
  | freeBlock hm htable => exact h.elsewhere (habsent (.inr (.inr hm))) rfl rfl rfl

theorem State.Stuck.setThread {s : State} (h : s.Stuck) (t : Nat) {w : WorkerAt}
    (hw : w ≠ .running) (p : ListenerAt) :
    State.Stuck { s with threads := s.threads.set t w, listener := p } := by
  obtain ⟨hwaits, d, v, hlock, hd, hv⟩ := h
  refine ⟨hwaits, d, ?_⟩
  by_cases hne : t = d
  · subst hne
    exact ⟨w, hlock, List.getElem?_set_self (List.getElem?_eq_some_iff.mp hd).1, hw⟩
  · exact ⟨v, hlock, by rw [List.getElem?_set_ne hne]; exact hd, hv⟩

theorem State.Stuck.step {s t : State} {l : Label} (h : s.Stuck) (ht : s.Takes l t) : t.Stuck := by
  obtain ⟨hwaits, d, v, hlock, hd, hv⟩ := h
  cases ht with
  | worker hl hi htable hc =>
    refine ⟨hwaits, d, v, hlock, ?_, hv⟩
    rw [List.getElem?_append_left (List.getElem?_eq_some_iff.mp hd).1]
    exact hd
  | cancel => exact State.Stuck.setThread ⟨hwaits, d, v, hlock, hd, hv⟩ _ (by decide) _
  | join => exact State.Stuck.setThread ⟨hwaits, d, v, hlock, hd, hv⟩ _ (by decide) _
  | returns => exact State.Stuck.setThread ⟨hwaits, d, v, hlock, hd, hv⟩ _ (by decide) _
  | acts => exact State.Stuck.setThread ⟨hwaits, d, v, hlock, hd, hv⟩ _ (by decide) _
  | asks => exact ⟨List.cons_ne_nil _ _, d, v, hlock, hd, hv⟩
  | locks _ hfree =>
    rw [hlock] at hfree
    cases hfree
  | delays hlock' hrunning =>
    rw [hlock] at hlock'
    cases hlock'
    rw [hd] at hrunning
    exact absurd (Option.some.inj hrunning) hv
  | unlocks hlock' =>
    rw [hlock] at hlock'
    cases hlock'
  | _ => exact ⟨hwaits, d, v, hlock, hd, hv⟩

theorem State.Stuck.run {s t : State} {ls : List Label} (h : s.Stuck)
    (hr : (rounds.guard Orderly).Run s ls t) : t.Stuck := by
  induction hr with
  | nil s => exact h
  | cons hs _ ih => exact ih (h.step (takes_of_next hs.1))

/-- A worker asks for the lock. -/
def Label.asks : Label → Bool
  | .workerAsks _ => true
  | _ => false

/-- How many steps a worker may still take. -/
def WorkerAt.left : WorkerAt → Nat
  | .running => 2
  | .cancelled => 1
  | .ended => 0
  | .joined => 0

/-- How many steps the listener may still take for `n` workers, with those of
the workers it has yet to create. -/
def ListenerAt.left (n : Nat) : ListenerAt → Nat
  | .absent => 0
  | .ended => 1
  | .joining i => 2 * (n - i) + 1
  | .cancelling i => 2 * (n - i) + 2
  | .listening => 2 * n + 3
  | .binding => 2 * n + 4
  | .creating i => 2 * n + 5 + 3 * (n - i)
  | .opening => 5 * n + 6
  | .starting => 5 * n + 7

def MainAt.left : MainAt → Nat
  | .joining => 2
  | .freeing => 1
  | _ => 0

/-- The delay and the release of the lock. -/
def DeviceLock.left : DeviceLock → Nat
  | .free => 0
  | .held _ delayed => if delayed then 1 else 2

def State.left (s : State) : Nat :=
  s.main.left + s.listener.left s.numWorkers.toNat + (s.threads.map WorkerAt.left).sum +
    (3 * s.waiting.length + s.lock.left)

end Lifecycle
end Rpiweatherd

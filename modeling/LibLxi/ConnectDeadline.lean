import LibLxi.JoinSynchrony
import Mathlib.Tactic.Ring

namespace LibLxi.ConnectDeadline

open JoinSynchrony (waiterHolds)
open Machine Vxi11
open TimedJoin hiding step

structure Valid (ts : Timespec) : Prop where
  nonneg : 0 ≤ ts.nsec
  below : ts.nsec < 1000000000

theorem valid_iff {ts : Timespec} : Valid ts ↔ 0 ≤ ts.nsec ∧ ts.nsec < 1000000000 :=
  ⟨fun h => ⟨h.nonneg, h.below⟩, fun h => ⟨h.1, h.2⟩⟩

instance instDecidableValid (ts : Timespec) : Decidable (Valid ts) := decidable_of_iff' _ valid_iff

def nanoseconds (ts : Timespec) : Int := ts.sec * 1000000000 + ts.nsec

theorem millis_bounds (timeout : Int) :
    -999000000 ≤ timeout.tmod 1000 * 1000000 ∧ timeout.tmod 1000 * 1000000 ≤ 999000000 := by
  have hlow := Int.lt_tmod_of_pos timeout (by decide : (0 : Int) < 1000)
  have hhigh := Int.tmod_lt_of_pos timeout (by decide : (0 : Int) < 1000)
  omega

section Deadline

variable {now : Timespec} (timeout : Int)

theorem connectDeadline_exact (hnow : Valid now) :
    nanoseconds (connectDeadline now timeout) = nanoseconds now + timeout * 1000000 := by
  have hmillis := millis_bounds timeout
  have hsplit := Int.tdiv_mul_add_tmod timeout 1000
  have hbelow := hnow.below
  simp only [connectDeadline, nanoseconds]
  split
  · rename_i hcarry
    have hmod : (now.nsec + timeout.tmod 1000 * 1000000).tmod 1000000000 =
        now.nsec + timeout.tmod 1000 * 1000000 - 1000000000 := by
      rw [Int.tmod_eq_emod_of_nonneg (by omega)]
      omega
    rw [hmod]
    dsimp only
    omega
  · dsimp only
    omega

/-- A negative remainder is not borrowed from the seconds. -/
theorem connectDeadline_valid_iff (hnow : Valid now) :
    Valid (connectDeadline now timeout) ↔ 0 ≤ now.nsec + timeout.tmod 1000 * 1000000 := by
  have hmillis := millis_bounds timeout
  have hbelow := hnow.below
  rw [valid_iff]
  simp only [connectDeadline]
  split
  · rename_i hcarry
    have hmod : (now.nsec + timeout.tmod 1000 * 1000000).tmod 1000000000 =
        now.nsec + timeout.tmod 1000 * 1000000 - 1000000000 := by
      rw [Int.tmod_eq_emod_of_nonneg (by omega)]
      omega
    rw [hmod]
    dsimp only
    omega
  · dsimp only
    omega

end Deadline

/-- The steps of a connect with a given deadline. pthread_cond_timedwait rejects
an invalid one at once, with args.mtx locked all the time, and only such a one. -/
def step (deadline : Timespec) (w : Work) (s : State) : Action → Option State
  | .caller .wait => if Valid deadline then TimedJoin.step w s (.caller .wait) else none
  | .caller .waitFails => if Valid deadline then none else TimedJoin.step w s (.caller .waitFails)
  | a => TimedJoin.step w s a

def looping : CallerPc → Bool
  | .ready | .waiting | .reacquiring _ => true
  | _ => false

/-- The loop is only repeated by a caller that has been woken. -/
def RepeatsWoken (deadline : Timespec) (w : Work) : Prop :=
  ∀ as s action t, run (step deadline w) TimedJoin.start as = some s →
    step deadline w s (.caller action) = some t → looping s.caller = true → t.caller = .ready →
      s.caller = .reacquiring .woken

section Steps

variable {deadline : Timespec} {w : Work} {s t : State}

theorem step_joins {a : Action} (h : step deadline w s a = some t) :
    TimedJoin.step w s a = some t := by
  unfold step at h
  split at h
  · exact (Option.ite_none_right_eq_some.mp h).2
  · exact (Option.ite_none_left_eq_some.mp h).2
  · exact h

theorem tested_ready {ret : Ret} (hready : (s.tested ret).caller = .ready) : ret ≠ .timedOut := by
  rintro rfl
  simp [State.tested] at hready

theorem tested_error (s : State) (ret : Ret) : (s.tested ret).caller ≠ .reacquiring .error := by
  rw [State.tested]
  split <;> simp

theorem callerStep_ready {action : CallerAction} (h : callerStep s action = some t)
    (hready : t.caller = .ready) :
    s.caller = .locked ∨ action = .waitFails ∨
      ∃ ret, ret ≠ .timedOut ∧ s.caller = .reacquiring ret := by
  cases callerStep_moves h with
  | waiterCreated hc => exact .inl hc
  | waitFails => exact .inr (.inl rfl)
  | reacquired ret hc => exact .inr (.inr ⟨ret, tested_ready hready, hc⟩)
  | waiterJoined ret hc =>
      rw [State.afterJoin] at hready
      split at hready
      · split at hready
        · cases hready
        · simp [State.misuse, hc] at hready
      · cases hready
  | waiterMissing ret hc | waiterGone ret hc => simp [State.misuse, hc] at hready
  | connectMissing hc | connectGone hc => simp [State.misuse, hc] at hready
  | connectCreated | connectFailed | locked | waiterFailed | waits | woken | expired => cases hready
  | waiterCancelled | connectCancelled | connectJoined => cases hready

theorem step_error {a : Action} (hs : s.caller ≠ .reacquiring .error)
    (h : TimedJoin.step w s a = some t) : t.caller ≠ .reacquiring .error := by
  cases a with
  | caller action =>
      cases callerStep_moves (callerStep_of_step h) with
      | waitFails => exact tested_error s .error
      | reacquired ret => exact tested_error s ret
      | waiterJoined =>
          rw [State.afterJoin]
          split
          · split
            · simp
            · exact hs
          · simp
      | waiterMissing | waiterGone | connectMissing | connectGone => exact hs
      | _ => simp
  | waiter action =>
      obtain ⟨hcaller, -⟩ := waiterStep_frame (waiterStep_of_step h)
      rwa [hcaller]
  | connect action =>
      obtain ⟨-, -, -, rfl, -⟩ := connectStep_moves (connectStep_of_step h)
      exact hs

theorem run_error {as : List Action} (h : run (step deadline w) TimedJoin.start as = some s) :
    s.caller ≠ .reacquiring .error :=
  run_preserves (fun _ _ _ hs h => step_error hs (step_joins h)) (by simp [TimedJoin.start]) h

theorem repeatsWoken_of_valid (hvalid : Valid deadline) : RepeatsWoken deadline w := by
  intro as s action t hrun hstep hloop hready
  rcases callerStep_ready (callerStep_of_step (step_joins hstep)) hready with
    hc | rfl | ⟨ret, hret, hc⟩
  · rw [hc] at hloop
    cases hloop
  · rw [step, if_pos hvalid] at hstep
    cases hstep
  · cases ret with
    | woken => exact hc
    | timedOut => exact absurd rfl hret
    | error => exact absurd hc (run_error hrun)

def ready (connect : ConnectPc) (waiter : WaiterPc) : State :=
  { TimedJoin.start with caller := .ready, connect, waiter, mutex := some .caller }

def enter : List Action :=
  [.caller (.createConnect true), .caller .lock, .caller (.createWaiter true)]

theorem run_enter (deadline : Timespec) (w : Work) :
    run (step deadline w) TimedJoin.start enter = some (ready (.running 0) .joining) := rfl

theorem not_repeatsWoken (hvalid : ¬ Valid deadline) : ¬ RepeatsWoken deadline w := by
  intro h
  have hstep : step deadline w (ready (.running 0) .joining) (.caller .waitFails) =
      some (ready (.running 0) .joining) := by
    rw [step, if_neg hvalid]
    rfl
  cases h enter _ .waitFails _ (run_enter deadline w) hstep rfl rfl

structure Spinning (s : State) : Prop where
  caller : s.caller = .ready
  mutex : s.mutex = some .caller
  joined : s.joined = false
  waiter : waiterHolds s.waiter = false

/-- With args.mtx locked for ever the waiter cannot tell that the connect thread
has ended. -/
theorem step_spinning (hvalid : ¬ Valid deadline) {a : Action} (hs : Spinning s)
    (h : step deadline w s a = some t) : Spinning t := by
  have hjoins := step_joins h
  cases a with
  | caller action =>
      cases callerStep_moves (callerStep_of_step hjoins) with
      | waits =>
          rw [step, if_neg hvalid] at h
          cases h
      | waitFails =>
          refine ⟨?_, rfl, hs.joined, hs.waiter⟩
          simp [State.tested, hs.joined]
      | connectCreated hc | connectFailed hc | locked hc | waiterCreated hc | waiterFailed hc
      | woken hc | expired hc | reacquired _ hc | waiterCancelled _ hc | waiterMissing _ hc
      | waiterJoined _ hc | waiterGone _ hc | connectCancelled hc | connectMissing hc
      | connectJoined hc | connectGone hc => cases hs.caller.symm.trans hc
  | waiter action =>
      cases waiterStep_moves (waiterStep_of_step hjoins) with
      | connectGone => exact ⟨hs.caller, hs.mutex, hs.joined, hs.waiter⟩
      | connectJoined | cancelled | signals => exact ⟨hs.caller, hs.mutex, hs.joined, rfl⟩
      | locked _ hmutex => cases hs.mutex.symm.trans hmutex
      | sets hw | unlocked hw =>
          have hholds := hs.waiter
          rw [hw] at hholds
          cases hholds
  | connect action =>
      obtain ⟨-, -, -, rfl, -⟩ := connectStep_moves (connectStep_of_step hjoins)
      exact ⟨hs.caller, hs.mutex, hs.joined, hs.waiter⟩

theorem run_spinning (hvalid : ¬ Valid deadline) {as : List Action} (hs : Spinning s)
    (h : run (step deadline w) s as = some t) : Spinning t :=
  run_preserves (fun _ _ _ hs h => step_spinning hvalid hs h) hs h

end Steps

/-- The deadline of a connect always denotes the clock reading plus the timeout.
It is valid, so that the wait loop repeats only behind a wake-up, if and only if
the nanoseconds of a negative timeout do not exceed those of the clock. -/
theorem deadline_valid_iff (w : Work) {now : Timespec} (hnow : Valid now) (timeout : Int) :
    (Valid (connectDeadline now timeout) ∧
        nanoseconds (connectDeadline now timeout) = nanoseconds now + timeout * 1000000 ∧
        RepeatsWoken (connectDeadline now timeout) w) ↔
      0 ≤ now.nsec + timeout.tmod 1000 * 1000000 := by
  rw [← connectDeadline_valid_iff timeout hnow]
  constructor
  · intro h
    exact h.1
  · intro hvalid
    exact ⟨hvalid, connectDeadline_exact timeout hnow, repeatsWoken_of_valid hvalid⟩

theorem deadline_valid_carry :
    Valid ⟨1, 999000000⟩ ∧
      (Valid (connectDeadline ⟨1, 999000000⟩ 2500) ∧
        nanoseconds (connectDeadline ⟨1, 999000000⟩ 2500) =
          nanoseconds ⟨1, 999000000⟩ + 2500 * 1000000 ∧
        RepeatsWoken (connectDeadline ⟨1, 999000000⟩ 2500) ⟨2, 0⟩) := by
  have hnow : Valid ⟨1, 999000000⟩ := by decide
  exact ⟨hnow, (deadline_valid_iff ⟨2, 0⟩ hnow 2500).mpr (by decide)⟩

/-- A timeout of -1 ms right after the full second: the deadline is invalid, and
no run leads the caller out of the loop any more. -/
theorem deadline_invalid_negative :
    ¬ Valid (connectDeadline ⟨1, 0⟩ (-1)) ∧
      ¬ RepeatsWoken (connectDeadline ⟨1, 0⟩ (-1)) ⟨2, 0⟩ ∧
      ∃ s, run (step (connectDeadline ⟨1, 0⟩ (-1)) ⟨2, 0⟩) TimedJoin.start enter = some s ∧
        ∀ as t, run (step (connectDeadline ⟨1, 0⟩ (-1)) ⟨2, 0⟩) s as = some t →
          t.caller = .ready ∧ t.mutex = some .caller := by
  have hvalid : ¬ Valid (connectDeadline ⟨1, 0⟩ (-1)) := by decide
  refine ⟨hvalid, not_repeatsWoken hvalid, _, run_enter _ _, fun as t h => ?_⟩
  have hspinning := run_spinning hvalid ⟨rfl, rfl, rfl, rfl⟩ h
  exact ⟨hspinning.caller, hspinning.mutex⟩

end LibLxi.ConnectDeadline

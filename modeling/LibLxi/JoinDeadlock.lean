import LibLxi.JoinSynchrony

namespace LibLxi.JoinDeadlock

open JoinSynchrony Machine TimedJoin Vxi11

/-- The caller holds args.mtx and waits in pthread_join for the waiter, which
waits for args.mtx; pthread_mutex_lock is no cancellation point. -/
def Deadlocked (s : State) : Prop :=
  (∃ ret, s.caller = .joining ret) ∧ s.waiter = .locking ∧ s.mutex = some .caller

structure Safe (s : State) : Prop where
  noDeadlock : ¬ Deadlocked s
  notMisused : s.misused = false

def leftLoop : CallerPc → Bool
  | .leaving _ | .joining _ => true
  | _ => false

def LeftLoop (s : State) : Prop := leftLoop s.caller = true

/-- The waiter is created; the deadline does not pass between the waiter's
pthread_join and its lock; and the waiter's pthread_join does not return any
more once the caller has left the loop. -/
def Timely (s : State) : Action → Prop
  | .caller (.createWaiter ok) => ok = true
  | .caller .reacquire => s.caller = .reacquiring .timedOut → s.waiter ≠ .locking
  | .waiter .join => ¬ LeftLoop s
  | _ => True

instance instDecidableLeftLoop (s : State) : Decidable (LeftLoop s) :=
  inferInstanceAs (Decidable (leftLoop s.caller = true))

instance instDecidableTimely (s : State) : (a : Action) → Decidable (Timely s a)
  | .caller (.createWaiter ok) => inferInstanceAs (Decidable (ok = true))
  | .caller .reacquire =>
      inferInstanceAs (Decidable (s.caller = .reacquiring .timedOut → s.waiter ≠ .locking))
  | .waiter .join => inferInstanceAs (Decidable ¬ LeftLoop s)
  | .connect _ => isTrue trivial
  | .caller (.createConnect _) | .caller .lock | .caller .wait | .caller .waitFails
  | .caller .wake | .caller .expire | .caller .cancelWaiter | .caller .joinWaiter
  | .caller .cancelConnect | .caller .joinConnect => isTrue trivial
  | .waiter .cancelled | .waiter .lock | .waiter .set | .waiter .unlock
  | .waiter .signal => isTrue trivial

theorem leftLoop_cases {c : CallerPc} (h : leftLoop c = true) :
    ∃ ret, c = .leaving ret ∨ c = .joining ret := by
  cases c with
  | leaving ret => exact ⟨ret, .inl rfl⟩
  | joining ret => exact ⟨ret, .inr rfl⟩
  | _ => cases h

structure Invariant (w : Work) (s : State) : Prop where
  toInvariant : JoinSynchrony.Invariant w s
  there : early s.caller = false → isReturned s.caller = false → s.waiter ≠ .absent
  left : LeftLoop s → s.waiter ≠ .locking
  notMisused : s.misused = false

theorem invariant_start (w : Work) : Invariant w TimedJoin.start where
  toInvariant := JoinSynchrony.invariant_start w
  there h := absurd h (by decide)
  left h := absurd h (by decide)
  notMisused := rfl

theorem Invariant.safe {w : Work} {s : State} (hs : Invariant w s) : Safe s where
  noDeadlock := by
    rintro ⟨⟨ret, hcaller⟩, hwaiter, -⟩
    exact hs.left (by rw [LeftLoop, hcaller]; rfl) hwaiter
  notMisused := hs.notMisused

section Steps

variable {w : Work} {s t : State}

theorem waiterThere_of (hs : JoinSynchrony.Invariant w s) (hwaiter : s.waiter ≠ .absent)
    (hleft : LeftLoop s) : s.waiterThere = true := by
  obtain ⟨ret, hcaller⟩ := leftLoop_cases hleft
  have hjoins : s.waiterJoins = 0 := by
    rcases hcaller with hc | hc
    · rw [hs.waiterJoins (by rw [hc]; rfl), hc]
      rfl
    · rw [hs.waiterJoins (by rw [hc]; rfl), hc]
      rfl
  simp [State.waiterThere, hwaiter, hjoins]

theorem connectThere_of (hs : JoinSynchrony.Invariant w s) (hwaiter : s.waiter ≠ .absent)
    (hreturned : isReturned s.caller = false) (hreaped : reaped s.waiter = false) :
    s.connectThere = true := by
  have hjoins : s.connectJoins = 0 := by
    rw [hs.connectJoins hreturned, hreaped]
    rfl
  have hconnect : s.connect ≠ .absent := fun h => hwaiter (hs.connectAbsent h).1
  simp [State.connectThere, hconnect, hjoins]

theorem connectThere_of_late (hs : JoinSynchrony.Invariant w s) (hlate : late s.caller = true) :
    s.connectThere = true := by
  have hwaiter := hs.late hlate
  have hreturned : isReturned s.caller = false := by
    cases hc : s.caller with
    | returned r => rw [hc] at hlate; cases hlate
    | _ => rfl
  exact connectThere_of hs (by simp [hwaiter]) hreturned (by rw [hwaiter]; rfl)

theorem connectThere_of_joining (hs : JoinSynchrony.Invariant w s) (hw : s.waiter = .joining) :
    s.connectThere = true :=
  connectThere_of hs (by simp [hw]) (hs.notReturned (by simp [hw]) (by rw [hw]; rfl))
    (by rw [hw]; rfl)

theorem not_locking_of_joined (hs : JoinSynchrony.Invariant w s) (hj : s.joined = true) :
    s.waiter ≠ .locking := by
  intro hw
  rw [hs.joined, hw] at hj
  cases hj

theorem waiterStep_safe (hs : Invariant w s) {action : WaiterAction}
    (htimely : Timely s (.waiter action)) (h : waiterStep w s action = some t) : Invariant w t := by
  have ht := waiterStep_invariant hs.toInvariant h
  cases waiterStep_moves h with
  | connectJoined => exact ⟨ht, fun _ _ => by simp, fun hleft => absurd hleft htimely, hs.notMisused⟩
  | connectGone hw hgone =>
      cases (connectThere_of_joining hs.toInvariant hw).symm.trans hgone
  | _ => exact ⟨ht, fun _ _ => by simp, fun _ => by simp, hs.notMisused⟩

theorem connectStep_safe (hs : Invariant w s) {action : ConnectAction}
    (h : connectStep w s action = some t) : Invariant w t := by
  have ht := connectStep_invariant hs.toInvariant h
  cases action with
  | work | cancelled =>
      simp only [connectStep] at h
      split at h
      · obtain ⟨-, rfl⟩ := of_guard h
        exact ⟨ht, hs.there, hs.left, hs.notMisused⟩
      · cases h
  | exit =>
      obtain ⟨-, rfl⟩ := of_guard h
      exact ⟨ht, hs.there, hs.left, hs.notMisused⟩

theorem tested_safe (hs : Invariant w s) {ret : Ret} (ht : JoinSynchrony.Invariant w (s.tested ret))
    (hwaiter : s.waiter ≠ .absent) (htimely : ret = .timedOut → s.waiter ≠ .locking) :
    Invariant w (s.tested ret) where
  toInvariant := ht
  there _ _ := hwaiter
  left hleft := by
    change s.waiter ≠ .locking
    by_cases hj : s.joined = true
    · exact not_locking_of_joined hs.toInvariant hj
    · by_cases hret : ret = .timedOut
      · exact htimely hret
      · -- the loop goes on
        simp [LeftLoop, leftLoop, State.tested, hj, hret] at hleft
  notMisused := hs.notMisused

theorem Invariant.notLeft (hs : Invariant w s) (ht : JoinSynchrony.Invariant w t)
    (hmisused : t.misused = s.misused) (hleft : leftLoop t.caller = false)
    (hthere : early t.caller = false → isReturned t.caller = false → t.waiter ≠ .absent) :
    Invariant w t where
  toInvariant := ht
  there := hthere
  left h := absurd (hleft.symm.trans h) (by decide)
  notMisused := hmisused.trans hs.notMisused

theorem afterJoin_safe (hs : Invariant w s) {ret : Ret} (hcaller : s.caller = .joining ret)
    (ht : JoinSynchrony.Invariant w s.afterJoin) : Invariant w s.afterJoin := by
  have hwaiter := hs.there (by rw [hcaller]; rfl) (by rw [hcaller]; rfl)
  cases hj : s.joined with
  | true =>
      rw [afterJoin_joined hs.toInvariant hj] at ht ⊢
      exact hs.notLeft ht rfl rfl fun _ _ => hwaiter
  | false =>
      rw [afterJoin_timedOut hj] at ht ⊢
      exact hs.notLeft ht rfl rfl fun _ _ => hwaiter

theorem callerStep_safe (hs : Invariant w s) {action : CallerAction}
    (htimely : Timely s (.caller action)) (h : callerStep s action = some t) : Invariant w t := by
  have ht := callerStep_invariant hs.toInvariant h
  cases callerStep_moves h with
  | connectCreated hc => exact hs.notLeft ht rfl rfl fun hearly => by cases hearly
  | connectFailed hc => exact hs.notLeft ht rfl rfl fun _ hreturned => by cases hreturned
  | locked hc => exact hs.notLeft ht rfl rfl fun hearly => by cases hearly
  | waiterCreated hc => exact hs.notLeft ht rfl rfl fun _ _ => by simp
  | waiterFailed hc => cases (show false = true from htimely)
  | waits hc | woken hc | expired hc =>
      have hwaiter := hs.there (by rw [hc]; rfl) (by rw [hc]; rfl)
      exact hs.notLeft ht rfl rfl fun _ _ => hwaiter
  | waitFails hc =>
      have hwaiter := hs.there (by rw [hc]; rfl) (by rw [hc]; rfl)
      exact tested_safe hs ht hwaiter (by simp)
  | reacquired ret hc =>
      have hwaiter := hs.there (by rw [hc]; rfl) (by rw [hc]; rfl)
      apply tested_safe hs ht hwaiter
      rintro rfl
      exact htimely hc
  | waiterCancelled ret hc =>
      have hwaiter := hs.there (by rw [hc]; rfl) (by rw [hc]; rfl)
      have hleft : LeftLoop s := by rw [LeftLoop, hc]; rfl
      exact ⟨ht, fun _ _ => hwaiter, fun _ => hs.left hleft, hs.notMisused⟩
  | waiterMissing ret hc hgone | waiterGone ret hc hgone =>
      have hwaiter := hs.there (by rw [hc]; rfl) (by rw [hc]; rfl)
      rw [waiterThere_of hs.toInvariant hwaiter (by rw [LeftLoop, hc]; rfl)] at hgone
      cases hgone
  | waiterJoined ret hc => exact afterJoin_safe hs hc ht
  | connectCancelled hc =>
      have hwaiter := hs.toInvariant.late (by rw [hc]; rfl)
      exact hs.notLeft ht rfl rfl fun _ _ => by simp [hwaiter]
  | connectJoined hc => exact hs.notLeft ht rfl rfl fun _ hreturned => by cases hreturned
  | connectMissing hc hgone | connectGone hc hgone =>
      rw [connectThere_of_late hs.toInvariant (by rw [hc]; rfl)] at hgone
      cases hgone

theorem step_safe (hs : Invariant w s) {a : Action} (htimely : Timely s a)
    (h : step w s a = some t) : Invariant w t := by
  cases a with
  | caller action => exact callerStep_safe hs htimely (callerStep_of_step h)
  | waiter action => exact waiterStep_safe hs htimely (waiterStep_of_step h)
  | connect action => exact connectStep_safe hs (connectStep_of_step h)

/-- From a caller that has left the loop while the waiter is about to lock, the
next step of the caller completes the deadlock. -/
theorem deadlock_of_leaving (hs : JoinSynchrony.Invariant w s) (hmisused : s.misused = false)
    {ret : Ret} (hc : s.caller = .leaving ret) (hw : s.waiter = .locking) :
    ∃ u, step w s (.caller .cancelWaiter) = some u ∧ Deadlocked u := by
  have hthere := waiterThere_of hs (by simp [hw]) (by rw [LeftLoop, hc]; rfl)
  refine ⟨{ s with caller := .joining ret, waiterCancel := true }, ?_, ⟨ret, rfl⟩, hw, ?_⟩
  · simp [step, callerStep, hmisused, hc, hthere]
  · exact hs.callerMutex.mpr (by rw [hc]; rfl)

theorem waiterJoin_hazard (hs : Invariant w s) (hleft : LeftLoop s)
    (h : step w s (.waiter .join) = some t) : ∃ bs u, run (step w) t bs = some u ∧ ¬ Safe u := by
  have hstep := waiterStep_of_step h
  have ht := waiterStep_invariant hs.toInvariant hstep
  cases waiterStep_moves hstep with
  | connectGone hw hgone =>
      cases (connectThere_of_joining hs.toInvariant hw).symm.trans hgone
  | connectJoined =>
      obtain ⟨ret, hc | hc⟩ := leftLoop_cases hleft
      · obtain ⟨u, hu, hdead⟩ := deadlock_of_leaving ht hs.notMisused hc rfl
        refine ⟨[.caller .cancelWaiter], u, ?_, fun hsafe => hsafe.noDeadlock hdead⟩
        rw [run_cons, hu]
        rfl
      · refine ⟨[], _, rfl, fun hsafe => hsafe.noDeadlock ⟨⟨ret, hc⟩, rfl, ?_⟩⟩
        exact hs.toInvariant.callerMutex.mpr (by rw [hc]; rfl)

theorem reacquire_hazard (hs : Invariant w s) (hc : s.caller = .reacquiring .timedOut)
    (hw : s.waiter = .locking) (h : step w s (.caller .reacquire) = some t) :
    ∃ bs u, run (step w) t bs = some u ∧ ¬ Safe u := by
  have hstep := callerStep_of_step h
  have ht := callerStep_invariant hs.toInvariant hstep
  simp only [callerStep, hc] at hstep
  obtain ⟨-, rfl⟩ := of_guard hstep
  have hcaller : (s.tested .timedOut).caller = .leaving .timedOut := by simp [State.tested]
  obtain ⟨u, hu, hdead⟩ := deadlock_of_leaving ht hs.notMisused hcaller hw
  refine ⟨[.caller .cancelWaiter], u, ?_, fun hsafe => hsafe.noDeadlock hdead⟩
  rw [run_cons, hu]
  rfl

theorem createWaiter_hazard (hs : Invariant w s)
    (h : step w s (.caller (.createWaiter false)) = some t) :
    ∃ bs u, run (step w) t bs = some u ∧ ¬ Safe u := by
  have hstep := callerStep_of_step h
  obtain ⟨hc, rfl⟩ := of_guard hstep
  have hwaiter := hs.toInvariant.early (by rw [hc]; rfl)
  refine ⟨[.caller .cancelWaiter], { s with caller := .leaving .error, misused := true }, ?_, ?_⟩
  · simp [run, step, callerStep, hs.notMisused, State.waiterThere, hwaiter, State.misuse]
  · rintro ⟨-, hmisused⟩
    cases hmisused

theorem hazard_of_not_timely (hs : Invariant w s) {a : Action} (hlate : ¬ Timely s a)
    (h : step w s a = some t) : ∃ bs u, run (step w) t bs = some u ∧ ¬ Safe u := by
  cases a with
  | connect action => exact absurd trivial hlate
  | waiter action =>
      cases action with
      | join => exact waiterJoin_hazard hs (not_not.mp hlate) h
      | _ => exact absurd trivial hlate
  | caller action =>
      cases action with
      | createWaiter ok =>
          cases ok with
          | true => exact absurd rfl hlate
          | false => exact createWaiter_hazard hs h
      | reacquire =>
          obtain ⟨hc, hw⟩ := Classical.not_imp.mp hlate
          exact reacquire_hazard hs hc (not_not.mp hw) h
      | _ => exact absurd trivial hlate

end Steps

/-- Runs whose steps are all timely are free of the deadlock and of misuse, and
any other step leads to one of them. -/
theorem timed_join_safe (data : Vxi11Data) (name : Option String) (o : LinkOutcome)
    {as : List Action} {s : State}
    (htimely : Along (step (work data name o)) Timely TimedJoin.start as)
    (h : run (step (work data name o)) TimedJoin.start as = some s) :
    Safe s ∧ ∀ a t, step (work data name o) s a = some t → ¬ Timely s a →
      ∃ bs u, run (step (work data name o)) t bs = some u ∧ ¬ Safe u := by
  have hs : Invariant (work data name o) s :=
    run_preserves_along (fun _ _ _ hs htimely h => step_safe hs htimely h) (invariant_start _)
      htimely h
  exact ⟨hs.safe, fun a t hstep hlate => hazard_of_not_timely hs hlate hstep⟩

theorem timed_join_safe_inTime :
    Safe served ∧ ∀ a t, step (work default none linked) served a = some t → ¬ Timely served a →
      ∃ bs u, run (step (work default none linked)) t bs = some u ∧ ¬ Safe u :=
  timed_join_safe default none linked (by decide : Along _ Timely TimedJoin.start inTime) run_inTime

def tooLate : List Action :=
  [.caller (.createConnect true), .caller .lock, .caller (.createWaiter true), .caller .wait,
    .connect .work, .connect .work, .connect .exit, .waiter .join, .caller .expire,
    .caller .reacquire, .caller .cancelWaiter]

def waiterFails : List Action :=
  [.caller (.createConnect true), .caller .lock, .caller (.createWaiter false),
    .caller .cancelWaiter]

theorem join_deadlocks :
    (∃ s, run (step (work default none linked)) TimedJoin.start tooLate = some s ∧ Deadlocked s ∧
        ∀ a, step (work default none linked) s a = none) ∧
      ∃ s, run (step (work default none linked)) TimedJoin.start waiterFails = some s ∧
        s.misused = true := by
  constructor
  · refine ⟨_, rfl, ⟨⟨.timedOut, rfl⟩, rfl, rfl⟩, ?_⟩
    intro a
    cases a with
    | caller action => cases action <;> rfl
    | waiter action => cases action <;> rfl
    | connect action => cases action <;> rfl
  · exact ⟨_, rfl, rfl⟩

end LibLxi.JoinDeadlock

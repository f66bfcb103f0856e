import LibLxi.TimedJoin

namespace LibLxi.JoinSynchrony

open Machine TimedJoin Vxi11

def holdsMutex : CallerPc → Bool
  | .locked | .ready | .leaving _ | .joining _ => true
  | _ => false

def waiterHolds : WaiterPc → Bool
  | .setting | .unlocking => true
  | _ => false

def reaped : WaiterPc → Bool
  | .locking | .setting | .unlocking | .signalling | .exited => true
  | _ => false

def announced : WaiterPc → Bool
  | .unlocking | .signalling | .exited => true
  | _ => false

def early : CallerPc → Bool
  | .start | .created | .locked => true
  | _ => false

def late : CallerPc → Bool
  | .timedOut | .joiningConnect => true
  | _ => false

def isReturned : CallerPc → Bool
  | .returned _ => true
  | _ => false

def midway : CallerPc → Bool
  | .start | .timedOut | .joiningConnect | .returned _ => false
  | _ => true

/-- Both threads have ended and were joined once; another result than -1 is that
of a connect thread which was not cancelled. -/
structure Synchronised (w : Work) (s : State) (r : Int) : Prop where
  waiter : s.waiter.terminated = true
  connect : s.connect.terminated = true
  waiterJoins : s.waiterJoins = 1
  connectJoins : s.connectJoins = 1
  result : s.joined = true ∧ s.connect = .exited ∧ s.connectCancel = false ∧ r = w.result ∨
    s.joined = false ∧ r = -1

structure Invariant (w : Work) (s : State) : Prop where
  callerMutex : s.mutex = some .caller ↔ holdsMutex s.caller = true
  waiterMutex : s.mutex = some .waiter ↔ waiterHolds s.waiter = true
  joined : s.joined = announced s.waiter
  reaped : reaped s.waiter = true →
    s.connect = .exited ∧ s.connectCancel = false ∧ s.status = some w.result
  early : early s.caller = true → s.waiter = .absent
  late : late s.caller = true → s.waiter = .cancelled
  cancelled : ∀ d, s.connect = .cancelled d → s.connectCancel = true
  connectCancel : s.connectCancel = true → s.caller = .joiningConnect ∨ isReturned s.caller = true
  connectAbsent : s.connect = .absent →
    s.waiter = .absent ∧ (s.caller = .start ∨ isReturned s.caller = true)
  connectJoins : isReturned s.caller = false →
    s.connectJoins = if JoinSynchrony.reaped s.waiter then 1 else 0
  waiterJoins : isReturned s.caller = false →
    s.waiterJoins = if JoinSynchrony.late s.caller then 1 else 0
  returned : ∀ r, s.caller = .returned r → s.waiter = .absent ∨ Synchronised w s r

theorem invariant_start (w : Work) : Invariant w TimedJoin.start := by
  constructor <;> simp [TimedJoin.start, holdsMutex, waiterHolds, announced, JoinSynchrony.reaped,
    JoinSynchrony.late, isReturned]

structure Midway (c : CallerPc) : Prop where
  notStart : c ≠ .start
  notLate : late c = false
  notReturned : isReturned c = false

theorem midway_iff {c : CallerPc} : midway c = true ↔ Midway c := by
  constructor
  · intro h
    cases c with
    | start | timedOut | joiningConnect | returned => cases h
    | _ => constructor <;> simp [late, isReturned]
  · intro h
    cases c with
    | start => exact absurd rfl h.notStart
    | timedOut => cases h.notLate
    | joiningConnect => cases h.notLate
    | returned r => cases h.notReturned
    | _ => rfl

section Steps

variable {w : Work} {s t : State}

theorem Invariant.notLate (hs : Invariant w s) (hw : s.waiter ≠ .cancelled) :
    JoinSynchrony.late s.caller = false := by
  rw [← Bool.not_eq_true]
  exact fun hlate => hw (hs.late hlate)

theorem Invariant.notReturned (hs : Invariant w s) (hthere : s.waiter ≠ .absent)
    (hruns : s.waiter.terminated = false) : isReturned s.caller = false := by
  cases hc : s.caller with
  | returned r =>
      have hended := ((hs.returned r hc).resolve_left hthere).waiter
      rw [hruns] at hended
      cases hended
  | _ => rfl

theorem Invariant.notCancelling (hs : Invariant w s) (hlate : JoinSynchrony.late s.caller = false)
    (hreturned : isReturned s.caller = false) : s.connectCancel = false := by
  rw [← Bool.not_eq_true]
  intro hc
  rcases hs.connectCancel hc with hcaller | hcaller
  · rw [hcaller] at hlate
    cases hlate
  · rw [hreturned] at hcaller
    cases hcaller

/-- A connect thread that ends while the waiter is in pthread_join has not been
cancelled: the caller cancels it only behind the join of the waiter. -/
theorem Invariant.exited (hs : Invariant w s) (hw : s.waiter = .joining)
    (ht : s.connect.terminated = true) : s.connect = .exited ∧ s.connectCancel = false := by
  have hcancel := hs.notCancelling (hs.notLate (by simp [hw]))
    (hs.notReturned (by simp [hw]) (by rw [hw]; rfl))
  refine ⟨?_, hcancel⟩
  cases hc : s.connect with
  | absent => rw [hc] at ht; cases ht
  | running => rw [hc] at ht; cases ht
  | exited => rfl
  | cancelled d =>
      rw [hs.cancelled d hc] at hcancel
      cases hcancel

theorem Invariant.misuse (hs : Invariant w s) : Invariant w s.misuse where
  callerMutex := hs.callerMutex
  waiterMutex := hs.waiterMutex
  joined := hs.joined
  reaped := hs.reaped
  early := hs.early
  late := hs.late
  cancelled := hs.cancelled
  connectCancel := hs.connectCancel
  connectAbsent := hs.connectAbsent
  connectJoins := hs.connectJoins
  waiterJoins := hs.waiterJoins
  returned r hr := (hs.returned r hr).imp id fun h =>
    ⟨h.waiter, h.connect, h.waiterJoins, h.connectJoins, h.result⟩

/-- A step of the caller inside _pthread_timedjoin: apart from its own place it
changes at most who has args.mtx and whether the waiter is to be cancelled. -/
theorem Invariant.callerMoves (hs : Invariant w s) {c : CallerPc} {m : Option Owner} (b : Bool)
    (hbefore : midway s.caller = true) (hafter : midway c = true)
    (hearly : JoinSynchrony.early c = true → JoinSynchrony.early s.caller = true)
    (hcaller : m = some .caller ↔ holdsMutex c = true)
    (hwaiter : m = some .waiter ↔ waiterHolds s.waiter = true) :
    Invariant w { s with caller := c, mutex := m, waiterCancel := b } := by
  have hbefore := midway_iff.mp hbefore
  have hafter := midway_iff.mp hafter
  have hcancel := hs.notCancelling hbefore.notLate hbefore.notReturned
  exact {
    callerMutex := hcaller
    waiterMutex := hwaiter
    joined := hs.joined
    reaped := hs.reaped
    early h := hs.early (hearly h)
    late h := by simp [hafter.notLate] at h
    cancelled := hs.cancelled
    connectCancel h := by simp [hcancel] at h
    connectAbsent h := by
      obtain ⟨-, h | h⟩ := hs.connectAbsent h
      · exact absurd h hbefore.notStart
      · simp [hbefore.notReturned] at h
    connectJoins _ := hs.connectJoins hbefore.notReturned
    waiterJoins _ := by
      simp only [hafter.notLate]
      simpa only [hbefore.notLate] using hs.waiterJoins hbefore.notReturned
    returned r h := by
      have hc : c = .returned r := h
      rw [hc] at hafter
      cases hafter.notReturned }

theorem Invariant.waiterMoves (hs : Invariant w s) {v : WaiterPc} {m : Option Owner} {j : Bool}
    (hbefore : s.waiter ≠ .absent) (hruns : s.waiter.terminated = false)
    (hreaped : JoinSynchrony.reaped v = JoinSynchrony.reaped s.waiter) (hjoined : j = announced v)
    (hcaller : m = some .caller ↔ holdsMutex s.caller = true)
    (hwaiter : m = some .waiter ↔ waiterHolds v = true) :
    Invariant w { s with waiter := v, mutex := m, joined := j } := by
  have hreturned := hs.notReturned hbefore hruns
  have hlate := hs.notLate (by rintro h; rw [h] at hruns; cases hruns)
  exact {
    callerMutex := hcaller
    waiterMutex := hwaiter
    joined := hjoined
    reaped h := hs.reaped (hreaped ▸ h)
    early h := absurd (hs.early h) hbefore
    late h := by simp [hlate] at h
    cancelled := hs.cancelled
    connectCancel := hs.connectCancel
    connectAbsent h := absurd (hs.connectAbsent h).1 hbefore
    connectJoins h := by
      rw [hreaped]
      exact hs.connectJoins h
    waiterJoins := hs.waiterJoins
    returned r h := by
      have hc : s.caller = .returned r := h
      rw [hc] at hreturned
      cases hreturned }

theorem Invariant.connectMoves (hs : Invariant w s) {done : Nat} {k : ConnectPc}
    (hbefore : s.connect = .running done) (hafter : k ≠ .absent)
    (hcancel : ∀ d, k = .cancelled d → s.connectCancel = true) :
    Invariant w { s with connect := k } where
  callerMutex := hs.callerMutex
  waiterMutex := hs.waiterMutex
  joined := hs.joined
  reaped h := by
    have hexited := (hs.reaped h).1
    rw [hbefore] at hexited
    cases hexited
  early := hs.early
  late := hs.late
  cancelled := hcancel
  connectCancel := hs.connectCancel
  connectAbsent h := absurd h hafter
  connectJoins := hs.connectJoins
  waiterJoins := hs.waiterJoins
  returned r h := by
    refine (hs.returned r h).imp id fun hsync => ?_
    have hended := hsync.connect
    rw [hbefore] at hended
    cases hended

theorem Invariant.reap (hs : Invariant w s) (hw : s.waiter = .joining)
    (ht : s.connect.terminated = true) :
    Invariant w { s with
      waiter := .locking
      connectJoins := s.connectJoins + 1
      status := if s.connect = .exited then some w.result else none } := by
  obtain ⟨hexited, hcancel⟩ := hs.exited hw ht
  have hreturned := hs.notReturned (by simp [hw]) (by rw [hw]; rfl)
  have hjoins : s.connectJoins = 0 := by
    rw [hs.connectJoins hreturned, hw]
    rfl
  exact {
    callerMutex := hs.callerMutex
    waiterMutex := by
      rw [hs.waiterMutex, hw]
      rfl
    joined := by
      rw [hs.joined, hw]
      rfl
    reaped _ := ⟨hexited, hcancel, if_pos hexited⟩
    early h := by
      have habsent := hs.early h
      rw [hw] at habsent
      cases habsent
    late h := by simp [hs.notLate (by simp [hw])] at h
    cancelled := hs.cancelled
    connectCancel := hs.connectCancel
    connectAbsent h := by simp [hexited] at h
    connectJoins _ := by simp [hjoins, JoinSynchrony.reaped]
    waiterJoins := hs.waiterJoins
    returned r h := by
      have hc : s.caller = .returned r := h
      rw [hc] at hreturned
      cases hreturned }

theorem waiterStep_invariant (hs : Invariant w s) {action : WaiterAction}
    (h : waiterStep w s action = some t) : Invariant w t := by
  cases waiterStep_moves h with
  | connectJoined hw _ ht => exact hs.reap hw ht
  | connectGone => exact hs.misuse
  | cancelled hw =>
      apply hs.waiterMoves <;> simp [hw, WaiterPc.terminated, JoinSynchrony.reaped, hs.joined,
        announced, hs.callerMutex, hs.waiterMutex, waiterHolds]
  | locked hw hm =>
      have hcaller := hs.callerMutex
      rw [hm] at hcaller
      apply hs.waiterMoves <;> simp [hw, WaiterPc.terminated, JoinSynchrony.reaped, hs.joined,
        announced, ← hcaller, waiterHolds]
  | sets hw =>
      apply hs.waiterMoves <;> simp [hw, WaiterPc.terminated, JoinSynchrony.reaped,
        announced, hs.callerMutex, hs.waiterMutex, waiterHolds]
  | unlocked hw =>
      have hcaller := hs.callerMutex
      rw [hs.waiterMutex.mpr (by rw [hw]; rfl)] at hcaller
      apply hs.waiterMoves <;> simp [hw, WaiterPc.terminated, JoinSynchrony.reaped, hs.joined,
        announced, ← hcaller, waiterHolds]
  | signals hw =>
      apply hs.waiterMoves <;> simp [hw, WaiterPc.terminated, JoinSynchrony.reaped, hs.joined,
        announced, hs.callerMutex, hs.waiterMutex, waiterHolds]

theorem connectStep_invariant (hs : Invariant w s) {action : ConnectAction}
    (h : connectStep w s action = some t) : Invariant w t := by
  cases action with
  | work =>
      simp only [connectStep] at h
      split at h
      · rename_i done hc
        obtain ⟨-, rfl⟩ := of_guard h
        exact hs.connectMoves hc (by simp) (by simp)
      · cases h
  | exit =>
      obtain ⟨hc, rfl⟩ := of_guard h
      exact hs.connectMoves hc (by simp) (by simp)
  | cancelled =>
      simp only [connectStep] at h
      split at h
      · rename_i done hc
        obtain ⟨⟨-, hcancel⟩, rfl⟩ := of_guard h
        exact hs.connectMoves hc (by simp) fun _ _ => hcancel
      · cases h

theorem Invariant.connectCreated (hs : Invariant w s) (hc : s.caller = .start) :
    Invariant w { s with caller := .created, connect := .running 0 } := by
  have hwaiter := hs.early (by rw [hc]; rfl)
  have hcancel := hs.notCancelling (by rw [hc]; rfl) (by rw [hc]; rfl)
  exact {
    callerMutex := by simp [hs.callerMutex, hc, holdsMutex]
    waiterMutex := hs.waiterMutex
    joined := hs.joined
    reaped h := by simp [hwaiter, JoinSynchrony.reaped] at h
    early _ := hwaiter
    late h := by cases h
    cancelled d h := by cases h
    connectCancel h := by simp [hcancel] at h
    connectAbsent h := by cases h
    connectJoins _ := hs.connectJoins (by rw [hc]; rfl)
    waiterJoins _ := by simpa [hc, JoinSynchrony.late] using hs.waiterJoins (by rw [hc]; rfl)
    returned r h := by cases h }

theorem Invariant.connectFailed (hs : Invariant w s) (hc : s.caller = .start) :
    Invariant w { s with caller := .returned (-1) } := by
  have hwaiter := hs.early (by rw [hc]; rfl)
  exact {
    callerMutex := by simp [hs.callerMutex, hc, holdsMutex]
    waiterMutex := hs.waiterMutex
    joined := hs.joined
    reaped := hs.reaped
    early h := by cases h
    late h := by cases h
    cancelled := hs.cancelled
    connectCancel _ := .inr rfl
    connectAbsent _ := ⟨hwaiter, .inr rfl⟩
    connectJoins h := by cases h
    waiterJoins h := by cases h
    returned _ _ := .inl hwaiter }

theorem Invariant.waiterCreated (hs : Invariant w s) (hc : s.caller = .locked) :
    Invariant w { s with caller := .ready, waiter := .joining } := by
  have hwaiter := hs.early (by rw [hc]; rfl)
  have hcancel := hs.notCancelling (by rw [hc]; rfl) (by rw [hc]; rfl)
  exact {
    callerMutex := by simp [hs.callerMutex, hc, holdsMutex]
    waiterMutex := by simp [hs.waiterMutex, hwaiter, waiterHolds]
    joined := by simp [hs.joined, hwaiter, announced]
    reaped h := by cases h
    early h := by cases h
    late h := by cases h
    cancelled := hs.cancelled
    connectCancel h := by simp [hcancel] at h
    connectAbsent h := by
      obtain ⟨-, h | h⟩ := hs.connectAbsent h <;> rw [hc] at h <;> cases h
    connectJoins _ := by
      simpa [hwaiter, JoinSynchrony.reaped] using hs.connectJoins (by rw [hc]; rfl)
    waiterJoins _ := by simpa [hc, JoinSynchrony.late] using hs.waiterJoins (by rw [hc]; rfl)
    returned r h := by cases h }

theorem Invariant.tested (hs : Invariant w s) (ret : Ret) (hmutex : s.mutex ≠ some .waiter)
    (hbefore : midway s.caller = true) : Invariant w (s.tested ret) := by
  have hwaiter : some Owner.caller = some .waiter ↔ waiterHolds s.waiter = true := by
    rw [← hs.waiterMutex]
    exact iff_of_false (by simp) hmutex
  rw [State.tested]
  split
  · exact hs.callerMoves s.waiterCancel hbefore rfl (by simp [JoinSynchrony.early])
      (by simp [holdsMutex]) hwaiter
  · exact hs.callerMoves s.waiterCancel hbefore rfl (by simp [JoinSynchrony.early])
      (by simp [holdsMutex]) hwaiter

theorem Invariant.reaped_of_joined (hs : Invariant w s) (hj : s.joined = true) :
    JoinSynchrony.reaped s.waiter = true := by
  have hannounced := hs.joined.symm.trans hj
  cases hw : s.waiter with
  | unlocking | signalling | exited => rfl
  | absent | joining | locking | setting | cancelled =>
      rw [hw] at hannounced
      cases hannounced

theorem Invariant.there_of_joined (hs : Invariant w s) (hj : s.joined = true) :
    s.waiter ≠ .absent := by
  intro hw
  rw [hs.joined, hw] at hj
  cases hj

theorem Invariant.cancelled_of_not_joined (hs : Invariant w s) (hj : s.joined = false)
    (ht : s.waiter.terminated = true) : s.waiter = .cancelled := by
  have hannounced := hs.joined.symm.trans hj
  cases hw : s.waiter with
  | cancelled => rfl
  | exited =>
      rw [hw] at hannounced
      cases hannounced
  | absent | joining | locking | setting | unlocking | signalling =>
      rw [hw] at ht
      cases ht

theorem afterJoin_joined (hs : Invariant w s) (hj : s.joined = true) :
    s.afterJoin = { s with
      mutex := none, waiterJoins := s.waiterJoins + 1, caller := .returned w.result } := by
  rw [State.afterJoin]
  simp only [hj, if_true, (hs.reaped (hs.reaped_of_joined hj)).2.2]

theorem afterJoin_timedOut (hj : s.joined = false) :
    s.afterJoin = { s with
      mutex := none, waiterJoins := s.waiterJoins + 1, caller := .timedOut } := by
  rw [State.afterJoin]
  simp only [hj, Bool.false_eq_true, if_false]

theorem Invariant.afterJoin (hs : Invariant w s) {ret : Ret} (hc : s.caller = .joining ret)
    (ht : s.waiter.terminated = true) : Invariant w s.afterJoin := by
  have hreturned : isReturned s.caller = false := by rw [hc]; rfl
  have hlate : JoinSynchrony.late s.caller = false := by rw [hc]; rfl
  have hcancel := hs.notCancelling hlate hreturned
  have hwaiterJoins : s.waiterJoins = 0 := by
    rw [hs.waiterJoins hreturned, hlate]
    rfl
  have hholds : waiterHolds s.waiter = false := by
    cases hw : s.waiter with
    | exited | cancelled => rfl
    | _ => rw [hw] at ht; cases ht
  have hthere : s.connect ≠ .absent := fun h => by
    obtain ⟨-, h | h⟩ := hs.connectAbsent h <;> rw [hc] at h <;> cases h
  cases hj : s.joined with
  | true =>
      have hreaped := hs.reaped_of_joined hj
      obtain ⟨hexited, -, -⟩ := hs.reaped hreaped
      have hconnectJoins := hs.connectJoins hreturned
      rw [hreaped] at hconnectJoins
      rw [afterJoin_joined hs hj]
      exact {
        callerMutex := by simp [holdsMutex]
        waiterMutex := by simp [hholds]
        joined := hs.joined
        reaped := hs.reaped
        early h := by cases h
        late h := by cases h
        cancelled := hs.cancelled
        connectCancel _ := .inr rfl
        connectAbsent h := absurd h hthere
        connectJoins h := by cases h
        waiterJoins h := by cases h
        returned r h := by
          cases h
          refine .inr ⟨ht, ?_, ?_, hconnectJoins, .inl ⟨hj, hexited, hcancel, rfl⟩⟩
          · simp [hexited, ConnectPc.terminated]
          · simp [hwaiterJoins] }
  | false =>
      have hwaiter := hs.cancelled_of_not_joined hj ht
      rw [afterJoin_timedOut hj]
      exact {
        callerMutex := by simp [holdsMutex]
        waiterMutex := by simp [hholds]
        joined := hs.joined
        reaped := hs.reaped
        early h := by cases h
        late _ := hwaiter
        cancelled := hs.cancelled
        connectCancel h := by simp [hcancel] at h
        connectAbsent h := absurd h hthere
        connectJoins _ := hs.connectJoins hreturned
        waiterJoins _ := by simp [hwaiterJoins, JoinSynchrony.late]
        returned r h := by cases h }

theorem Invariant.cancelConnect (hs : Invariant w s) (hc : s.caller = .timedOut) :
    Invariant w { s with caller := .joiningConnect, connectCancel := true } := by
  have hwaiter := hs.late (by rw [hc]; rfl)
  exact {
    callerMutex := by simp [hs.callerMutex, hc, holdsMutex]
    waiterMutex := hs.waiterMutex
    joined := hs.joined
    reaped h := by simp [hwaiter, JoinSynchrony.reaped] at h
    early h := by cases h
    late _ := hwaiter
    cancelled _ _ := rfl
    connectCancel _ := .inl rfl
    connectAbsent h := by
      have hthere := (hs.connectAbsent h).1
      rw [hwaiter] at hthere
      cases hthere
    connectJoins _ := hs.connectJoins (by rw [hc]; rfl)
    waiterJoins _ := by simpa [hc, JoinSynchrony.late] using hs.waiterJoins (by rw [hc]; rfl)
    returned r h := by cases h }

theorem Invariant.joinConnect (hs : Invariant w s) (hc : s.caller = .joiningConnect)
    (ht : s.connect.terminated = true) :
    Invariant w { s with connectJoins := s.connectJoins + 1, caller := .returned (-1) } := by
  have hwaiter := hs.late (by rw [hc]; rfl)
  have hconnectJoins := hs.connectJoins (by rw [hc]; rfl)
  have hwaiterJoins := hs.waiterJoins (by rw [hc]; rfl)
  rw [hwaiter] at hconnectJoins
  rw [hc] at hwaiterJoins
  exact {
    callerMutex := by simp [hs.callerMutex, hc, holdsMutex]
    waiterMutex := hs.waiterMutex
    joined := hs.joined
    reaped := hs.reaped
    early h := by cases h
    late h := by cases h
    cancelled := hs.cancelled
    connectCancel _ := .inr rfl
    connectAbsent h := by
      have hthere := (hs.connectAbsent h).1
      rw [hwaiter] at hthere
      cases hthere
    connectJoins h := by cases h
    waiterJoins h := by cases h
    returned r h := by
      cases h
      refine .inr ⟨by rw [hwaiter]; rfl, ht, hwaiterJoins, ?_, .inr ⟨?_, rfl⟩⟩
      · simp [hconnectJoins, JoinSynchrony.reaped]
      · rw [hs.joined, hwaiter]
        rfl }

theorem callerStep_invariant (hs : Invariant w s) {action : CallerAction}
    (h : callerStep s action = some t) : Invariant w t := by
  cases callerStep_moves h with
  | connectCreated hc => exact hs.connectCreated hc
  | connectFailed hc => exact hs.connectFailed hc
  | locked hc hm =>
      have hwaiter := hs.early (by rw [hc]; rfl)
      exact hs.callerMoves s.waiterCancel (by rw [hc]; rfl) rfl (by simp [hc, JoinSynchrony.early])
        (by simp [holdsMutex]) (by simp [hwaiter, waiterHolds])
  | waiterCreated hc => exact hs.waiterCreated hc
  | waiterFailed hc =>
      exact hs.callerMoves s.waiterCancel (by rw [hc]; rfl) rfl (by simp [JoinSynchrony.early])
        (by simp [hs.callerMutex, hc, holdsMutex]) hs.waiterMutex
  | waits hc =>
      have hwaiter := hs.waiterMutex
      rw [hs.callerMutex.mpr (by rw [hc]; rfl)] at hwaiter
      exact hs.callerMoves s.waiterCancel (by rw [hc]; rfl) rfl (by simp [JoinSynchrony.early])
        (by simp [holdsMutex]) (by simp [← hwaiter])
  | waitFails hc =>
      have hmutex := hs.callerMutex.mpr (by rw [hc]; rfl)
      exact hs.tested .error (by simp [hmutex]) (by rw [hc]; rfl)
  | woken hc | expired hc =>
      exact hs.callerMoves s.waiterCancel (by rw [hc]; rfl) rfl (by simp [JoinSynchrony.early])
        (by simp [hs.callerMutex, hc, holdsMutex]) hs.waiterMutex
  | reacquired ret hc hmutex => exact hs.tested ret (by simp [hmutex]) (by rw [hc]; rfl)
  | waiterCancelled ret hc =>
      exact hs.callerMoves true (by rw [hc]; rfl) rfl (by simp [JoinSynchrony.early])
        (by simp [hs.callerMutex, hc, holdsMutex]) hs.waiterMutex
  | waiterJoined ret hc _ hended => exact hs.afterJoin hc hended
  | connectCancelled hc => exact hs.cancelConnect hc
  | connectJoined hc _ hended => exact hs.joinConnect hc hended
  | waiterMissing | waiterGone | connectMissing | connectGone => exact hs.misuse

theorem step_invariant (hs : Invariant w s) {a : Action} (h : step w s a = some t) :
    Invariant w t := by
  cases a with
  | caller action => exact callerStep_invariant hs (callerStep_of_step h)
  | waiter action => exact waiterStep_invariant hs (waiterStep_of_step h)
  | connect action => exact connectStep_invariant hs (connectStep_of_step h)

theorem run_invariant {as : List Action} (h : run (step w) TimedJoin.start as = some s) :
    Invariant w s :=
  run_preserves (fun _ _ _ hs h => step_invariant hs h) (invariant_start w) h

theorem Invariant.synchronised (hs : Invariant w s) (hthreads : s.waiter ≠ .absent) {r : Int}
    (hr : s.caller = .returned r) : Synchronised w s r :=
  (hs.returned r hr).resolve_left hthreads

theorem Synchronised.stopped {r : Int} (h : Synchronised w s r) (hr : s.caller = .returned r)
    (a : Action) : step w s a = none := by
  have hwaiter := h.waiter
  have hconnect := h.connect
  unfold step
  split
  · rfl
  · cases a with
    | caller action => cases action <;> simp [callerStep, hr]
    | waiter action =>
        cases hw : s.waiter with
        | exited | cancelled => cases action <;> simp [waiterStep, hw]
        | _ => rw [hw] at hwaiter; cases hwaiter
    | connect action =>
        cases hc : s.connect with
        | exited | cancelled => cases action <;> simp [connectStep, hc]
        | absent | running => rw [hc] at hconnect; cases hconnect

end Steps

/-- The operations of _vxi11_connect that a thread has done. -/
def performed (w : Work) : ConnectPc → Nat
  | .absent => 0
  | .running done | .cancelled done => done
  | .exited => w.operations

/-- However the three threads are interleaved, when vxi11_connect has returned
the other two have ended, each joined once, and 0 is the connect thread's own
result. -/
theorem connect_synchronised (data : Vxi11Data) (name : Option String) (o : LinkOutcome)
    {as : List Action} {s : State}
    (h : run (step (work data name o)) TimedJoin.start as = some s) (hthreads : s.waiter ≠ .absent)
    {r : Int} (hr : s.caller = .returned r) :
    s.waiter.terminated = true ∧ s.connect.terminated = true ∧
      s.waiterJoins = 1 ∧ s.connectJoins = 1 ∧ (∀ a, step (work data name o) s a = none) ∧
      (r = 0 → s.connect = .exited ∧ s.connectCancel = false ∧ (_vxi11Connect data name o).1 = 0) := by
  have hsync := (run_invariant h).synchronised hthreads hr
  refine ⟨hsync.waiter, hsync.connect, hsync.waiterJoins, hsync.connectJoins, hsync.stopped hr, ?_⟩
  rintro rfl
  rcases hsync.result with ⟨-, hexited, hcancel, hresult⟩ | ⟨-, hresult⟩
  · exact ⟨hexited, hcancel, hresult.symm⟩
  · cases hresult

def inTime : List Action :=
  [.caller (.createConnect true), .caller .lock, .caller (.createWaiter true), .caller .wait,
    .connect .work, .connect .work, .connect .exit, .waiter .join, .waiter .lock, .waiter .set,
    .waiter .unlock, .waiter .signal, .caller .wake, .caller .reacquire, .caller .cancelWaiter,
    .caller .joinWaiter]

def linked : LinkOutcome := ⟨some 1, .success, default⟩

def served : State where
  caller := .returned 0
  waiter := .exited
  connect := .exited
  mutex := none
  joined := true
  status := some 0
  waiterCancel := true
  connectCancel := false
  waiterJoins := 1
  connectJoins := 1
  misused := false

theorem run_inTime : run (step (work default none linked)) TimedJoin.start inTime = some served := by
  decide

theorem connect_synchronised_inTime :
    served.waiter.terminated = true ∧ served.connect.terminated = true ∧
      served.waiterJoins = 1 ∧ served.connectJoins = 1 ∧
      (∀ a, step (work default none linked) served a = none) ∧
      ((0 : Int) = 0 → served.connect = .exited ∧ served.connectCancel = false ∧
        (_vxi11Connect default none linked).1 = 0) :=
  connect_synchronised default none linked run_inTime (by decide) rfl

end LibLxi.JoinSynchrony

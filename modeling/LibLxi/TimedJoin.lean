import LibLxi.Machine
import LibLxi.Vxi11

namespace LibLxi.TimedJoin

open Machine Vxi11

/-- What ends the wait loop or lets it go on: a wake-up of any kind, the
deadline, or another error of pthread_cond_timedwait or pthread_create. -/
inductive Ret
  | woken
  | timedOut
  | error
  deriving DecidableEq, Repr

/-- The caller, from behind clock_gettime on. It holds args.mtx from locked to
joining, but for the time in waiting and reacquiring. -/
inductive CallerPc
  | start
  | created
  | locked
  | ready
  | waiting
  | reacquiring (ret : Ret)
  | leaving (ret : Ret)
  | joining (ret : Ret)
  | timedOut
  | joiningConnect
  | returned (ret : Int)
  deriving DecidableEq, Repr

inductive WaiterPc
  | absent
  | joining
  | locking
  | setting
  | unlocking
  | signalling
  | exited
  | cancelled
  deriving DecidableEq, Repr

inductive ConnectPc
  | absent
  | running (done : Nat)
  | exited
  | cancelled (done : Nat)
  deriving DecidableEq, Repr

inductive Owner
  | caller
  | waiter
  deriving DecidableEq, Repr

/-- status is what pthread_join stored through res. misused tells that
pthread_cancel or pthread_join was applied to what is not a thread, or that
there was no status to read. -/
structure State where
  caller : CallerPc
  waiter : WaiterPc
  connect : ConnectPc
  mutex : Option Owner
  joined : Bool
  status : Option Int
  waiterCancel : Bool
  connectCancel : Bool
  waiterJoins : Nat
  connectJoins : Nat
  misused : Bool
  deriving DecidableEq, Repr

def start : State where
  caller := .start
  waiter := .absent
  connect := .absent
  mutex := none
  joined := false
  status := none
  waiterCancel := false
  connectCancel := false
  waiterJoins := 0
  connectJoins := 0
  misused := false

/-- What the connect thread has to do: the operations of _vxi11_connect, each of
them a cancellation point, and its result. -/
structure Work where
  operations : Nat
  result : Int

def work (data : Vxi11Data) (name : Option String) (o : LinkOutcome) : Work :=
  ⟨(_vxi11Connect data name o).2.2.length, (_vxi11Connect data name o).1⟩

inductive CallerAction
  | createConnect (ok : Bool)
  | lock
  | createWaiter (ok : Bool)
  | wait
  | waitFails
  | wake
  | expire
  | reacquire
  | cancelWaiter
  | joinWaiter
  | cancelConnect
  | joinConnect
  deriving DecidableEq, Repr

inductive WaiterAction
  | join
  | cancelled
  | lock
  | set
  | unlock
  | signal
  deriving DecidableEq, Repr

inductive ConnectAction
  | work
  | exit
  | cancelled
  deriving DecidableEq, Repr

inductive Action
  | caller (action : CallerAction)
  | waiter (action : WaiterAction)
  | connect (action : ConnectAction)
  deriving DecidableEq, Repr

def WaiterPc.terminated : WaiterPc → Bool
  | .exited | .cancelled => true
  | _ => false

def ConnectPc.terminated : ConnectPc → Bool
  | .exited | .cancelled _ => true
  | _ => false

def State.misuse (s : State) : State := { s with misused := true }

def State.tested (s : State) (ret : Ret) : State :=
  { s with
    mutex := some .caller
    caller := if s.joined = false ∧ ret ≠ .timedOut then .ready else .leaving ret }

/-- The end of _pthread_timedjoin and what vxi11_connect makes of its result. -/
def State.afterJoin (s : State) : State :=
  let s' : State := { s with mutex := none, waiterJoins := s.waiterJoins + 1 }
  if s.joined then
    match s.status with
    | some r => { s' with caller := .returned r }
    | none => s'.misuse
  else { s' with caller := .timedOut }

def State.waiterThere (s : State) : Bool := s.waiter ≠ .absent ∧ s.waiterJoins = 0

def State.connectThere (s : State) : Bool := s.connect ≠ .absent ∧ s.connectJoins = 0

def callerStep (s : State) : CallerAction → Option State
  | .createConnect ok =>
      if s.caller = .start then
        some (if ok then { s with caller := .created, connect := .running 0 }
          else { s with caller := .returned (-1) })
      else none
  | .lock =>
      if s.caller = .created ∧ s.mutex = none then
        some { s with caller := .locked, mutex := some .caller }
      else none
  | .createWaiter ok =>
      if s.caller = .locked then
        some (if ok then { s with caller := .ready, waiter := .joining }
          else { s with caller := .leaving .error })
      else none
  | .wait => if s.caller = .ready then some { s with caller := .waiting, mutex := none } else none
  -- any other error leaves args.mtx locked all the time
  | .waitFails => if s.caller = .ready then some (s.tested .error) else none
  | .wake => if s.caller = .waiting then some { s with caller := .reacquiring .woken } else none
  | .expire => if s.caller = .waiting then some { s with caller := .reacquiring .timedOut } else none
  | .reacquire =>
      match s.caller with
      | .reacquiring ret => if s.mutex = none then some (s.tested ret) else none
      | _ => none
  | .cancelWaiter =>
      match s.caller with
      | .leaving ret =>
          some (if s.waiterThere then { s with caller := .joining ret, waiterCancel := true }
            else s.misuse)
      | _ => none
  | .joinWaiter =>
      match s.caller with
      | .joining _ =>
          if s.waiterThere = false then some s.misuse
          else if s.waiter.terminated then some s.afterJoin
          else none
      | _ => none
  | .cancelConnect =>
      if s.caller = .timedOut then
        some (if s.connectThere then { s with caller := .joiningConnect, connectCancel := true }
          else s.misuse)
      else none
  | .joinConnect =>
      if s.caller = .joiningConnect then
        if s.connectThere = false then some s.misuse
        else if s.connect.terminated then
          some { s with connectJoins := s.connectJoins + 1, caller := .returned (-1) }
        else none
      else none

def waiterStep (w : Work) (s : State) : WaiterAction → Option State
  | .join =>
      if s.waiter = .joining then
        if s.connectThere = false then some s.misuse
        else if s.connect.terminated then
          some { s with
            waiter := .locking
            connectJoins := s.connectJoins + 1
            status := if s.connect = .exited then some w.result else none }
        else none
      else none
  | .cancelled =>
      if s.waiter = .joining ∧ s.waiterCancel then some { s with waiter := .cancelled } else none
  | .lock =>
      if s.waiter = .locking ∧ s.mutex = none then
        some { s with waiter := .setting, mutex := some .waiter }
      else none
  | .set =>
      if s.waiter = .setting then some { s with waiter := .unlocking, joined := true } else none
  | .unlock =>
      if s.waiter = .unlocking then some { s with waiter := .signalling, mutex := none } else none
  | .signal => if s.waiter = .signalling then some { s with waiter := .exited } else none

def connectStep (w : Work) (s : State) : ConnectAction → Option State
  | .work =>
      match s.connect with
      | .running done =>
          if done < w.operations then some { s with connect := .running (done + 1) } else none
      | _ => none
  | .exit => if s.connect = .running w.operations then some { s with connect := .exited } else none
  | .cancelled =>
      match s.connect with
      | .running done =>
          if done < w.operations ∧ s.connectCancel then some { s with connect := .cancelled done }
          else none
      | _ => none

def step (w : Work) (s : State) (a : Action) : Option State :=
  if s.misused then none
  else
    match a with
    | .caller action => callerStep s action
    | .waiter action => waiterStep w s action
    | .connect action => connectStep w s action

section Threads

variable {w : Work} {s t : State}

theorem callerStep_of_step {action : CallerAction} (h : step w s (.caller action) = some t) :
    callerStep s action = some t :=
  (Option.ite_none_left_eq_some.mp h).2

theorem waiterStep_of_step {action : WaiterAction} (h : step w s (.waiter action) = some t) :
    waiterStep w s action = some t :=
  (Option.ite_none_left_eq_some.mp h).2

theorem connectStep_of_step {action : ConnectAction} (h : step w s (.connect action) = some t) :
    connectStep w s action = some t :=
  (Option.ite_none_left_eq_some.mp h).2

end Threads

inductive CallerMoves (s : State) : CallerAction → State → Prop
  | connectCreated (hcaller : s.caller = .start) :
      CallerMoves s (.createConnect true) { s with caller := .created, connect := .running 0 }
  | connectFailed (hcaller : s.caller = .start) :
      CallerMoves s (.createConnect false) { s with caller := .returned (-1) }
  | locked (hcaller : s.caller = .created) (hmutex : s.mutex = none) :
      CallerMoves s .lock { s with caller := .locked, mutex := some .caller }
  | waiterCreated (hcaller : s.caller = .locked) :
      CallerMoves s (.createWaiter true) { s with caller := .ready, waiter := .joining }
  | waiterFailed (hcaller : s.caller = .locked) :
      CallerMoves s (.createWaiter false) { s with caller := .leaving .error }
  | waits (hcaller : s.caller = .ready) :
      CallerMoves s .wait { s with caller := .waiting, mutex := none }
  | waitFails (hcaller : s.caller = .ready) : CallerMoves s .waitFails (s.tested .error)
  | woken (hcaller : s.caller = .waiting) :
      CallerMoves s .wake { s with caller := .reacquiring .woken }
  | expired (hcaller : s.caller = .waiting) :
      CallerMoves s .expire { s with caller := .reacquiring .timedOut }
  | reacquired (ret : Ret) (hcaller : s.caller = .reacquiring ret) (hmutex : s.mutex = none) :
      CallerMoves s .reacquire (s.tested ret)
  | waiterCancelled (ret : Ret) (hcaller : s.caller = .leaving ret) (hthere : s.waiterThere = true) :
      CallerMoves s .cancelWaiter { s with caller := .joining ret, waiterCancel := true }
  | waiterMissing (ret : Ret) (hcaller : s.caller = .leaving ret) (hthere : s.waiterThere = false) :
      CallerMoves s .cancelWaiter s.misuse
  | waiterJoined (ret : Ret) (hcaller : s.caller = .joining ret) (hthere : s.waiterThere = true)
      (hended : s.waiter.terminated = true) : CallerMoves s .joinWaiter s.afterJoin
  | waiterGone (ret : Ret) (hcaller : s.caller = .joining ret) (hthere : s.waiterThere = false) :
      CallerMoves s .joinWaiter s.misuse
  | connectCancelled (hcaller : s.caller = .timedOut) (hthere : s.connectThere = true) :
      CallerMoves s .cancelConnect { s with caller := .joiningConnect, connectCancel := true }
  | connectMissing (hcaller : s.caller = .timedOut) (hthere : s.connectThere = false) :
      CallerMoves s .cancelConnect s.misuse
  | connectJoined (hcaller : s.caller = .joiningConnect) (hthere : s.connectThere = true)
      (hended : s.connect.terminated = true) :
      CallerMoves s .joinConnect
        { s with connectJoins := s.connectJoins + 1, caller := .returned (-1) }
  | connectGone (hcaller : s.caller = .joiningConnect) (hthere : s.connectThere = false) :
      CallerMoves s .joinConnect s.misuse

theorem callerStep_moves {s t : State} {action : CallerAction}
    (h : callerStep s action = some t) : CallerMoves s action t := by
  cases action with
  | createConnect ok =>
      obtain ⟨hc, rfl⟩ := of_guard h
      cases ok with
      | true => exact .connectCreated hc
      | false => exact .connectFailed hc
  | lock =>
      obtain ⟨⟨hc, hm⟩, rfl⟩ := of_guard h
      exact .locked hc hm
  | createWaiter ok =>
      obtain ⟨hc, rfl⟩ := of_guard h
      cases ok with
      | true => exact .waiterCreated hc
      | false => exact .waiterFailed hc
  | wait =>
      obtain ⟨hc, rfl⟩ := of_guard h
      exact .waits hc
  | waitFails =>
      obtain ⟨hc, rfl⟩ := of_guard h
      exact .waitFails hc
  | wake =>
      obtain ⟨hc, rfl⟩ := of_guard h
      exact .woken hc
  | expire =>
      obtain ⟨hc, rfl⟩ := of_guard h
      exact .expired hc
  | reacquire =>
      simp only [callerStep] at h
      split at h
      · rename_i ret hc
        obtain ⟨hm, rfl⟩ := of_guard h
        exact .reacquired ret hc hm
      · cases h
  | cancelWaiter =>
      simp only [callerStep] at h
      split at h
      · rename_i ret hc
        cases h
        cases hthere : s.waiterThere with
        | true => exact .waiterCancelled ret hc hthere
        | false => exact .waiterMissing ret hc hthere
      · cases h
  | joinWaiter =>
      simp only [callerStep] at h
      split at h
      · rename_i ret hc
        cases hthere : s.waiterThere with
        | true =>
            rw [if_neg (by simp [hthere])] at h
            obtain ⟨hended, rfl⟩ := of_guard h
            exact .waiterJoined ret hc hthere hended
        | false =>
            rw [if_pos hthere] at h
            cases h
            exact .waiterGone ret hc hthere
      · cases h
  | cancelConnect =>
      obtain ⟨hc, rfl⟩ := of_guard h
      cases hthere : s.connectThere with
      | true => exact .connectCancelled hc hthere
      | false => exact .connectMissing hc hthere
  | joinConnect =>
      simp only [callerStep] at h
      split at h
      · rename_i hc
        cases hthere : s.connectThere with
        | true =>
            rw [if_neg (by simp [hthere])] at h
            obtain ⟨hended, rfl⟩ := of_guard h
            exact .connectJoined hc hthere hended
        | false =>
            rw [if_pos hthere] at h
            cases h
            exact .connectGone hc hthere
      · cases h

inductive WaiterMoves (w : Work) (s : State) : WaiterAction → State → Prop
  | connectJoined (hwaiter : s.waiter = .joining) (hthere : s.connectThere = true)
      (hended : s.connect.terminated = true) :
      WaiterMoves w s .join
        { s with
          waiter := .locking
          connectJoins := s.connectJoins + 1
          status := if s.connect = .exited then some w.result else none }
  | connectGone (hwaiter : s.waiter = .joining) (hthere : s.connectThere = false) :
      WaiterMoves w s .join s.misuse
  | cancelled (hwaiter : s.waiter = .joining) :
      WaiterMoves w s .cancelled { s with waiter := .cancelled }
  | locked (hwaiter : s.waiter = .locking) (hmutex : s.mutex = none) :
      WaiterMoves w s .lock { s with waiter := .setting, mutex := some .waiter }
  | sets (hwaiter : s.waiter = .setting) :
      WaiterMoves w s .set { s with waiter := .unlocking, joined := true }
  | unlocked (hwaiter : s.waiter = .unlocking) :
      WaiterMoves w s .unlock { s with waiter := .signalling, mutex := none }
  | signals (hwaiter : s.waiter = .signalling) :
      WaiterMoves w s .signal { s with waiter := .exited }

theorem waiterStep_moves {w : Work} {s t : State} {action : WaiterAction}
    (h : waiterStep w s action = some t) : WaiterMoves w s action t := by
  cases action with
  | join =>
      simp only [waiterStep] at h
      split at h
      · rename_i hw
        cases hthere : s.connectThere with
        | true =>
            rw [if_neg (by simp [hthere])] at h
            obtain ⟨hended, rfl⟩ := of_guard h
            exact .connectJoined hw hthere hended
        | false =>
            rw [if_pos hthere] at h
            cases h
            exact .connectGone hw hthere
      · cases h
  | cancelled =>
      obtain ⟨⟨hw, -⟩, rfl⟩ := of_guard h
      exact .cancelled hw
  | lock =>
      obtain ⟨⟨hw, hm⟩, rfl⟩ := of_guard h
      exact .locked hw hm
  | set =>
      obtain ⟨hw, rfl⟩ := of_guard h
      exact .sets hw
  | unlock =>
      obtain ⟨hw, rfl⟩ := of_guard h
      exact .unlocked hw
  | signal =>
      obtain ⟨hw, rfl⟩ := of_guard h
      exact .signals hw

theorem waiterStep_frame {w : Work} {s t : State} {action : WaiterAction}
    (h : waiterStep w s action = some t) :
    t.caller = s.caller ∧ t.connect = s.connect ∧ t.waiter ≠ .absent := by
  cases waiterStep_moves h with
  | connectGone hw => exact ⟨rfl, rfl, by simp [State.misuse, hw]⟩
  | _ => exact ⟨rfl, rfl, by simp⟩

theorem connectStep_moves {w : Work} {s t : State} {action : ConnectAction}
    (h : connectStep w s action = some t) :
    ∃ done c, s.connect = .running done ∧ t = { s with connect := c } ∧
      (action = .cancelled ∧ done < w.operations ∧ c = .cancelled done ∨
        action ≠ .cancelled ∧ ∀ d, c ≠ .cancelled d) := by
  cases action with
  | work =>
      simp only [connectStep] at h
      split at h
      · rename_i done hc
        obtain ⟨-, rfl⟩ := of_guard h
        exact ⟨done, _, hc, rfl, .inr ⟨by simp, by simp⟩⟩
      · cases h
  | exit =>
      obtain ⟨hc, rfl⟩ := of_guard h
      exact ⟨_, _, hc, rfl, .inr ⟨by simp, by simp⟩⟩
  | cancelled =>
      simp only [connectStep] at h
      split at h
      · rename_i done hc
        obtain ⟨⟨hdone, -⟩, rfl⟩ := of_guard h
        exact ⟨done, _, hc, rfl, .inl ⟨rfl, hdone, rfl⟩⟩
      · cases h

end LibLxi.TimedJoin

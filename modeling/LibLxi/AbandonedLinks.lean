import LibLxi.Descriptors
import LibLxi.JoinDeadlock

namespace LibLxi.AbandonedLinks

open Descriptors JoinSynchrony Machine TimedJoin Vxi11
open JoinDeadlock (connectThere_of_late waiterThere_of)

def clientUse : Event → Option (Use Client)
  | .clntCreate client => client.map .opened
  | .clntDestroy client => client.map .closed
  | _ => none

/-- The RPC calls of a connect with what the device does with the create_link that
gets to it: the link it allocates, if it does not refuse. The client hears of it
only in a reply that arrives. -/
structure Exchange where
  outcome : LinkOutcome
  granted : Option Int32
  replied : outcome.status = .success →
    granted = if outcome.linkResp.error = 0 then some outcome.linkResp.lid else none

def linkUse (x : Exchange) : Event → Option (Use Int32)
  | .createLink _ _ => x.granted.map .opened
  | .destroyLink _ lid => some (.closed lid)
  | _ => none

/-- The operations that have had their effect on the device: a thread that is
cancelled inside one may have sent its request already. -/
def begun (reached : Bool) (w : Work) : ConnectPc → Nat
  | .cancelled done => if reached then done + 1 else done
  | c => performed w c

section Left

variable (data : Vxi11Data) (name : Option String) (x : Exchange) (reached : Bool)
  (c : ConnectPc)

def openClients : Finset Client :=
  openAfter ∅ (((_vxi11Connect data name x.outcome).2.2.take
    (performed (work data name x.outcome) c)).filterMap clientUse)

def openLinks : Finset Int32 :=
  openAfter ∅ (((_vxi11Connect data name x.outcome).2.2.take
    (begun reached (work data name x.outcome) c)).filterMap (linkUse x))

def stored : Vxi11Data := abandon data (performed (work data name x.outcome) c) x.outcome

/-- What a vxi11_connect that returns r owes its caller, once the connect thread
has ended like this. -/
structure Settled (r : Int) : Prop where
  failed : r = -1 → openClients data name x c = ∅ ∧ openLinks data name x reached c = ∅
  connected : r = 0 → ∃ client, (stored data name x c).rpcClient = some client ∧
    openClients data name x c = {client} ∧
    openLinks data name x reached c = {(stored data name x c).linkResp.lid}

end Left

def NoLink (x : Exchange) : Prop :=
  x.outcome.clntCreate = none ∨ x.outcome.status ≠ .success ∧ x.granted = none

def Delivered (x : Exchange) : Prop :=
  x.outcome.clntCreate ≠ none ∧ x.outcome.status = .success ∧ x.outcome.linkResp.error = 0

/-- The connect thread is cancelled only before it has a client; one that the
caller joins behind the deadline and that has ended by itself left no link; and
one that ends in time left none or brought a link that the device has granted. -/
def Careful (x : Exchange) (s : State) : Action → Prop
  | .connect .cancelled => s.connect = .running 0
  | .caller .joinConnect => s.connect = .exited → NoLink x
  | .caller .joinWaiter => s.joined = true → NoLink x ∨ Delivered x
  | _ => True

structure Clean (x : Exchange) (s : State) : Prop where
  cancelled : ∀ d, s.connect = .cancelled d → d = 0
  late : isReturned s.caller = true → s.joined = false → s.connect = .exited → NoLink x
  inTime : isReturned s.caller = true → s.joined = true → NoLink x ∨ Delivered x

structure Held (w : Work) (s : State) : Prop where
  toInvariant : Invariant w s
  start : s.caller = .start → s.connect = .absent
  cancelled : ∀ d, s.connect = .cancelled d → d < w.operations
  alone : isReturned s.caller = true → s.waiter = .absent →
    s.connect = .absent ∧ s.caller = .returned (-1)

theorem held_start (w : Work) : Held w TimedJoin.start where
  toInvariant := invariant_start w
  start _ := rfl
  cancelled d h := by cases h
  alone h := by cases h

inductive Moved (w : Work) (s : State) : CallerAction → State → Prop
  | created (hcaller : s.caller = .start) :
      Moved w s (.createConnect true) { s with caller := .created, connect := .running 0 }
  | uncreated (hcaller : s.caller = .start) :
      Moved w s (.createConnect false) { s with caller := .returned (-1) }
  | joined (hthere : s.waiter ≠ .absent) (hjoined : s.joined = true) :
      Moved w s .joinWaiter { s with
        mutex := none, waiterJoins := s.waiterJoins + 1, caller := .returned w.result }
  | abandoned (hthere : s.waiter ≠ .absent) (hjoined : s.joined = false) :
      Moved w s .joinConnect { s with
        connectJoins := s.connectJoins + 1, caller := .returned (-1) }
  | inside {action : CallerAction} {t : State} (hconnect : t.connect = s.connect)
      (hstart : t.caller ≠ .start) (hreturned : isReturned t.caller = false)
      (hjoinWaiter : action = .joinWaiter → s.joined = false) (hjoin : action ≠ .joinConnect) :
      Moved w s action t

section Steps

variable {w : Work} {s t : State} {x : Exchange}

theorem misuse_inside (hcaller : s.caller ≠ .start) (hreturned : isReturned s.caller = false)
    {action : CallerAction} (hjoinWaiter : action = .joinWaiter → s.joined = false)
    (hjoin : action ≠ .joinConnect) : Moved w s action s.misuse :=
  .inside rfl hcaller hreturned hjoinWaiter hjoin

theorem tested_inside (ret : Ret) {action : CallerAction} (hjoinWaiter : action ≠ .joinWaiter)
    (hjoin : action ≠ .joinConnect) : Moved w s action (s.tested ret) := by
  rw [State.tested]
  split <;> exact .inside rfl (by simp) rfl (fun h => absurd h hjoinWaiter) hjoin

theorem callerStep_moved (hs : Invariant w s) {action : CallerAction}
    (h : callerStep s action = some t) : Moved w s action t := by
  cases callerStep_moves h with
  | connectCreated hc => exact .created hc
  | connectFailed hc => exact .uncreated hc
  | waitFails => exact tested_inside .error (by simp) (by simp)
  | reacquired ret => exact tested_inside ret (by simp) (by simp)
  | waiterJoined ret hc =>
      cases hj : s.joined with
      | true =>
          rw [afterJoin_joined hs hj]
          exact .joined (hs.there_of_joined hj) hj
      | false =>
          rw [afterJoin_timedOut hj]
          exact .inside rfl (by simp) rfl (fun _ => hj) (by simp)
  | waiterMissing ret hc =>
      exact misuse_inside (by simp [hc]) (by rw [hc]; rfl) (by simp) (by simp)
  | waiterGone ret hc hgone =>
      refine misuse_inside (by simp [hc]) (by rw [hc]; rfl) (fun _ => ?_) (by simp)
      by_contra hj
      have hthere := hs.there_of_joined (Bool.not_eq_false _ ▸ hj)
      rw [waiterThere_of hs hthere (by rw [JoinDeadlock.LeftLoop, hc]; rfl)] at hgone
      cases hgone
  | connectMissing hc =>
      exact misuse_inside (by simp [hc]) (by rw [hc]; rfl) (by simp) (by simp)
  | connectJoined hc =>
      have hwaiter := hs.late (by rw [hc]; rfl)
      refine .abandoned (by simp [hwaiter]) ?_
      rw [hs.joined, hwaiter]
      rfl
  | connectGone hc hgone =>
      rw [connectThere_of_late hs (by rw [hc]; rfl)] at hgone
      cases hgone
  | _ => exact .inside rfl (by simp) rfl (by simp) (by simp)

theorem Held.notReturned (hs : Held w s) {a : Action} (h : step w s a = some t) :
    isReturned s.caller = false := by
  cases hr : s.caller with
  | returned r =>
      rcases hs.toInvariant.returned r hr with hw | hsync
      · obtain ⟨hc, -⟩ := hs.alone (by rw [hr]; rfl) hw
        cases a with
        | caller action =>
            have hstep := callerStep_of_step h
            cases action <;> simp [callerStep, hr] at hstep
        | waiter action =>
            have hstep := waiterStep_of_step h
            cases action <;> simp [waiterStep, hw] at hstep
        | connect action =>
            obtain ⟨_, _, hrun, -⟩ := connectStep_moves (connectStep_of_step h)
            cases hc.symm.trans hrun
      · rw [hsync.stopped hr a] at h
        cases h
  | _ => rfl

theorem step_held (hs : Held w s) {a : Action} (h : step w s a = some t) : Held w t := by
  have ht := step_invariant hs.toInvariant h
  have hrunning := hs.notReturned h
  cases a with
  | caller action =>
      cases callerStep_moved hs.toInvariant (callerStep_of_step h) with
      | created => exact ⟨ht, by simp, by simp, by simp [isReturned]⟩
      | uncreated hc => exact ⟨ht, by simp, hs.cancelled, fun _ _ => ⟨hs.start hc, rfl⟩⟩
      | joined hthere => exact ⟨ht, by simp, hs.cancelled, fun _ hw => absurd hw hthere⟩
      | abandoned hthere => exact ⟨ht, by simp, hs.cancelled, fun _ hw => absurd hw hthere⟩
      | inside hconnect hstart hreturned =>
          refine ⟨ht, fun h => absurd h hstart, fun d hd => ?_, by simp [hreturned]⟩
          exact hs.cancelled d (hconnect ▸ hd)
  | waiter action =>
      obtain ⟨hcaller, hconnect, hthere⟩ := waiterStep_frame (waiterStep_of_step h)
      refine ⟨ht, fun h => ?_, fun d hd => ?_, fun _ hw => absurd hw hthere⟩
      · rw [hconnect]
        exact hs.start (hcaller ▸ h)
      · exact hs.cancelled d (hconnect ▸ hd)
  | connect action =>
      obtain ⟨done, c, hc, rfl, hcancel⟩ := connectStep_moves (connectStep_of_step h)
      refine ⟨ht, fun h => ?_, fun d hd => ?_, by simp [hrunning]⟩
      · have habsent := hs.start h
        rw [hc] at habsent
        cases habsent
      · have hd : c = .cancelled d := hd
        rcases hcancel with ⟨-, hdone, rfl⟩ | ⟨-, hnot⟩
        · cases hd
          exact hdone
        · exact absurd hd (hnot d)

theorem clean_of_running (h : isReturned s.caller = false) :
    Clean x s ↔ ∀ d, s.connect = .cancelled d → d = 0 :=
  ⟨fun hs => hs.cancelled, fun hc => ⟨hc, by simp [h], by simp [h]⟩⟩

theorem callerStep_clean (hs : Held w s) {action : CallerAction}
    (hrunning : isReturned s.caller = false) (h : callerStep s action = some t) :
    Clean x t ↔ Clean x s ∧ Careful x s (.caller action) := by
  rw [clean_of_running hrunning]
  cases callerStep_moved hs.toInvariant h with
  | created hc =>
      rw [clean_of_running rfl]
      exact iff_of_true (by simp) ⟨by simp [hs.start hc], trivial⟩
  | uncreated hc =>
      have habsent := hs.start hc
      have hjoined : s.joined = false := by
        rw [hs.toInvariant.joined, hs.toInvariant.early (by rw [hc]; rfl)]
        rfl
      refine iff_of_true ⟨?_, ?_, ?_⟩ ⟨?_, trivial⟩ <;> simp [habsent, hjoined]
  | joined hthere hjoined =>
      constructor
      · intro ht
        exact ⟨ht.cancelled, fun _ => ht.inTime rfl hjoined⟩
      · rintro ⟨hcancelled, hcareful⟩
        exact ⟨hcancelled, by simp [hjoined], fun _ => hcareful⟩
  | abandoned hthere hjoined =>
      constructor
      · intro ht
        exact ⟨ht.cancelled, ht.late rfl hjoined⟩
      · rintro ⟨hcancelled, hcareful⟩
        exact ⟨hcancelled, fun _ _ => hcareful, by simp [hjoined]⟩
  | inside hconnect hstart hreturned hjoinWaiter hjoin =>
      rw [clean_of_running hreturned, hconnect]
      refine (and_iff_left ?_).symm
      cases action with
      | joinWaiter => exact fun hjoined => by simp [hjoinWaiter rfl] at hjoined
      | joinConnect => exact absurd rfl hjoin
      | _ => trivial

theorem connectStep_clean {action : ConnectAction} (hrunning : isReturned s.caller = false)
    (h : connectStep w s action = some t) :
    Clean x t ↔ Clean x s ∧ Careful x s (.connect action) := by
  obtain ⟨done, c, hc, rfl, hcancel⟩ := connectStep_moves h
  rw [clean_of_running hrunning, clean_of_running (s := { s with connect := c }) hrunning]
  rcases hcancel with ⟨rfl, -, rfl⟩ | ⟨haction, hnot⟩
  · simp [Careful, hc]
  · refine iff_of_true (fun d hd => absurd hd (hnot d)) ⟨by simp [hc], ?_⟩
    cases action with
    | cancelled => exact absurd rfl haction
    | _ => trivial

theorem step_clean (hs : Held w s) {a : Action} (h : step w s a = some t) :
    Clean x t ↔ Clean x s ∧ Careful x s a := by
  have hrunning := hs.notReturned h
  cases a with
  | caller action => exact callerStep_clean hs hrunning (callerStep_of_step h)
  | waiter action =>
      obtain ⟨hcaller, hconnect, -⟩ := waiterStep_frame (waiterStep_of_step h)
      rw [clean_of_running hrunning, clean_of_running (hcaller ▸ hrunning), hconnect]
      exact (and_iff_left trivial).symm
  | connect action => exact connectStep_clean hrunning (connectStep_of_step h)

theorem run_held {as : List Action} (h : run (step w) TimedJoin.start as = some s) : Held w s :=
  run_preserves (fun _ _ _ hs h => step_held hs h) (held_start w) h

theorem clean_iff_along {as : List Action} (h : run (step w) TimedJoin.start as = some s) :
    Clean x s ↔ Along (step w) (Careful x) TimedJoin.start as := by
  have hstart : Clean x TimedJoin.start := (clean_of_running rfl).mpr (by simp [TimedJoin.start])
  rw [run_keeps_iff_along (fun _ _ _ hs h => step_held hs h) (fun _ _ _ hs h => step_clean hs h)
    (held_start w) h]
  exact and_iff_right hstart

end Steps

section Ends

variable (data : Vxi11Data) (name : Option String) {x : Exchange} (reached : Bool)

inductive Way (x : Exchange) : Prop
  | uncreated (hclient : x.outcome.clntCreate = none)
  | failed (client : Client) (hclient : x.outcome.clntCreate = some client)
      (hstatus : x.outcome.status ≠ .success)
  | replied (client : Client) (hclient : x.outcome.clntCreate = some client)
      (hstatus : x.outcome.status = .success)

theorem way (x : Exchange) : Way x := by
  cases hclient : x.outcome.clntCreate with
  | none => exact .uncreated hclient
  | some client =>
      by_cases hstatus : x.outcome.status = .success
      · exact .replied client hclient hstatus
      · exact .failed client hclient hstatus

theorem exited_failed (h : x.outcome.clntCreate = none ∨ x.outcome.status ≠ .success) :
    (work data name x.outcome).result = -1 ∧ openClients data name x .exited = ∅ ∧
      (openLinks data name x reached .exited = ∅ ↔ NoLink x) := by
  rw [openClients, openLinks, work, NoLink]
  cases way x with
  | uncreated hclient =>
      simp [_vxi11Connect_uncreated hclient, performed, begun, List.filterMap_cons, clientUse,
        linkUse, hclient]
  | failed client hclient hstatus =>
      cases hgranted : x.granted <;>
        simp [_vxi11Connect_failed hclient hstatus, performed, begun, List.filterMap_cons,
          clientUse, linkUse, hclient, hstatus, hgranted]
  | replied client hclient hstatus => simp [hclient, hstatus] at h

theorem exited_replied {client : Client} (hclient : x.outcome.clntCreate = some client)
    (hstatus : x.outcome.status = .success) :
    (work data name x.outcome).result = 0 ∧ openClients data name x .exited = {client} ∧
      stored data name x .exited = ⟨some client, x.outcome.linkResp⟩ ∧
      openLinks data name x reached .exited =
        if x.outcome.linkResp.error = 0 then {x.outcome.linkResp.lid} else ∅ := by
  have hgranted := x.replied hstatus
  rw [openClients, openLinks, stored, work]
  by_cases herror : x.outcome.linkResp.error = 0 <;>
    simp [_vxi11Connect_succeeded hclient hstatus, performed, begun, abandon, List.filterMap_cons,
      clientUse, linkUse, hgranted, herror]

variable {data name}

theorem cancelled_unbegun :
    openClients data name x (.cancelled 0) = ∅ ∧
      openLinks data name x reached (.cancelled 0) = ∅ := by
  rw [openClients, openLinks]
  refine ⟨rfl, ?_⟩
  cases way x with
  | uncreated hclient =>
      cases reached <;> simp [_vxi11Connect_uncreated hclient, begun, List.filterMap_cons, linkUse]
  | failed client hclient hstatus =>
      cases reached <;>
        simp [_vxi11Connect_failed hclient hstatus, begun, List.filterMap_cons, linkUse]
  | replied client hclient hstatus =>
      cases reached <;>
        simp [_vxi11Connect_succeeded hclient hstatus, begun, List.filterMap_cons, linkUse]

theorem cancelled_begun {d : Nat} (hpos : 0 < d) (hd : d < (work data name x.outcome).operations) :
    openClients data name x (.cancelled d) ≠ ∅ := by
  rw [openClients]
  rw [work] at hd ⊢
  cases way x with
  | uncreated hclient =>
      rw [_vxi11Connect_uncreated hclient] at hd
      exact absurd hd (by simpa using hpos.ne')
  | failed client hclient hstatus =>
      rw [_vxi11Connect_failed hclient hstatus] at hd ⊢
      obtain rfl | rfl : d = 1 ∨ d = 2 := by simp at hd; omega
      · simp [performed, clientUse]
      · simp [performed, List.filterMap_cons, clientUse]
  | replied client hclient hstatus =>
      rw [_vxi11Connect_succeeded hclient hstatus] at hd ⊢
      obtain rfl : d = 1 := by simp at hd; omega
      simp [performed, clientUse]

theorem settled_of_failed {c : ConnectPc} (hclients : openClients data name x c = ∅)
    (hlinks : openLinks data name x reached c = ∅) : Settled data name x reached c (-1) where
  failed _ := ⟨hclients, hlinks⟩
  connected h := by cases h

theorem not_noLink_of_replied {client : Client} (hclient : x.outcome.clntCreate = some client)
    (hstatus : x.outcome.status = .success) : ¬ NoLink x := by
  simp [NoLink, hclient, hstatus]

theorem settled_failed_iff (h : x.outcome.clntCreate = none ∨ x.outcome.status ≠ .success) :
    Settled data name x reached .exited (-1) ↔ NoLink x := by
  obtain ⟨-, hclients, hlinks⟩ := exited_failed data name reached h
  constructor
  · exact fun hsettled => hlinks.mp (hsettled.failed rfl).2
  · exact fun hno => settled_of_failed reached hclients (hlinks.mpr hno)

theorem settled_exited_iff :
    Settled data name x reached .exited (work data name x.outcome).result ↔
      NoLink x ∨ Delivered x := by
  have hfailed (h : x.outcome.clntCreate = none ∨ x.outcome.status ≠ .success) :
      Settled data name x reached .exited (work data name x.outcome).result ↔
        NoLink x ∨ Delivered x := by
    have hundelivered : ¬ Delivered x := fun hd => h.elim hd.1 fun hstatus => hstatus hd.2.1
    rw [(exited_failed data name reached h).1, settled_failed_iff reached h,
      or_iff_left hundelivered]
  cases way x with
  | uncreated hclient => exact hfailed (.inl hclient)
  | failed client hclient hstatus => exact hfailed (.inr hstatus)
  | replied client hclient hstatus =>
      obtain ⟨hresult, hclients, hstored, hlinks⟩ :=
        exited_replied data name reached hclient hstatus
      rw [hresult, or_iff_right (not_noLink_of_replied hclient hstatus)]
      constructor
      · intro hsettled
        obtain ⟨-, -, -, hone⟩ := hsettled.connected rfl
        refine ⟨by simp [hclient], hstatus, ?_⟩
        by_contra herror
        rw [hlinks, if_neg herror] at hone
        exact absurd hone.symm (Finset.singleton_ne_empty _)
      · rintro ⟨-, -, herror⟩
        rw [if_pos herror] at hlinks
        refine ⟨by simp, fun _ => ⟨client, by rw [hstored], hclients, ?_⟩⟩
        rw [hstored, hlinks]

theorem settled_late_iff {c : ConnectPc} (hended : c.terminated = true)
    (hcancelled : ∀ d, c = .cancelled d → d < (work data name x.outcome).operations) :
    Settled data name x reached c (-1) ↔
      (∀ d, c = .cancelled d → d = 0) ∧ (c = .exited → NoLink x) := by
  cases c with
  | absent | running => cases hended
  | exited =>
      simp only [reduceCtorEq, false_implies, implies_true, true_and, true_implies]
      cases way x with
      | uncreated hclient => exact settled_failed_iff reached (.inl hclient)
      | failed client hclient hstatus => exact settled_failed_iff reached (.inr hstatus)
      | replied client hclient hstatus =>
          refine iff_of_false (fun h => ?_) (not_noLink_of_replied hclient hstatus)
          have hclients := (exited_replied data name reached hclient hstatus).2.1
          rw [(h.failed rfl).1] at hclients
          exact absurd hclients.symm (Finset.singleton_ne_empty _)
  | cancelled d =>
      simp only [reduceCtorEq, false_implies, and_true, ConnectPc.cancelled.injEq, forall_eq']
      constructor
      · intro h
        by_contra hpos
        exact cancelled_begun (Nat.pos_of_ne_zero hpos) (hcancelled d rfl) (h.failed rfl).1
      · rintro rfl
        obtain ⟨hclients, hlinks⟩ := cancelled_unbegun reached
        exact settled_of_failed reached hclients hlinks

theorem settled_iff_clean {s : State} (hs : Held (work data name x.outcome) s) {r : Int}
    (hr : s.caller = .returned r) : Settled data name x reached s.connect r ↔ Clean x s := by
  have hreturned : isReturned s.caller = true := by rw [hr]; rfl
  rcases hs.toInvariant.returned r hr with hw | hsync
  · obtain ⟨hconnect, hcaller⟩ := hs.alone hreturned hw
    have hjoined : s.joined = false := by
      rw [hs.toInvariant.joined, hw]
      rfl
    obtain rfl : r = -1 := by simpa [hr] using hcaller
    rw [hconnect]
    refine iff_of_true (settled_of_failed reached rfl rfl) ⟨?_, ?_, ?_⟩ <;> simp [hconnect, hjoined]
  · rcases hsync.result with ⟨hjoined, hexited, -, rfl⟩ | ⟨hjoined, rfl⟩
    · rw [hexited, settled_exited_iff reached]
      constructor
      · intro h
        exact ⟨by simp [hexited], by simp [hjoined], fun _ _ => h⟩
      · intro h
        exact h.inTime hreturned hjoined
    · rw [settled_late_iff reached hsync.connect hs.cancelled]
      constructor
      · rintro ⟨hcancelled, hlate⟩
        exact ⟨hcancelled, fun _ _ => hlate, by simp [hjoined]⟩
      · intro h
        exact ⟨h.cancelled, h.late hreturned hjoined⟩

end Ends

theorem unclocked_settled (data : Vxi11Data) (name : Option String) (timeout : Int)
    {c : ConnectOutcome} (hclock : c.clockGettime ≠ 0) (x : Exchange) :
    (vxi11Connect data name timeout c).2.2.filterMap clientUse = [] ∧
      (vxi11Connect data name timeout c).2.2.filterMap (linkUse x) = [] := by
  rw [vxi11Connect_unclocked hclock]
  exact ⟨rfl, rfl⟩

/-- However the three threads are interleaved, a vxi11_connect that has returned
leaves nothing open behind -1, and one client with its link behind 0, if and
only if every step was careful. A call that cannot read the clock opens nothing. -/
theorem connect_settled_iff (data : Vxi11Data) (name : Option String) (x : Exchange)
    (reached : Bool) {as : List Action} {s : State}
    (h : run (step (work data name x.outcome)) TimedJoin.start as = some s) {r : Int}
    (hr : s.caller = .returned r) :
    (Settled data name x reached s.connect r ↔
        Along (step (work data name x.outcome)) (Careful x) TimedJoin.start as) ∧
      ∀ (timeout : Int) (c : ConnectOutcome), c.clockGettime ≠ 0 →
        (vxi11Connect data name timeout c).2.2.filterMap clientUse = [] ∧
          (vxi11Connect data name timeout c).2.2.filterMap (linkUse x) = [] := by
  refine ⟨?_, fun timeout c hclock => unclocked_settled data name timeout hclock x⟩
  rw [settled_iff_clean reached (run_held h) hr]
  exact clean_iff_along h

def answered : Exchange := ⟨linked, some 0, fun _ => rfl⟩

theorem connect_settled_inTime :
    (Settled default none answered false .exited 0 ↔
        Along (step (work default none linked)) (Careful answered) TimedJoin.start inTime) ∧
      ∀ (timeout : Int) (c : ConnectOutcome), c.clockGettime ≠ 0 →
        (vxi11Connect default none timeout c).2.2.filterMap clientUse = [] ∧
          (vxi11Connect default none timeout c).2.2.filterMap (linkUse answered) = [] :=
  connect_settled_iff default none answered false run_inTime rfl

def cancelledInside : List Action :=
  [.caller (.createConnect true), .caller .lock, .caller (.createWaiter true), .caller .wait,
    .connect .work, .caller .expire, .caller .reacquire, .caller .cancelWaiter, .waiter .cancelled,
    .caller .joinWaiter, .caller .cancelConnect, .connect .cancelled, .caller .joinConnect]

def connectedLate : List Action :=
  [.caller (.createConnect true), .caller .lock, .caller (.createWaiter true), .caller .wait,
    .caller .expire, .caller .reacquire, .caller .cancelWaiter, .waiter .cancelled, .connect .work,
    .connect .work, .connect .exit, .caller .joinWaiter, .caller .cancelConnect,
    .caller .joinConnect]

def replyLost : Exchange := ⟨⟨some 1, .failure 5, default⟩, some 7, fun h => by cases h⟩

def failedInTime : List Action :=
  [.caller (.createConnect true), .caller .lock, .caller (.createWaiter true), .caller .wait,
    .connect .work, .connect .work, .connect .work, .connect .exit, .waiter .join, .waiter .lock,
    .waiter .set, .waiter .unlock, .waiter .signal, .caller .wake, .caller .reacquire,
    .caller .cancelWaiter, .caller .joinWaiter]

theorem connect_leaves_open :
    (∃ s, run (step (work default none linked)) TimedJoin.start cancelledInside = some s ∧
        s.caller = .returned (-1) ∧ ¬ Settled default none answered true s.connect (-1)) ∧
      (∃ s, run (step (work default none linked)) TimedJoin.start connectedLate = some s ∧
        s.caller = .returned (-1) ∧ ¬ Settled default none answered false s.connect (-1)) ∧
      ∃ s, run (step (work default none replyLost.outcome)) TimedJoin.start failedInTime = some s ∧
        s.caller = .returned (-1) ∧ ¬ Settled default none replyLost false s.connect (-1) := by
  refine ⟨⟨_, rfl, rfl, fun h => ?_⟩, ⟨_, rfl, rfl, fun h => ?_⟩, ⟨_, rfl, rfl, fun h => ?_⟩⟩
  · exact absurd (h.failed rfl).1 (by decide)
  · exact absurd (h.failed rfl).1 (by decide)
  · exact absurd (h.failed rfl).2 (by decide)

end LibLxi.AbandonedLinks

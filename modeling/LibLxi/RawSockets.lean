import LibLxi.Backends
import LibLxi.ClientInvariant
import LibLxi.Descriptors
import LibLxi.SessionData

namespace LibLxi.RawSockets

open Backends ClientInvariant Descriptors Lxi Platform SessionData SessionInvariant Tcp

def tcpUse : Tcp.Event → Option (Use Int)
  | .socket fd => if fd < 0 then none else some (.opened fd)
  | .close fd => some (.closed fd)
  | _ => none

def tcpPlaced : Tcp.Event → Option Int
  | .fdSet fd => some fd
  | _ => none

def observed {β : Type} (f : Tcp.Event → Option β) (w : World) : List β :=
  w.events.filterMap (Sum.elim f fun _ => none)

def uses (w : World) : List (Use Int) := observed tcpUse w

def placed (w : World) : List Int := observed tcpPlaced w

def openSockets (w : World) : Finset Int := openAfter ∅ (uses w)

def Holds (s : State World) (i : Nat) (fd : Int) : Prop :=
  ∃ b, Live s i ⟨.tcp, b⟩ ∧ (s.world.tcp b).serverSocket = fd

def socketOf (w : World) (b : Block) : Int := (w.tcp b).serverSocket

def step (s : State World) (call : Call) : Option (State World) := (perform s call).map (·.2)

def opens (s : State World) : Call → Option ConnectOutcome
  | .connect protocol _ _ _ o _ =>
      if freeSession s.session ≠ none ∧ protocol = .raw ∧ 0 ≤ o.socket then some o
      else none
  | .send .. | .receive .. | .disconnect _ => none

/-- The exits of tcp_connect between socket() and connect(). -/
def LeavesOpen (o : ConnectOutcome) : Prop :=
  o.getFlags < 0 ∨ o.setNonblock < 0 ∨ ∃ message, resolve o = .error message

theorem observed_tcpEvents {β : Type} (f : Tcp.Event → Option β) (w : World)
    (events : List Tcp.Event) :
    observed f (w.tcpEvents events) = observed f w ++ events.filterMap f := by
  simp [observed, World.tcpEvents, List.filterMap_append, List.filterMap_map, Function.comp_def]

theorem observed_rpcEvents {β : Type} (f : Tcp.Event → Option β) (w : World)
    (events : List Vxi11.Event) : observed f (w.rpcEvents events) = observed f w := by
  simp [observed, World.rpcEvents, List.filterMap_append, List.filterMap_map, Function.comp_def]

theorem checkConnect_uses {fd result : Int} {o : ConnectOutcome} :
    (checkConnect fd result o).2.filterMap tcpUse =
      if (checkConnect fd result o).1 = 0 then [] else [.closed fd] := by
  rw [checkConnect]
  split_ifs <;> first | rfl | contradiction

theorem establish_uses {fd port timeout : Int} {addr : UInt32} {o : ConnectOutcome} :
    (establish fd port timeout addr o).2.filterMap tcpUse =
      if (establish fd port timeout addr o).1 = 0 then [] else [.closed fd] := by
  have hwait : (awaitConnect fd timeout o).2.filterMap tcpUse = [] := by
    rw [awaitConnect]
    split_ifs <;> rfl
  simp only [establish, List.cons_append, List.filterMap_append, hwait, List.nil_append,
    List.filterMap_cons, tcpUse]
  exact checkConnect_uses

/-- What tcp_connect does with its socket on every exit. -/
theorem tcpConnect_uses (port timeout : Int) {o : ConnectOutcome} (h0 : 0 ≤ o.socket) :
    LeavesOpen o ∧ (tcpConnect port timeout o).1 ≠ 0 ∧
        (tcpConnect port timeout o).2.2.filterMap tcpUse = [.opened o.socket] ∨
      ¬ LeavesOpen o ∧ (tcpConnect port timeout o).2.2.filterMap tcpUse =
        .opened o.socket :: if (tcpConnect port timeout o).1 = 0 then [] else [.closed o.socket] := by
  have hopened : tcpUse (.socket o.socket) = some (.opened o.socket) := if_neg (Int.not_lt.mpr h0)
  have hexit := tcpConnect_exit port timeout o
  generalize tcpConnect port timeout o = x at hexit ⊢
  cases hexit with
  | noSocket hsocket => exact absurd h0 (Int.not_le.mpr hsocket)
  | noFlags hsocket hflags =>
      refine .inl ⟨.inl hflags, by simp, ?_⟩
      rw [List.filterMap_cons, hopened]
      rfl
  | blocking hsocket hflags hnonblock =>
      refine .inl ⟨.inr (.inl hnonblock), by simp, ?_⟩
      rw [List.filterMap_cons, hopened]
      rfl
  | unresolved hsocket hflags hnonblock message hresolve =>
      refine .inl ⟨.inr (.inr ⟨message, hresolve⟩), by simp, ?_⟩
      rw [List.filterMap_cons, hopened]
      rfl
  | tried hsocket hflags hnonblock addr hresolve =>
      refine .inr ⟨?_, ?_⟩
      · rintro (hneg | hneg | ⟨message, herror⟩)
        · exact Int.not_le.mpr hneg hflags
        · exact Int.not_le.mpr hneg hnonblock
        · cases hresolve.symm.trans herror
      · have huses : (establish o.socket port timeout addr o).2.filterMap tcpUse =
            if (establish o.socket port timeout addr o).1 = 0 then [] else [.closed o.socket] :=
          establish_uses
        rw [List.filterMap_cons, hopened]
        exact congrArg (List.cons _) huses

theorem tcpConnect_uses_of_neg (port timeout : Int) {o : ConnectOutcome} (h0 : o.socket < 0) :
    (tcpConnect port timeout o).1 ≠ 0 ∧ (tcpConnect port timeout o).2.2.filterMap tcpUse = [] := by
  simp [tcpConnect, h0, tcpUse]

theorem sendLoop_quiet {fd n length bytesSent : Int} {message : Memory.Cells UInt8}
    {results : List Transfer} :
    ∀ e ∈ (sendLoop fd message n length bytesSent results).events,
      tcpUse e = none ∧ tcpPlaced e = none := by
  induction results generalizing n length bytesSent with
  | nil => simp [sendLoop]
  | cons result results ih =>
      cases result with
      | error errno => simp [sendLoop, tcpUse, tcpPlaced]
      | count k =>
          simp only [sendLoop, List.forall_mem_cons]
          refine ⟨⟨rfl, rfl⟩, ?_⟩
          split
          · exact ih
          · simp

theorem receiveLoop_quiet {fd n length bytesReceived : Int} {dontWait : Bool}
    {message : Memory.Cells UInt8} {pending : List UInt8} {results : List Transfer} :
    ∀ e ∈ (receiveLoop fd dontWait n length bytesReceived message pending results).events,
      tcpUse e = none ∧ tcpPlaced e = none := by
  induction results generalizing n length bytesReceived message pending with
  | nil => simp [receiveLoop]
  | cons result results ih =>
      cases result with
      | error errno => simp [receiveLoop, tcpUse, tcpPlaced]
      | count k =>
          simp only [receiveLoop, List.forall_mem_cons]
          refine ⟨⟨rfl, rfl⟩, ?_⟩
          split
          · exact ih
          · simp

theorem filterMap_quiet {β : Type} {f : Tcp.Event → Option β} {events : List Tcp.Event}
    (h : ∀ e ∈ events, f e = none) : events.filterMap f = [] :=
  List.filterMap_eq_nil_iff.mpr h

theorem waited_observed {fd nfds : Int} {tv : Timeval} {events : List Tcp.Event}
    (h : ∀ e ∈ events, tcpUse e = none ∧ tcpPlaced e = none) :
    (.fdSet fd :: .select nfds tv :: events : List Tcp.Event).filterMap tcpUse = [] ∧
      (.fdSet fd :: .select nfds tv :: events : List Tcp.Event).filterMap tcpPlaced = [fd] := by
  simp only [List.filterMap_cons, tcpUse, tcpPlaced]
  exact ⟨filterMap_quiet fun e he => (h e he).1, congrArg _ (filterMap_quiet fun e he => (h e he).2)⟩

theorem error_quiet {e : Tcp.Event} {message : Message} (h : e ∈ [.error message]) :
    tcpUse e = none ∧ tcpPlaced e = none := by
  rw [List.mem_singleton.mp h]
  exact ⟨rfl, rfl⟩

theorem tcpSend_observed (data : TcpData) (message : Memory.Cells UInt8) (length timeout : Int)
    (o : SendOutcome) :
    (tcpSend data message length timeout o).events.filterMap tcpUse = [] ∧
      (tcpSend data message length timeout o).events.filterMap tcpPlaced =
        [data.serverSocket] := by
  rw [tcpSend]
  simp only
  split
  · exact waited_observed fun e => error_quiet
  · split
    · exact waited_observed sendLoop_quiet
    · exact waited_observed fun e => error_quiet

theorem tcpReceive_observed (data : TcpData) (message : Memory.Cells UInt8) (length timeout : Int)
    (pending : List UInt8) (dontWait : Bool) (o : ReceiveOutcome) :
    (tcpReceive_ data message length timeout pending dontWait o).events.filterMap tcpUse = [] ∧
      (tcpReceive_ data message length timeout pending dontWait o).events.filterMap tcpPlaced =
        [data.serverSocket] := by
  rw [tcpReceive_]
  simp only
  split
  · exact waited_observed fun e he => absurd he List.not_mem_nil
  · split
    · exact waited_observed receiveLoop_quiet
    · exact waited_observed fun e => error_quiet

theorem tcpConnect_data (port timeout : Int) (o : ConnectOutcome) :
    (tcpConnect port timeout o).2.1 = ⟨o.socket⟩ := by
  have hexit := tcpConnect_exit port timeout o
  generalize tcpConnect port timeout o = x at hexit ⊢
  cases hexit <;> rfl

/-- Everything a call can do to sockets and to the sessions that hold them. -/
inductive Change (s : State World) (call : Call) (t : State World) : Prop
  | none (hopens : opens s call = none) (huses : uses t.world = uses s.world)
      (hholds : ∀ j e, Holds t j e ↔ Holds s j e)
  | leaked (o : ConnectOutcome) (hopens : opens s call = some o) (hleaves : LeavesOpen o)
      (huses : uses t.world = uses s.world ++ [.opened o.socket])
      (hholds : ∀ j e, Holds t j e ↔ Holds s j e)
  | refused (o : ConnectOutcome) (hopens : opens s call = some o) (hleaves : ¬ LeavesOpen o)
      (huses : uses t.world = uses s.world ++ [.opened o.socket, .closed o.socket])
      (hholds : ∀ j e, Holds t j e ↔ Holds s j e)
  | connected (o : ConnectOutcome) (i : Nat) (hopens : opens s call = some o)
      (hleaves : ¬ LeavesOpen o) (huses : uses t.world = uses s.world ++ [.opened o.socket])
      (hholds : ∀ j e, Holds t j e ↔ j = i ∧ e = o.socket ∨ Holds s j e)
  | disconnected (i : Nat) (fd : Int) (hopens : opens s call = none) (hi : Holds s i fd)
      (huses : uses t.world = uses s.world ++ [.closed fd])
      (hholds : ∀ j e, Holds t j e ↔ j ≠ i ∧ Holds s j e)

section Steps

variable {s t : State World} {i : Nat} {fd : Int}

theorem Holds.unique {e : Int} (h : Holds s i fd) (h' : Holds s i e) : e = fd := by
  change Holding .tcp socketOf s i fd at h
  exact h.unique h'

theorem socketOf_congr {w w' : World} (hw : w'.tcp = w.tcp) : socketOf w' = socketOf w := by
  funext b
  rw [socketOf, socketOf, hw]

theorem socketOf_update {w : World} {data : TcpData}
    (hw : w.tcp = Function.update s.world.tcp s.nextBlock data) (b : Block)
    (hb : b ≠ s.nextBlock) : socketOf w b = socketOf s.world b := by
  rw [socketOf, socketOf, hw, Function.update_of_ne hb]

theorem holds_connect (hs : WellFormed s) (hi : freeSession s.session = some i) {n r : Int}
    {w : World}
    (h : n ≠ 0 ∧ r = lxiError ∧ t = connectFailed s i ⟨.tcp, s.nextBlock⟩ w ∨
      n = 0 ∧ r = i ∧ t = connectDone s i ⟨.tcp, s.nextBlock⟩ w)
    (hw : w.tcp = Function.update s.world.tcp s.nextBlock ⟨fd⟩) (j : Nat) (e : Int) :
    Holds t j e ↔ n = 0 ∧ j = i ∧ e = fd ∨ Holds s j e := by
  have hnew : socketOf w s.nextBlock = fd := by rw [socketOf, hw, Function.update_self]
  change Holding .tcp socketOf t j e ↔ _ ∨ Holding .tcp socketOf s j e
  rw [holding_connect hs hi h (socketOf_update hw), hnew]
  simp

theorem opens_eq_none {protocol : Protocol} {port timeout : Int} {name : Option String}
    {o : ConnectOutcome} {vxi11 : Vxi11.ConnectOutcome}
    (h : freeSession s.session = none ∨ backendOf protocol ≠ some .tcp ∨ o.socket < 0) :
    opens s (.connect protocol port name timeout o vxi11) = none := by
  rw [opens, if_neg]
  rintro ⟨hfree, hb, h0⟩
  rcases h with h | h | h
  · exact hfree h
  · exact h (backendOf_tcp_iff.mpr hb)
  · omega

theorem opens_connect {protocol : Protocol} {port timeout : Int} {name : Option String}
    {o : ConnectOutcome} {vxi11 : Vxi11.ConnectOutcome} (hi : freeSession s.session = some i)
    (hb : backendOf protocol = some .tcp) (h0 : 0 ≤ o.socket) :
    opens s (.connect protocol port name timeout o vxi11) = some o := by
  rw [opens, hi]
  simp only [backendOf_tcp_iff.mp hb, h0, ne_eq, reduceCtorEq, not_false_eq_true, and_self, if_true]

theorem connectEffect_tcp (port timeout : Int) (name : Option String) (o : ConnectOutcome)
    (vxi11 : Vxi11.ConnectOutcome) (b : Block) (w : World) :
    connectEffect port name timeout o vxi11 (some .tcp) (some b) w =
      some ((tcpConnect port timeout o).1,
        { w with tcp := Function.update w.tcp b ⟨o.socket⟩ }.tcpEvents
          (tcpConnect port timeout o).2.2) := by
  rw [← tcpConnect_data port timeout o]
  rfl

theorem connectEffect_vxi11 {port timeout n : Int} {name : Option String} {o : ConnectOutcome}
    {vxi11 : Vxi11.ConnectOutcome} {b : Block} {w w' : World}
    (h : connectEffect port name timeout o vxi11 (some .vxi11) (some b) w = some (n, w')) :
    w'.tcp = w.tcp ∧ uses w' = uses w := by
  cases h
  exact ⟨rfl, observed_rpcEvents _ _ _⟩

theorem raw_connect_change (hs : WellFormed s) {protocol : Protocol} {port timeout r : Int}
    {name : Option String} {o : ConnectOutcome} {vxi11 : Vxi11.ConnectOutcome} {w : World}
    (hb : backendOf protocol = some .tcp) (hi : freeSession s.session = some i)
    (hw : w = { s.world with tcp := Function.update s.world.tcp s.nextBlock ⟨o.socket⟩ }.tcpEvents
      (tcpConnect port timeout o).2.2)
    (h : (tcpConnect port timeout o).1 ≠ 0 ∧ r = lxiError ∧
        t = connectFailed s i ⟨.tcp, s.nextBlock⟩ w ∨
      (tcpConnect port timeout o).1 = 0 ∧ r = i ∧ t = connectDone s i ⟨.tcp, s.nextBlock⟩ w) :
    Change s (.connect protocol port name timeout o vxi11) t := by
  have hholds := holds_connect hs hi h (congrArg World.tcp hw)
  have hkept (hne : (tcpConnect port timeout o).1 ≠ 0) (j : Nat) (e : Int) :
      Holds t j e ↔ Holds s j e := by
    rw [hholds]
    exact or_iff_right fun h => hne h.1
  have hobserved : uses t.world =
      uses s.world ++ (tcpConnect port timeout o).2.2.filterMap tcpUse := by
    rw [world_connect h, hw]
    exact observed_tcpEvents _ _ _
  by_cases h0 : 0 ≤ o.socket
  · have hopens : opens s (.connect protocol port name timeout o vxi11) = some o :=
      opens_connect hi hb h0
    rcases tcpConnect_uses port timeout h0 with ⟨hleaves, hne, huses⟩ | ⟨hleaves, huses⟩
    · rw [huses] at hobserved
      exact .leaked o hopens hleaves hobserved (hkept hne)
    · rw [huses] at hobserved
      by_cases hzero : (tcpConnect port timeout o).1 = 0
      · rw [if_pos hzero] at hobserved
        simp only [hzero, true_and] at hholds
        exact .connected o i hopens hleaves hobserved hholds
      · rw [if_neg hzero] at hobserved
        exact .refused o hopens hleaves hobserved (hkept hzero)
  · obtain ⟨hne, huses⟩ := tcpConnect_uses_of_neg port timeout (Int.not_le.mp h0)
    rw [huses, List.append_nil] at hobserved
    exact .none (opens_eq_none (.inr (.inr (Int.not_le.mp h0)))) hobserved (hkept hne)

theorem connect_change (hs : WellFormed s) {protocol : Protocol} {port timeout r : Int}
    {name : Option String} {o : ConnectOutcome} {vxi11 : Vxi11.ConnectOutcome}
    (h : lxiConnect (connectEffect port name timeout o vxi11) protocol s = some (r, t)) :
    Change s (.connect protocol port name timeout o vxi11) t := by
  rcases lxiConnect_cases h with ⟨hi, -, rfl⟩ | ⟨i, -, hb, -, rfl⟩ | ⟨i, b, n, w, hi, hb, heffect, h⟩
  · exact .none (opens_eq_none (.inl hi)) rfl fun _ _ => Iff.rfl
  · exact .none (opens_eq_none (.inr (.inl (by simp [hb])))) rfl fun _ _ => Iff.rfl
  · cases b with
    | tcp =>
        rw [connectEffect_tcp, Option.some.injEq, Prod.mk.injEq] at heffect
        obtain ⟨rfl, hw⟩ := heffect
        exact raw_connect_change hs hb hi hw.symm h
    | vxi11 =>
        obtain ⟨htcp, huses⟩ := connectEffect_vxi11 heffect
        have hraw : backendOf protocol ≠ some .tcp := by simp [hb]
        have hopens : opens s (.connect protocol port name timeout o vxi11) = none :=
          opens_eq_none (.inr (.inl hraw))
        have hdata (d : Block) (_ : d ≠ s.nextBlock) : socketOf w d = socketOf s.world d :=
          congrFun (socketOf_congr htcp) d
        refine .none hopens (by rw [world_connect h, huses]) fun j e => ?_
        change Holding .tcp socketOf t j e ↔ Holding .tcp socketOf s j e
        rw [holding_connect hs hi h hdata]
        exact or_iff_right (by simp)

theorem sendEffect_observed {message : Memory.Cells UInt8} {length : Length} {timeout n : Int}
    {tcp : SendOutcome} {vxi11 : Vxi11.WriteReply} {c : Conn} {w w' : World}
    (h : sendEffect message length timeout tcp vxi11 (some c.backend) (some c.block) w =
      some (n, w')) :
    w'.tcp = w.tcp ∧ uses w' = uses w ∧
      (placed w' = placed w ∨
        c.backend = .tcp ∧ placed w' = placed w ++ [(w.tcp c.block).serverSocket]) := by
  obtain ⟨backend, b⟩ := c
  cases backend with
  | tcp =>
      obtain ⟨m, -, hm⟩ := Option.map_eq_some_iff.mp h
      cases hm
      obtain ⟨huses, hplaced⟩ := tcpSend_observed (w.tcp b) message length.val timeout tcp
      refine ⟨rfl, ?_, .inr ⟨rfl, ?_⟩⟩
      · exact (observed_tcpEvents _ _ _).trans (by rw [huses, List.append_nil]; rfl)
      · exact (observed_tcpEvents _ _ _).trans (by rw [hplaced]; rfl)
  | vxi11 =>
      cases h
      exact ⟨rfl, observed_rpcEvents _ _ _, .inl (observed_rpcEvents _ _ _)⟩

theorem receiveEffect_observed {message : Memory.Cells UInt8} {length : Length} {timeout n : Int}
    {tcp : ReceiveOutcome} {vxi11 : List Vxi11.ReadReply} {c : Conn} {w w' : World}
    (h : receiveEffect message length timeout tcp vxi11 (some c.backend) (some c.block) w =
      some (n, w')) :
    w'.tcp = w.tcp ∧ uses w' = uses w ∧
      (placed w' = placed w ∨
        c.backend = .tcp ∧ placed w' = placed w ++ [(w.tcp c.block).serverSocket]) := by
  obtain ⟨backend, b⟩ := c
  cases backend with
  | tcp =>
      obtain ⟨m, -, hm⟩ := Option.map_eq_some_iff.mp h
      cases hm
      obtain ⟨huses, hplaced⟩ := tcpReceive_observed (w.tcp b) message length.val timeout
        (w.pending (w.tcp b).serverSocket) true tcp
      rw [← tcpReceive] at huses hplaced
      refine ⟨rfl, ?_, .inr ⟨rfl, ?_⟩⟩
      · exact (observed_tcpEvents _ _ _).trans (by rw [huses, List.append_nil]; rfl)
      · exact (observed_tcpEvents _ _ _).trans (by rw [hplaced]; rfl)
  | vxi11 =>
      obtain ⟨m, -, hm⟩ := Option.map_eq_some_iff.mp h
      cases hm
      exact ⟨rfl, observed_rpcEvents _ _ _, .inl (observed_rpcEvents _ _ _)⟩

theorem disconnect_change {n : Int} {i : Nat} {c : Conn} {w : World} (hc : Live s i c)
    (hx : disconnectEffect (some c.backend) (some c.block) s.world = some (n, w)) :
    Change s (.disconnect i) (disconnectDone s i c w) := by
  obtain ⟨backend, b⟩ := c
  cases backend with
  | tcp =>
      cases hx
      exact .disconnected i (s.world.tcp b).serverSocket rfl ⟨b, hc, rfl⟩
        (observed_tcpEvents _ _ _) (holding_disconnectDone (socketOf_congr rfl))
  | vxi11 =>
      cases hx
      exact .none rfl (observed_rpcEvents _ _ _)
        (holding_disconnectDone_other hc (by simp) (socketOf_congr rfl))

def PassesNoBound (call : Call) : Prop := call.toCall.device ≠ some (sessionsMax : Int)

theorem step_outcome (hs : WellFormed s) {call : Call} (hd : PassesNoBound call)
    (h : step s call = some t) : ∃ r, Outcome s call.toCall r t := by
  obtain ⟨⟨r, t⟩, hperform, rfl⟩ := Option.map_eq_some_iff.mp h
  refine ⟨r, perform_outcome hs ?_ hperform⟩
  intro device hm he
  exact hd (hm.trans (congrArg some he))

theorem step_change (hs : WellFormed s) {call : Call} (hd : PassesNoBound call)
    (h : step s call = some t) : Change s call t := by
  obtain ⟨r, hr⟩ := step_outcome hs hd h
  cases call with
  | connect protocol port name timeout o vxi11 =>
      have hr : Outcome s (.connect protocol (connectEffect port name timeout o vxi11)) r t := hr
      cases hr with
      | connected h => exact connect_change hs h
      | rejected hdevice => exact absurd rfl hdevice
  | send device message length timeout tcp vxi11 =>
      have hr : Outcome s (.send device (sendEffect message length timeout tcp vxi11)) r t := hr
      cases hr with
      | rejected => exact .none rfl rfl fun _ _ => Iff.rfl
      | sent hc hx =>
          obtain ⟨htcp, huses, -⟩ := sendEffect_observed hx
          exact .none rfl huses (holding_called (socketOf_congr htcp))
  | receive device message length timeout tcp vxi11 =>
      have hr : Outcome s (.receive device (receiveEffect message length timeout tcp vxi11)) r t :=
        hr
      cases hr with
      | rejected => exact .none rfl rfl fun _ _ => Iff.rfl
      | received hc hx =>
          obtain ⟨htcp, huses, -⟩ := receiveEffect_observed hx
          exact .none rfl huses (holding_called (socketOf_congr htcp))
  | disconnect device =>
      have hr : Outcome s (.disconnect device disconnectEffect) r t := hr
      cases hr with
      | rejected => exact .none rfl rfl fun _ _ => Iff.rfl
      | disconnected hc hx => exact disconnect_change hc hx

theorem lxiConnect_returns {protocol : Protocol} {connect : Effect World}
    (h : ∀ backend b w, ∃ x, connect (some backend) (some b) w = some x) (s : State World) :
    ∃ x, lxiConnect connect protocol s = some x := by
  cases hi : freeSession s.session with
  | none => exact ⟨_, lxiConnect_full hi⟩
  | some i =>
      cases hb : backendOf protocol with
      | none => exact ⟨_, lxiConnect_unsupported hi hb⟩
      | some backend =>
          obtain ⟨x, hx⟩ := h backend s.nextBlock s.world
          rw [lxiConnect_supported hi hb, hx]
          exact ⟨_, rfl⟩

theorem step_of_opens {call : Call} {o : ConnectOutcome} (h : opens s call = some o) :
    ∃ t, step s call = some t := by
  cases call with
  | send | receive | disconnect => cases h
  | connect protocol port name timeout tcp vxi11 =>
      obtain ⟨x, hx⟩ : ∃ x, lxiConnect (connectEffect port name timeout tcp vxi11) protocol s =
          some x := by
        apply lxiConnect_returns
        intro backend b w
        cases backend with
        | tcp => exact ⟨_, rfl⟩
        | vxi11 => exact ⟨_, rfl⟩
      exact ⟨x.2, Option.map_eq_some_iff.mpr ⟨x, hx, rfl⟩⟩

end Steps

end LibLxi.RawSockets

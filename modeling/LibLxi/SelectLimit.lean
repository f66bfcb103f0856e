import LibLxi.DescriptorTable
import LibLxi.SocketAccounting

namespace LibLxi.SelectLimit

open Backends hiding step
open ClientInvariant DescriptorTable Descriptors Lxi Machine Platform RawSockets SessionInvariant
  SocketAccounting Tcp

/-- socket() fails or takes the lowest descriptor that is not in use. -/
def LowestSocket (s : State World) (call : Call) : Prop :=
  PassesNoBound call ∧
    ∀ o, opens s call = some o → LowestUnused (table s.world).used o.socket

def placedBy (s : State World) (call : Call) : List Int :=
  (callEvents s call).filterMap (Sum.elim tcpPlaced fun _ => none)

def SelectSafe (s : State World) (call : Call) : Prop := ∀ fd ∈ placedBy s call, fd < fdSetsize

/-- The connect() of a tcp_connect stays pending, so that select() waits for it. -/
def Waits (o : ConnectOutcome) : Prop :=
  0 ≤ o.socket ∧ ¬ LeavesOpen o ∧ o.connect < 0 ∧ o.connectErrno = .inProgress

/-- The call waits for a socket that was opened when all descriptors below
FD_SETSIZE were in use. -/
def Crowded (s : State World) : Call → Prop
  | .connect protocol _ _ _ o _ =>
      freeSession s.session ≠ none ∧ protocol = .raw ∧ Waits o ∧ ¬ Room (table s.world).used
  | .send device .. | .receive device .. =>
      ∃ (i : Nat) (fd : Int), device = i ∧ Holds s i fd ∧ fd ∈ (table s.world).late
  | .disconnect _ => False

structure Tracked (s : State World) : Prop where
  wellFormed : WellFormed s
  held : Held (Holds s) (openSockets s.world)
  dated : Dated (table s.world)

theorem tracked_start (session : Nat → Session) (w : World) : Tracked (start session w) where
  wellFormed := wellFormed_initial _ _
  held := by
    apply held_of_none
    rintro i fd ⟨b, hb, -⟩
    exact not_live_initial _ _ _ _ hb
  dated fd := by
    refine iff_of_false (Finset.notMem_empty fd) ?_
    rintro ⟨hfd, -⟩
    exact Finset.notMem_empty fd hfd

section Opened

variable {port timeout : Int} {o : ConnectOutcome}

theorem establish_unopened (fd port timeout : Int) (addr : UInt32) (o : ConnectOutcome) :
    ∀ e ∈ (establish fd port timeout addr o).2, tcpOpened e = none := by
  have hwait : ∀ e ∈ (awaitConnect fd timeout o).2, tcpOpened e = none := by
    rw [awaitConnect]
    split_ifs <;> simp [tcpOpened]
  have hcheck (result : Int) : ∀ e ∈ (checkConnect fd result o).2, tcpOpened e = none := by
    rw [checkConnect]
    split_ifs <;> simp [tcpOpened]
  refine List.forall_mem_cons.mpr ⟨rfl, List.forall_mem_append.mpr ⟨hwait, ?_⟩⟩
  exact List.forall_mem_cons.mpr ⟨rfl, hcheck _⟩

theorem tcpConnect_opens (port timeout : Int) (o : ConnectOutcome) :
    ∃ rest, (tcpConnect port timeout o).2.2 = .socket o.socket :: rest ∧
      ∀ e ∈ rest, tcpOpened e = none := by
  have hexit := tcpConnect_exit port timeout o
  generalize tcpConnect port timeout o = x at hexit ⊢
  cases hexit with
  | noSocket | noFlags | blocking | unresolved => exact ⟨_, rfl, by simp [tcpOpened]⟩
  | tried hsocket hflags hnonblock addr hresolve =>
      refine ⟨_, rfl, List.forall_mem_cons.mpr ⟨rfl, List.forall_mem_cons.mpr ⟨rfl, ?_⟩⟩⟩
      exact establish_unopened _ _ _ _ _

theorem unopened_of_unused {events : List Tcp.Event} (h : events.filterMap tcpUse = []) :
    ∀ e ∈ events, tcpOpened e = none := by
  intro e he
  have huse := List.filterMap_eq_nil_iff.mp h e he
  cases e with
  | socket fd =>
      rw [tcpUse] at huse
      rw [tcpOpened]
      split_ifs at huse ⊢
      rfl
  | _ => rfl

theorem onBackend_unopened {tcp : Block → List Tcp.Event} {vxi11 : Block → List Vxi11.Event}
    (h : ∀ b, ∀ e ∈ tcp b, tcpOpened e = none) (found : Option (Backend × Block)) :
    ∀ e ∈ found.elim [] (onBackend tcp vxi11), Sum.elim tcpOpened (fun _ => none) e = none := by
  rcases found with _ | ⟨backend, b⟩
  · exact List.forall_mem_nil _
  · cases backend with
    | tcp => exact List.forall_mem_map.mpr (h b)
    | vxi11 => exact List.forall_mem_map.mpr fun _ _ => rfl

end Opened

section Steps

variable {s t : State World} {call : Call} {o : ConnectOutcome}

theorem served_of_lowest (hp : LowestSocket s call) :
    Served (table s.world) (callEvents s call) := by
  cases call with
  | connect protocol port name timeout o vxi11 =>
      rw [callEvents]
      cases hi : freeSession s.session with
      | none =>
          rw [chosen_full hi]
          exact trivial
      | some i =>
          rw [chosen_free hi]
          cases hb : backendOf protocol with
          | none => exact trivial
          | some backend =>
              cases backend with
              | tcp =>
                  obtain ⟨rest, hevents, hrest⟩ := tcpConnect_opens port timeout o
                  rw [Option.map_some, Option.elim_some, onBackend, hevents]
                  refine ⟨fun fd hfd => ?_, served_of_unopened (List.forall_mem_map.mpr hrest)⟩
                  rw [Sum.elim_inl, tcpOpened] at hfd
                  split_ifs at hfd with hneg
                  cases hfd
                  exact hp.2 o (opens_connect hi hb (Int.not_lt.mp hneg))
              | vxi11 => exact served_of_unopened (List.forall_mem_map.mpr fun _ _ => rfl)
  | send device message length timeout tcp vxi11 =>
      refine served_of_unopened (onBackend_unopened (fun b => ?_) _)
      exact unopened_of_unused (tcpSend_observed _ _ _ _ _).1
  | receive device message length timeout tcp vxi11 =>
      refine served_of_unopened (onBackend_unopened (fun b => ?_) _)
      exact unopened_of_unused (tcpReceive_observed _ _ _ _ _ true _).1
  | disconnect device =>
      exact served_of_unopened (onBackend_unopened (fun b => List.forall_mem_singleton.mpr rfl) _)

theorem socket_fresh (hp : LowestSocket s call) (h : opens s call = some o) :
    o.socket ∉ openSockets s.world := by
  intro hopen
  rw [← table_sockets] at hopen
  refine (hp.2 o h).unused ?_
  exact Finset.mem_union_right _ (Finset.mem_union_left _ hopen)

theorem openSockets_of_uses {us : List (Use Int)} (h : uses t.world = uses s.world ++ us) :
    openSockets t.world = openAfter (openSockets s.world) us := by
  rw [openSockets, h, openAfter_append]
  rfl

theorem step_held (hs : Tracked s) (hp : LowestSocket s call) (h : step s call = some t) :
    Held (Holds t) (openSockets t.world) := by
  cases step_change hs.wellFormed hp.1 h with
  | none hopens huses hholds =>
      have hopen : openSockets t.world = openSockets s.world := congrArg (openAfter ∅) huses
      exact hopen ▸ hs.held.mono Finset.Subset.rfl hholds
  | leaked o hopens hleaves huses hholds =>
      rw [openSockets_of_uses huses]
      exact hs.held.mono (Finset.subset_insert _ _) hholds
  | refused o hopens hleaves huses hholds =>
      rw [openSockets_of_uses huses, openAfter_pair (socket_fresh hp hopens)]
      exact hs.held.mono Finset.Subset.rfl hholds
  | connected o i hopens hleaves huses hholds =>
      rw [openSockets_of_uses huses]
      exact hs.held.opened (socket_fresh hp hopens) hholds
  | disconnected i fd hopens hi huses hholds =>
      rw [openSockets_of_uses huses]
      exact hs.held.closed hi hholds

theorem step_table (hs : Tracked s) (hp : LowestSocket s call) (h : step s call = some t) :
    table t.world = (table s.world).afterAll (callEvents s call) := by
  rw [table, step_events hs.wellFormed hp.1 h, afterAll_append]
  rfl

theorem step_tracked (hs : Tracked s) (hp : LowestSocket s call) (h : step s call = some t) :
    Tracked t where
  wellFormed := step_wellFormed hs.wellFormed hp.1 h
  held := step_held hs hp h
  dated := by
    rw [step_table hs hp h]
    exact afterAll_dated hs.dated (served_of_lowest hp)

/-- The socket of a live session is late if and only if an fd_set has no room
for it. -/
theorem late_iff (hs : Tracked s) {i : Nat} {fd : Int} (hi : Holds s i fd) :
    fd ∈ (table s.world).late ↔ ¬ fd < fdSetsize := by
  have hopen : fd ∈ (table s.world).sockets := by
    rw [table_sockets]
    exact hs.held.isOpen hi
  rw [hs.dated fd, and_iff_right hopen, not_lt]

theorem establish_placed {fd port timeout : Int} {addr : UInt32} {o : ConnectOutcome} :
    (establish fd port timeout addr o).2.filterMap tcpPlaced =
      if o.connect < 0 ∧ o.connectErrno = .inProgress then [fd] else [] := by
  have hcheck (result : Int) : (checkConnect fd result o).2.filterMap tcpPlaced = [] := by
    rw [checkConnect]
    split_ifs <;> rfl
  simp only [establish, List.cons_append, List.filterMap_cons, List.filterMap_append, tcpPlaced,
    hcheck, List.append_nil]
  rw [awaitConnect]
  by_cases hneg : o.connect < 0
  · by_cases herrno : o.connectErrno = .inProgress
    · simp [hneg, herrno, tcpPlaced]
    · simp [hneg, herrno]
  · simp [hneg]

theorem tcpConnect_placed (port timeout : Int) (o : ConnectOutcome) (fd : Int) :
    fd ∈ (tcpConnect port timeout o).2.2.filterMap tcpPlaced ↔ Waits o ∧ fd = o.socket := by
  have hexit := tcpConnect_exit port timeout o
  generalize tcpConnect port timeout o = x at hexit ⊢
  cases hexit with
  | noSocket hsocket =>
      refine iff_of_false (by simp [tcpPlaced]) ?_
      rintro ⟨⟨h0, -⟩, -⟩
      omega
  | noFlags hsocket hflags =>
      refine iff_of_false (by simp [tcpPlaced]) ?_
      rintro ⟨⟨-, hleaves, -⟩, -⟩
      exact hleaves (.inl hflags)
  | blocking hsocket hflags hnonblock =>
      refine iff_of_false (by simp [tcpPlaced]) ?_
      rintro ⟨⟨-, hleaves, -⟩, -⟩
      exact hleaves (.inr (.inl hnonblock))
  | unresolved hsocket hflags hnonblock message hresolve =>
      refine iff_of_false (by simp [tcpPlaced]) ?_
      rintro ⟨⟨-, hleaves, -⟩, -⟩
      exact hleaves (.inr (.inr ⟨message, hresolve⟩))
  | tried hsocket hflags hnonblock addr hresolve =>
      have hleaves : ¬ LeavesOpen o := by
        rintro (hneg | hneg | ⟨message, herror⟩)
        · omega
        · omega
        · cases hresolve.symm.trans herror
      simp only [List.filterMap_cons, tcpPlaced, establish_placed, Waits, hsocket, hleaves]
      split_ifs with hpending <;> simp [hpending]

theorem transfer_safe_iff (hs : Tracked s) {device : Int} {fn : Session → FnPtr}
    (hd : device ≠ sessionsMax) (hfn : ∀ c : Conn, fn c.entry = some c.backend)
    {tcp : Block → List Tcp.Event} {vxi11 : Block → List Vxi11.Event}
    (htcp : ∀ b, (tcp b).filterMap tcpPlaced = [(s.world.tcp b).serverSocket]) :
    (∀ fd ∈ ((pointers s device fn).elim [] (onBackend tcp vxi11)).filterMap
        (Sum.elim tcpPlaced fun _ => none), fd < fdSetsize) ↔
      ¬ ∃ (i : Nat) (fd : Int), device = i ∧ Holds s i fd ∧ fd ∈ (table s.world).late := by
  rcases handle_cases hs.wellFormed hd with hv | ⟨i, ⟨backend, b⟩, rfl, hc⟩
  · rw [pointers_invalid hv]
    refine iff_of_true (List.forall_mem_nil _) ?_
    rintro ⟨i, fd, rfl, ⟨b, hb, -⟩, -⟩
    cases hv.symm.trans hb.isValidSession
  · rw [pointers_live hc (hfn _)]
    cases backend with
    | tcp =>
        have hholds : Holds s i (s.world.tcp b).serverSocket := ⟨b, hc, rfl⟩
        have hplaced : ((some (Backend.tcp, b)).elim [] (onBackend tcp vxi11)).filterMap
            (Sum.elim tcpPlaced fun _ => none) = [(s.world.tcp b).serverSocket] := by
          rw [← htcp b, Option.elim_some, onBackend, List.filterMap_map]
          rfl
        rw [hplaced, List.forall_mem_singleton, ← not_not (a := _ < _), ← late_iff hs hholds]
        refine not_congr ⟨fun hlate => ⟨i, _, rfl, hholds, hlate⟩, ?_⟩
        rintro ⟨j, fd, hj, hfd, hlate⟩
        cases Int.natCast_inj.mp hj
        rwa [hholds.unique hfd] at hlate
    | vxi11 =>
        have hplaced : ((some (Backend.vxi11, b)).elim [] (onBackend tcp vxi11)).filterMap
            (Sum.elim tcpPlaced fun _ => none) = [] := by
          rw [Option.elim_some, onBackend, List.filterMap_map]
          exact List.filterMap_eq_nil_iff.mpr fun _ _ => rfl
        rw [hplaced]
        refine iff_of_true (List.forall_mem_nil _) ?_
        rintro ⟨j, fd, hj, ⟨b', hb, -⟩, -⟩
        cases Int.natCast_inj.mp hj
        cases hc.unique hb

theorem connect_safe_iff {protocol : Protocol} {port timeout : Int} {name : Option String}
    {vxi11 : Vxi11.ConnectOutcome}
    (hp : LowestSocket s (.connect protocol port name timeout o vxi11)) :
    SelectSafe s (.connect protocol port name timeout o vxi11) ↔
      ¬ Crowded s (.connect protocol port name timeout o vxi11) := by
  rw [SelectSafe, placedBy, callEvents, Crowded]
  cases hi : freeSession s.session with
  | none =>
      rw [chosen_full hi]
      exact iff_of_true (List.forall_mem_nil _) fun h => h.1 rfl
  | some i =>
      rw [chosen_free hi]
      by_cases hraw : protocol = .raw
      · subst hraw
        have hplaced : ((Option.map (fun backend => (backend, s.nextBlock))
            (backendOf Protocol.raw)).elim [] (onBackend (fun _ => (tcpConnect port timeout o).2.2)
              fun b => (Vxi11.vxi11Connect (s.world.vxi11 b) name timeout vxi11).2.2)).filterMap
            (Sum.elim tcpPlaced fun _ => none) =
              (tcpConnect port timeout o).2.2.filterMap tcpPlaced :=
          List.filterMap_map
        rw [hplaced]
        simp only [tcpConnect_placed, ne_eq, reduceCtorEq, not_false_eq_true, true_and]
        have hsocket (hwaits : Waits o) : o.socket < fdSetsize ↔ Room (table s.world).used :=
          (hp.2 o (opens_connect hi rfl hwaits.1)).lt_iff_card fdSetsize
        constructor
        · rintro h ⟨hwaits, hroom⟩
          exact hroom ((hsocket hwaits).mp (h _ ⟨hwaits, rfl⟩))
        · rintro h fd ⟨hwaits, rfl⟩
          by_contra hlt
          exact h ⟨hwaits, mt (hsocket hwaits).mpr hlt⟩
      · refine iff_of_true ?_ fun h => hraw h.2.1
        cases hb : backendOf protocol with
        | none => exact List.forall_mem_nil _
        | some backend =>
            cases backend with
            | tcp => exact absurd (backendOf_tcp_iff.mp hb) hraw
            | vxi11 =>
                rw [Option.map_some, Option.elim_some, onBackend, List.filterMap_map]
                exact fun fd hfd => absurd hfd (by simp)

theorem selectSafe_iff (hs : Tracked s) (hp : LowestSocket s call) :
    SelectSafe s call ↔ ¬ Crowded s call := by
  have hguard {device : Int} (hdevice : call.toCall.device = some device) :
      device ≠ sessionsMax := by
    rintro rfl
    exact hp.1 hdevice
  cases call with
  | connect protocol port name timeout o vxi11 => exact connect_safe_iff hp
  | send device message length timeout tcp vxi11 =>
      exact transfer_safe_iff hs (hguard rfl) (fun _ => rfl) fun b => (tcpSend_observed _ _ _ _ _).2
  | receive device message length timeout tcp vxi11 =>
      exact transfer_safe_iff hs (hguard rfl) (fun _ => rfl)
        fun b => (tcpReceive_observed _ _ _ _ _ true _).2
  | disconnect device =>
      refine iff_of_true ?_ not_false
      rw [SelectSafe, placedBy, callEvents]
      rcases pointers s device Session.disconnect with _ | ⟨backend, b⟩
      · exact List.forall_mem_nil _
      · cases backend <;> exact List.forall_mem_nil _

end Steps

def request (o : ConnectOutcome) : Call := .connect .raw 5025 none 1000 o default

def attempt (fd : Int) : ConnectOutcome :=
  { (default : ConnectOutcome) with
    socket := fd, getFlags := 0, setNonblock := 0, inetAddr := 0x0100007f, connect := -1,
    connectErrno := .inProgress, select := 1, resetFlags := 0, getsockopt := 0 }

def granted (client : Vxi11.Client) : Vxi11.ConnectOutcome :=
  ⟨0, ⟨0, 0⟩, 0, 0, 0, ⟨some client, .success, default⟩⟩

def link (client : Vxi11.Client) : Call := .connect .vxi11 111 none 1000 default (granted client)

theorem attempt_connects {fd : Int} (h0 : 0 ≤ fd) :
    (tcpConnect 5025 1000 (attempt fd)).1 = 0 ∧
      (tcpConnect 5025 1000 (attempt fd)).2.2 =
        [.socket fd, .getFlags fd, .setFlags fd true, .connect fd ⟨5025, 0x0100007f⟩, .fdSet fd,
          .select (fd + 1) (timevalOf 1000), .setFlags fd false, .getsockopt fd] := by
  have hsocket : ¬ fd < 0 := Int.not_lt.mpr h0
  simp [tcpConnect, attempt, hsocket, resolve, inaddrNone, establish, awaitConnect, checkConnect]

theorem attempt_waits {fd : Int} (h0 : 0 ≤ fd) : Waits (attempt fd) := by
  refine ⟨h0, ?_, by simp [attempt], rfl⟩
  rintro (hneg | hneg | ⟨message, herror⟩)
  · cases hneg
  · cases hneg
  · cases herror

/-- The first k entries are live sessions on the descriptors from 3 on. -/
structure Filled (k : Nat) (s : State World) : Prop where
  tracked : Tracked s
  allocated : ∀ j < sessionsMax, (s.session j).allocated = decide (j < k)
  mem_used : ∀ e, e ∈ (table s.world).used ↔ 0 ≤ e ∧ e < (3 + k : Nat)

section Filling

variable {s : State World} {k n : Nat}

theorem filled_start (session : Nat → Session) (w : World) : Filled 0 (start session w) where
  tracked := tracked_start session w
  allocated _ hj := (initial_free session _ hj).1
  mem_used e := by
    have hstd : (table (start session w).world).used = {0, 1, 2} := rfl
    rw [hstd]
    simp only [Finset.mem_insert, Finset.mem_singleton]
    omega

theorem Filled.freeSession_eq (hs : Filled k s) (hk : k < sessionsMax) :
    freeSession s.session = some k := by
  refine freeSession_some.mpr ⟨hk, ?_, fun j hj => ?_⟩
  · rw [hs.allocated k hk, decide_eq_false (Nat.lt_irrefl k)]
  · rw [hs.allocated j (hj.trans hk), decide_eq_true hj]

theorem Filled.lowestUnused (hs : Filled k s) :
    LowestUnused (table s.world).used (3 + k : Nat) := by
  refine ⟨Int.natCast_nonneg _, fun hused => ?_, fun e h0 hlt => (hs.mem_used e).mpr ⟨h0, hlt⟩⟩
  exact absurd ((hs.mem_used _).mp hused).2 (lt_irrefl _)

theorem Filled.lowestSocket (hs : Filled k s) (hk : k < sessionsMax) :
    LowestSocket s (request (attempt (3 + k : Nat))) := by
  refine ⟨by rintro ⟨⟩, fun o ho => ?_⟩
  rw [request, opens_connect (hs.freeSession_eq hk) rfl (Int.natCast_nonneg _)] at ho
  cases ho
  exact hs.lowestUnused

theorem Filled.room_iff (hs : Filled k s) : Room (table s.world).used ↔ k < 1021 := by
  rw [Room, ← hs.lowestUnused.lt_iff_card, fdSetsize]
  omega

theorem Filled.uncrowded (hs : Filled k s) (hk : k < 1021) (o : ConnectOutcome) :
    ¬ Crowded s (request o) := by
  rintro ⟨-, -, -, hroom⟩
  exact hroom (hs.room_iff.mpr hk)

theorem Filled.connected (hs : Filled k s) {call : Call} {c : Conn} {w : World}
    (hp : LowestSocket s call) (hstep : step s call = some (connectDone s k c w))
    (hused : ((table s.world).afterAll (callEvents s call)).used =
      insert ((3 + k : Nat) : Int) (table s.world).used) :
    Filled (k + 1) (connectDone s k c w) where
  tracked := step_tracked hs.tracked hp hstep
  allocated j hj := by
    by_cases hjk : j = k
    · subst j
      simp [connectDone, Conn.entry]
    · have hiff : j < k + 1 ↔ j < k := by omega
      simp [connectDone, hjk, hs.allocated j hj, hiff]
  mem_used e := by
    rw [step_table hs.tracked hp hstep, hused, Finset.mem_insert, hs.mem_used]
    omega

theorem attempt_step (hi : freeSession s.session = some k) {fd : Int} (h0 : 0 ≤ fd) :
    ∃ w, step s (request (attempt fd)) = some (connectDone s k ⟨.tcp, s.nextBlock⟩ w) := by
  have hconnect : lxiConnect (connectEffect 5025 none 1000 (attempt fd) default) .raw s = _ :=
    lxiConnect_supported hi rfl
  rw [connectEffect_tcp, Option.map_some, if_pos (attempt_connects h0).1] at hconnect
  exact ⟨_, Option.map_eq_some_iff.mpr ⟨_, hconnect, rfl⟩⟩

theorem attempt_used (hi : freeSession s.session = some k) {fd : Int} (h0 : 0 ≤ fd) :
    ((table s.world).afterAll (callEvents s (request (attempt fd)))).used =
      insert fd (table s.world).used := by
  have hafter : (table s.world).afterAll (callEvents s (request (attempt fd))) =
      (table s.world).after (.inl (.socket fd)) := by
    rw [request, callEvents, chosen_free hi]
    exact congrArg (fun events => (table s.world).afterAll (events.map .inl)) (attempt_connects h0).2
  rw [hafter, used_opened h0]

theorem Filled.next (hs : Filled k s) (hk : k < sessionsMax) :
    ∃ t, step s (request (attempt (3 + k : Nat))) = some t ∧ Filled (k + 1) t := by
  have hi := hs.freeSession_eq hk
  obtain ⟨w, hstep⟩ := attempt_step hi (Int.natCast_nonneg (3 + k))
  refine ⟨_, hstep, hs.connected (hs.lowestSocket hk) hstep ?_⟩
  exact attempt_used hi (Int.natCast_nonneg _)

theorem lowestSocket_link (s : State World) (client : Vxi11.Client) :
    LowestSocket s (link client) := by
  refine ⟨by rintro ⟨⟩, fun o ho => ?_⟩
  rw [link, opens_eq_none (.inr (.inl (by decide)))] at ho
  cases ho

/-- The connection of an RPC client takes a descriptor of the same table. -/
theorem Filled.linked (hs : Filled k s) (hk : k < sessionsMax) (client : Vxi11.Client) :
    ∃ t, step s (link client) = some t ∧ Filled (k + 1) t := by
  have hi := hs.freeSession_eq hk
  have hconnect : lxiConnect (connectEffect 111 none 1000 default (granted client)) .vxi11 s = _ :=
    lxiConnect_supported hi rfl
  have hstep : step s (link client) = _ := Option.map_eq_some_iff.mpr ⟨_, hconnect, rfl⟩
  refine ⟨_, hstep, hs.connected (lowestSocket_link s client) hstep ?_⟩
  have hafter : (table s.world).afterAll (callEvents s (link client)) =
      (table s.world).after (.inr (.clntCreate (some client))) := by
    rw [link, callEvents, chosen_free hi]
    rfl
  have hlowest := (lowestUnused_spec (table s.world).used).unique hs.lowestUnused
  rw [hafter, used_created, hlowest]

end Filling

def fill (k n : Nat) : List Call :=
  (List.range' k n).map fun j => request (attempt (3 + j : Nat))

section Filling

variable {s : State World} {k n : Nat}

theorem Filled.permitted (hs : Filled k s) (hkn : k + n ≤ 1022) :
    Along step LowestSocket s (fill k n) := by
  induction n generalizing k s with
  | zero => exact trivial
  | succ n ih =>
      have hk : k < sessionsMax := by
        rw [sessionsMax]
        omega
      obtain ⟨t, ht, hfilled⟩ := hs.next hk
      refine ⟨hs.lowestSocket hk, fun u hu => ?_⟩
      cases ht.symm.trans hu
      exact ih hfilled (by omega)

theorem Filled.crowded (hs : Filled 1021 s) : Crowded s (request (attempt (3 + 1021 : Nat))) := by
  have hi := hs.freeSession_eq (by decide)
  refine ⟨?_, rfl, attempt_waits (Int.natCast_nonneg _), mt hs.room_iff.mp (lt_irrefl _)⟩
  rw [hi]
  exact Option.some_ne_none _

theorem Filled.not_safe (hs : Filled k s) (hkn : k + n = 1021) :
    ¬ Along step SelectSafe s (fill k (n + 1)) := by
  induction n generalizing k s with
  | zero =>
      rintro ⟨hsafe, -⟩
      cases hkn
      exact (selectSafe_iff hs.tracked (hs.lowestSocket (by decide))).mp hsafe hs.crowded
  | succ n ih =>
      rintro ⟨-, hrest⟩
      obtain ⟨t, ht, hfilled⟩ := hs.next (by rw [sessionsMax]; omega)
      exact ih hfilled (by omega) (hrest t ht)

end Filling

end LibLxi.SelectLimit

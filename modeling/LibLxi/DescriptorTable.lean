import LibLxi.RawSockets

namespace LibLxi.DescriptorTable

open Backends hiding step
open ClientInvariant Descriptors Lxi Machine RawSockets SessionInvariant

/-- FD_SETSIZE: an fd_set has room for the descriptors below it. -/
def fdSetsize : Nat := 1024

/-- The descriptors of the library: the sockets that tcp_connect opened, each RPC
client with that of its TCP connection, and those of the sockets that were opened
when none below FD_SETSIZE was left. -/
structure Table where
  sockets : Finset Int
  clients : List (Vxi11.Client × Int)
  late : Finset Int

def Table.used (t : Table) : Finset Int :=
  {0, 1, 2} ∪ (t.sockets ∪ (t.clients.map Prod.snd).toFinset)

def Room (used : Finset Int) : Prop := usedBelow used fdSetsize < fdSetsize

instance instDecidableRoom (used : Finset Int) : Decidable (Room used) := Nat.decLt _ _

def Table.after (t : Table) : Tcp.Event ⊕ Vxi11.Event → Table
  | .inl (.socket fd) =>
      if fd < 0 then t
      else { t with
        sockets := insert fd t.sockets
        late := if Room t.used then t.late else insert fd t.late }
  | .inl (.close fd) => { t with sockets := t.sockets.erase fd, late := t.late.erase fd }
  | .inr (.clntCreate (some client)) =>
      { t with clients := (client, lowestUnused t.used) :: t.clients }
  | .inr (.clntDestroy (some client)) =>
      { t with clients := t.clients.filter fun c => c.1 ≠ client }
  | _ => t

def Table.afterAll (t : Table) (events : List (Tcp.Event ⊕ Vxi11.Event)) : Table :=
  events.foldl Table.after t

def table (w : World) : Table := Table.afterAll ⟨∅, [], ∅⟩ w.events

theorem afterAll_append (t : Table) (events events' : List (Tcp.Event ⊕ Vxi11.Event)) :
    t.afterAll (events ++ events') = (t.afterAll events).afterAll events' :=
  List.foldl_append

theorem used_opened {t : Table} {fd : Int} (h0 : 0 ≤ fd) :
    (t.after (.inl (.socket fd))).used = insert fd t.used := by
  rw [Table.after, if_neg (Int.not_lt.mpr h0)]
  ext e
  simp only [Table.used, Finset.mem_union, Finset.mem_insert]
  tauto

theorem used_created (t : Table) (client : Vxi11.Client) :
    (t.after (.inr (.clntCreate (some client)))).used = insert (lowestUnused t.used) t.used := by
  ext e
  simp only [Table.after, Table.used, List.map_cons, List.toFinset_cons, Finset.mem_union,
    Finset.mem_insert]
  tauto

theorem after_sockets (t : Table) (e : Tcp.Event ⊕ Vxi11.Event) :
    (t.after e).sockets = openAfter t.sockets (Sum.elim tcpUse (fun _ => none) e).toList := by
  rcases e with e | e
  · cases e with
    | socket fd =>
        rw [Table.after, Sum.elim_inl, tcpUse]
        split_ifs <;> rfl
    | _ => rfl
  · cases e with
    | clntCreate client | clntDestroy client => cases client <;> rfl
    | _ => rfl

theorem afterAll_sockets (t : Table) (events : List (Tcp.Event ⊕ Vxi11.Event)) :
    (t.afterAll events).sockets =
      openAfter t.sockets (events.filterMap (Sum.elim tcpUse fun _ => none)) := by
  induction events generalizing t with
  | nil => rfl
  | cons e events ih =>
      rw [Table.afterAll, List.foldl_cons, ← Table.afterAll, ih, after_sockets, ← openAfter_append]
      cases h : Sum.elim tcpUse (fun _ => none) e with
      | none => rw [List.filterMap_cons_none h, Option.toList_none, List.nil_append]
      | some use => rw [List.filterMap_cons_some h, Option.toList_some, List.singleton_append]

theorem table_sockets (w : World) : (table w).sockets = openSockets w := afterAll_sockets _ _

def Dated (t : Table) : Prop := ∀ fd, fd ∈ t.late ↔ fd ∈ t.sockets ∧ fdSetsize ≤ fd

def tcpOpened : Tcp.Event → Option Int
  | .socket fd => if fd < 0 then none else some fd
  | _ => none

/-- Every socket takes the lowest descriptor that is not in use. -/
def Served : Table → List (Tcp.Event ⊕ Vxi11.Event) → Prop
  | _, [] => True
  | t, e :: events =>
      (∀ fd, Sum.elim tcpOpened (fun _ => none) e = some fd → LowestUnused t.used fd) ∧
        Served (t.after e) events

theorem served_of_unopened {t : Table} {events : List (Tcp.Event ⊕ Vxi11.Event)}
    (h : ∀ e ∈ events, Sum.elim tcpOpened (fun _ => none) e = none) : Served t events := by
  induction events generalizing t with
  | nil => exact trivial
  | cons e events ih =>
      obtain ⟨he, hevents⟩ := List.forall_mem_cons.mp h
      refine ⟨fun fd hfd => ?_, ih hevents⟩
      cases he.symm.trans hfd

theorem after_dated {t : Table} (ht : Dated t) {e : Tcp.Event ⊕ Vxi11.Event}
    (he : ∀ fd, Sum.elim tcpOpened (fun _ => none) e = some fd → LowestUnused t.used fd) :
    Dated (t.after e) := by
  intro fd
  rcases e with e | e
  · cases e with
    | socket opened =>
        rw [Table.after]
        split_ifs with hneg hroom
        · exact ht fd
        all_goals
          have hlowest : LowestUnused t.used opened := he opened (if_neg hneg)
          have hlt := hlowest.lt_iff_card fdSetsize
          rw [← Room] at hlt
          simp only [Finset.mem_insert, ht fd]
        · have hbelow := hlt.mpr hroom
          constructor
          · rintro ⟨hopen, hle⟩
            exact ⟨.inr hopen, hle⟩
          · rintro ⟨rfl | hopen, hle⟩
            · omega
            · exact ⟨hopen, hle⟩
        · have habove := Int.not_lt.mp (mt hlt.mp hroom)
          constructor
          · rintro (rfl | ⟨hopen, hle⟩)
            · exact ⟨.inl rfl, habove⟩
            · exact ⟨.inr hopen, hle⟩
          · rintro ⟨rfl | hopen, hle⟩
            · exact .inl rfl
            · exact .inr ⟨hopen, hle⟩
    | close closed =>
        simp only [Table.after, Finset.mem_erase, ht fd, and_assoc]
    | _ => exact ht fd
  · cases e with
    | clntCreate client | clntDestroy client => cases client <;> exact ht fd
    | _ => exact ht fd

theorem afterAll_dated {t : Table} (ht : Dated t) {events : List (Tcp.Event ⊕ Vxi11.Event)}
    (h : Served t events) : Dated (t.afterAll events) := by
  induction events generalizing t with
  | nil => exact ht
  | cons e events ih => exact ih (after_dated ht h.1) h.2

def chosen (s : State World) (protocol : Protocol) : Option (Backend × Block) :=
  (freeSession s.session).bind fun _ => (backendOf protocol).map fun backend =>
    (backend, s.nextBlock)

def pointers (s : State World) (device : Int) (fn : Session → FnPtr) : Option (Backend × Block) :=
  let entry := s.session device.toNat
  if isValidSession s.session device then
    (fn entry).bind fun backend => entry.data.map fun block => (backend, block)
  else none

def onBackend (tcp : Block → List Tcp.Event) (vxi11 : Block → List Vxi11.Event) :
    Backend × Block → List (Tcp.Event ⊕ Vxi11.Event)
  | (.tcp, block) => (tcp block).map .inl
  | (.vxi11, block) => (vxi11 block).map .inr

/-- What a call does on the system and on RPC clients, whether it returns or not. -/
def callEvents (s : State World) : Call → List (Tcp.Event ⊕ Vxi11.Event)
  | .connect protocol port name timeout tcp vxi11 =>
      (chosen s protocol).elim [] (onBackend (fun _ => (Tcp.tcpConnect port timeout tcp).2.2)
        fun b => (Vxi11.vxi11Connect (s.world.vxi11 b) name timeout vxi11).2.2)
  | .send device message length timeout tcp vxi11 =>
      (pointers s device Session.send).elim [] (onBackend
        (fun b => (Tcp.tcpSend (s.world.tcp b) message length.val timeout tcp).events)
        fun b => (Vxi11.vxi11Send (s.world.vxi11 b) message length.val timeout vxi11).2)
  | .receive device message length timeout tcp vxi11 =>
      (pointers s device Session.receive).elim [] (onBackend
        (fun b => (Tcp.tcpReceive (s.world.tcp b) message length.val timeout
          (s.world.pending (s.world.tcp b).serverSocket) tcp).events)
        fun b => (Vxi11.vxi11Receive (s.world.vxi11 b) message length.val timeout vxi11).events)
  | .disconnect device =>
      (pointers s device Session.disconnect).elim [] (onBackend
        (fun b => (Tcp.tcpDisconnect (s.world.tcp b)).2)
        fun b => (Vxi11.vxi11Disconnect (s.world.vxi11 b)).2)

section Calls

variable {s t : State World} {i : Nat} {c : Conn} {fn : Session → FnPtr}

theorem pointers_invalid {device : Int} (h : isValidSession s.session device = false) :
    pointers s device fn = none := by
  rw [pointers, h]
  rfl

theorem pointers_live (hc : Live s i c) (hfn : fn c.entry = some c.backend) :
    pointers s i fn = some (c.backend, c.block) := by
  rw [pointers, hc.isValidSession, Int.toNat_natCast, hc.2, hfn]
  rfl

theorem chosen_full {protocol : Protocol} (hi : freeSession s.session = none) :
    chosen s protocol = none := by
  rw [chosen, hi]
  rfl

theorem chosen_free {protocol : Protocol} (hi : freeSession s.session = some i) :
    chosen s protocol = (backendOf protocol).map fun backend => (backend, s.nextBlock) := by
  rw [chosen, hi]
  rfl

theorem connect_events {protocol : Protocol} {port timeout r : Int} {name : Option String}
    {tcp : Tcp.ConnectOutcome} {vxi11 : Vxi11.ConnectOutcome}
    (h : lxiConnect (connectEffect port name timeout tcp vxi11) protocol s = some (r, t)) :
    t.world.events =
      s.world.events ++ callEvents s (.connect protocol port name timeout tcp vxi11) := by
  rcases lxiConnect_cases h with ⟨hi, -, rfl⟩ | ⟨i, hi, hb, -, rfl⟩ |
    ⟨i, b, n, w, hi, hb, heffect, h⟩
  · rw [callEvents, chosen_full hi]
    exact (List.append_nil _).symm
  · rw [callEvents, chosen_free hi, hb]
    exact (List.append_nil _).symm
  · rw [callEvents, world_connect h, chosen_free hi, hb]
    cases b with
    | tcp =>
        cases heffect
        rfl
    | vxi11 =>
        cases heffect
        rfl

theorem sendEffect_events {message : Memory.Cells UInt8} {length : Platform.Length}
    {timeout n : Int} {tcp : Tcp.SendOutcome} {vxi11 : Vxi11.WriteReply} {w w' : World} (c : Conn)
    (h : sendEffect message length timeout tcp vxi11 (some c.backend) (some c.block) w =
      some (n, w')) :
    w'.events = w.events ++ onBackend
      (fun b => (Tcp.tcpSend (w.tcp b) message length.val timeout tcp).events)
      (fun b => (Vxi11.vxi11Send (w.vxi11 b) message length.val timeout vxi11).2)
      (c.backend, c.block) := by
  obtain ⟨backend, b⟩ := c
  cases backend with
  | tcp =>
      obtain ⟨m, -, hm⟩ := Option.map_eq_some_iff.mp h
      cases hm
      rfl
  | vxi11 =>
      cases h
      rfl

theorem receiveEffect_events {message : Memory.Cells UInt8} {length : Platform.Length}
    {timeout n : Int} {tcp : Tcp.ReceiveOutcome} {vxi11 : List Vxi11.ReadReply} {w w' : World} (c : Conn)
    (h : receiveEffect message length timeout tcp vxi11 (some c.backend) (some c.block) w =
      some (n, w')) :
    w'.events = w.events ++ onBackend
      (fun b => (Tcp.tcpReceive (w.tcp b) message length.val timeout
        (w.pending (w.tcp b).serverSocket) tcp).events)
      (fun b => (Vxi11.vxi11Receive (w.vxi11 b) message length.val timeout vxi11).events)
      (c.backend, c.block) := by
  obtain ⟨backend, b⟩ := c
  cases backend with
  | tcp | vxi11 =>
      obtain ⟨m, -, hm⟩ := Option.map_eq_some_iff.mp h
      cases hm
      rfl

theorem disconnectEffect_events {w w' : World} (c : Conn) {n : Int}
    (h : disconnectEffect (some c.backend) (some c.block) w = some (n, w')) :
    w'.events = w.events ++ onBackend (fun b => (Tcp.tcpDisconnect (w.tcp b)).2)
      (fun b => (Vxi11.vxi11Disconnect (w.vxi11 b)).2) (c.backend, c.block) := by
  obtain ⟨backend, b⟩ := c
  cases backend with
  | tcp | vxi11 =>
      cases h
      rfl

/-- A call on a handle that is refused does nothing in the world, and any other one
what its backend function does. -/
theorem handle_events {device r : Int} {effect : Effect World}
    {events : Backend × Block → List (Tcp.Event ⊕ Vxi11.Event)}
    {answer : Option (Int × State World)} (result : Int → Int)
    (after : Nat → Conn → World → State World)
    (hcases : isValidSession s.session device = false ∨
      ∃ (i : Nat) (c : Conn), device = i ∧ Live s i c)
    (hinvalid : isValidSession s.session device = false → answer = some (lxiError, s))
    (hlive : ∀ (i : Nat) (c : Conn), device = i → Live s i c →
      answer = (effect (some c.backend) (some c.block) s.world).map fun x =>
        (result x.1, after i c x.2))
    (hworld : ∀ i c w, (after i c w).world = w) (hfn : ∀ c : Conn, fn c.entry = some c.backend)
    (hevents : ∀ (c : Conn) n w, effect (some c.backend) (some c.block) s.world = some (n, w) →
      w.events = s.world.events ++ events (c.backend, c.block))
    (h : answer = some (r, t)) :
    t.world.events = s.world.events ++ (pointers s device fn).elim [] events := by
  rcases hcases with hv | ⟨i, c, rfl, hc⟩
  · rw [hinvalid hv] at h
    cases h
    rw [pointers_invalid hv]
    exact (List.append_nil _).symm
  · rw [hlive i c rfl hc] at h
    obtain ⟨⟨n, w⟩, heffect, h⟩ := Option.map_eq_some_iff.mp h
    cases h
    rw [hworld, pointers_live hc (hfn c)]
    exact hevents c n w heffect

theorem step_events (hs : WellFormed s) {call : Call} (hd : PassesNoBound call)
    (h : step s call = some t) : t.world.events = s.world.events ++ callEvents s call := by
  obtain ⟨⟨r, u⟩, hperform, rfl⟩ := Option.map_eq_some_iff.mp h
  have hcases {device : Int} (hdevice : call.toCall.device = some device) :
      isValidSession s.session device = false ∨
        ∃ (i : Nat) (c : Conn), device = i ∧ Live s i c := by
    refine handle_cases hs ?_
    rintro rfl
    exact hd hdevice
  cases call with
  | connect protocol port name timeout tcp vxi11 => exact connect_events hperform
  | send device message length timeout tcp vxi11 =>
      refine handle_events transferResult (fun _ c w => called s .send c w) (hcases rfl)
        lxiSend_invalid ?_ (fun _ _ _ => rfl) (fun _ => rfl)
        (fun c _ _ => sendEffect_events c) hperform
      rintro i c rfl hc
      exact lxiSend_live hc
  | receive device message length timeout tcp vxi11 =>
      refine handle_events transferResult (fun _ c w => called s .receive c w) (hcases rfl)
        lxiReceive_invalid ?_ (fun _ _ _ => rfl) (fun _ => rfl)
        (fun c _ _ => receiveEffect_events c) hperform
      rintro i c rfl hc
      exact lxiReceive_live hc
  | disconnect device =>
      refine handle_events (fun _ => lxiOk) (disconnectDone s) (hcases rfl) lxiDisconnect_invalid ?_
        (fun _ _ _ => rfl) (fun _ => rfl) (fun c _ _ => disconnectEffect_events c) hperform
      rintro i c rfl hc
      exact lxiDisconnect_live hc

end Calls

end LibLxi.DescriptorTable

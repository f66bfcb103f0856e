import LibLxi.Backends
import LibLxi.ClientInvariant
import LibLxi.LinkOps
import LibLxi.SessionData

namespace LibLxi.LinkProtocol

open Application (Client)
open Backends hiding step
open ClientInvariant LinkLife LinkOps Lxi Machine Memory SessionData SessionInvariant
open DeviceId (ProbeOutcome getDeviceId)

structure Wire where
  client : Client (State World)
  log : List (Option Vxi11.Client × Op Int32)

inductive Action
  | call (call : Call)
  | probe (timeout : Int) (id : Cells UInt8) (o : ProbeOutcome)

def linkAnswer : Call → Option Int32
  | .connect _ _ _ _ _ o => answerOf o.link
  | .send .. | .receive .. | .disconnect _ => none

def rpcSince (w w' : World) : List Vxi11.Event :=
  (w'.events.drop w.events.length).filterMap Sum.getRight?

/-- A call takes its turn when it returns, a probe when it ends, be it with a
value or with an access to memory that is not there. -/
def step (s : Wire) : Action → Option Wire
  | .call call =>
      (Backends.step s.client call).map fun client =>
        ⟨client, s.log ++
          (rpcSince s.client.lib.world client.lib.world).filterMap (linkOp (linkAnswer call))⟩
  | .probe timeout id o =>
      match (getDeviceId timeout id o).result with
      | .error .waiting => none
      | _ => some { s with log := s.log ++ probeOps timeout id o }

def start (session : Nat → Session) (w : World) : Wire :=
  ⟨⟨initial session w, [], []⟩, []⟩

def vxi11Connects : Action → Option Vxi11.ConnectOutcome
  | .call (.connect .vxi11 _ _ _ _ o) => some o
  | .call _ => none
  | .probe _ _ o => some o.connect

/-- The connect thread ends before its deadline. -/
def InTime (a : Action) : Prop := ∀ o ∈ vxi11Connects a, o.timedjoin = 0

/-- clnt_create returns no client that is still in use. -/
def FreshClient (s : Wire) (a : Action) : Prop :=
  ∀ t, step s a = some t → ∀ client, (some client, .create) ∈ t.log.drop s.log.length →
    Idle (some client) s.log

def Permitted (s : Wire) (a : Action) : Prop := InTime a ∧ FreshClient s a

/-- A probe leaves no client behind: on each client it makes none or all of the
operations of a life, the last of them clnt_destroy. -/
def ProbeEnds (s : Wire) : Action → Prop
  | .call _ => True
  | .probe timeout id o => ∀ t, step s (.probe timeout id o) = some t →
      ∀ client, opsOn client (t.log.drop s.log.length) = [] ∨
        Life (opsOn client (t.log.drop s.log.length))

def linkOf (w : World) (b : Block) : Option Vxi11.Client × Int32 :=
  ((w.vxi11 b).rpcClient, (w.vxi11 b).linkResp.lid)

abbrev Holds (s : State World) (i : Nat) (link : Option Vxi11.Client × Int32) : Prop :=
  Holding .vxi11 linkOf s i link

structure Invariant (s : Wire) : Prop where
  sound : Sound s.client
  served : Served (Holds s.client.lib) s.log
  null : opsOn none s.log = []

inductive Change (s t : Wire) : Prop
  | quiet (hlog : t.log = s.log)
      (hholds : ∀ j x, Holds t.client.lib j x ↔ Holds s.client.lib j x)
  | lived (client : Vxi11.Client) (life : List (Op Int32)) (hlife : Life life)
      (hlog : t.log = s.log ++ on (some client) life)
      (hholds : ∀ j x, Holds t.client.lib j x ↔ Holds s.client.lib j x)
  | linked (i : Nat) (client : Vxi11.Client) (lid : Int32)
      (hlog : t.log = s.log ++ on (some client) [.create, .createLink (some lid)])
      (hholds : ∀ j x, Holds t.client.lib j x ↔
        j = i ∧ x = (some client, lid) ∨ Holds s.client.lib j x)
  | transferred (i : Nat) (client : Option Vxi11.Client) (lid : Int32) (ops : List (Op Int32))
      (hi : Holds s.client.lib i (client, lid)) (hops : Transfers lid ops)
      (hlog : t.log = s.log ++ on client ops)
      (hholds : ∀ j x, Holds t.client.lib j x ↔ Holds s.client.lib j x)
  | closed (i : Nat) (client : Option Vxi11.Client) (lid : Int32)
      (hi : Holds s.client.lib i (client, lid))
      (hlog : t.log = s.log ++ on client [.destroyLink lid, .destroy])
      (hholds : ∀ j x, Holds t.client.lib j x ↔ j ≠ i ∧ Holds s.client.lib j x)

section Steps

variable {s t : Wire} {a : Action}

theorem Invariant.client_ne_none (hs : Invariant s) {i : Nat} {client : Option Vxi11.Client}
    {lid : Int32} (hi : Holds s.client.lib i (client, lid)) : client ≠ none := by
  rintro rfl
  exact (hs.served.held hi).ne_nil hs.null

theorem Change.null (hs : Invariant s) (h : Change s t) : opsOn none t.log = [] := by
  cases h with
  | quiet hlog => rw [hlog, hs.null]
  | lived client life hlife hlog => rw [hlog, opsOn_append_of_ne (by simp), hs.null]
  | linked i client lid hlog => rw [hlog, opsOn_append_of_ne (by simp), hs.null]
  | transferred i client lid ops hi hops hlog =>
      rw [hlog, opsOn_append_of_ne (hs.client_ne_none hi), hs.null]
  | closed i client lid hi hlog => rw [hlog, opsOn_append_of_ne (hs.client_ne_none hi), hs.null]

theorem Change.served (hs : Invariant s) (h : Change s t)
    (hfresh : ∀ client, (some client, .create) ∈ t.log.drop s.log.length →
      Idle (some client) s.log) : Served (Holds t.client.lib) t.log := by
  cases h with
  | quiet hlog hholds =>
      rw [hlog]
      exact hs.served.congr hholds
  | lived client life hlife hlog hholds =>
      rw [hlog, List.drop_left] at hfresh
      have hcreate : (some client, .create) ∈ on (some client) life := by
        cases hlife <;> simp [on]
      rw [hlog]
      exact (hs.served.lived (hfresh client hcreate) hlife).congr hholds
  | linked i client lid hlog hholds =>
      rw [hlog, List.drop_left] at hfresh
      have hcreate : (some client, .create) ∈ on (some client) [.create, .createLink (some lid)] :=
        List.mem_cons_self
      rw [hlog]
      exact hs.served.linked (hfresh client hcreate) hholds
  | transferred i client lid ops hi hops hlog hholds =>
      rw [hlog]
      exact (hs.served.transferred hi (fun x hx => hi.unique hx) hops).congr hholds
  | closed i client lid hi hlog hholds =>
      rw [hlog]
      exact hs.served.closed hi (fun x hx => hi.unique hx) hholds

theorem rpcSince_self (w : World) : rpcSince w w = [] := by simp [rpcSince]

theorem rpcSince_rpc {w w' : World} {events : List Vxi11.Event}
    (h : w'.events = w.events ++ events.map .inr) : rpcSince w w' = events := by
  simp [rpcSince, h, List.filterMap_map, Function.comp_def]

theorem rpcSince_tcp {w w' : World} {events : List Tcp.Event}
    (h : w'.events = w.events ++ events.map .inl) : rpcSince w w' = [] := by
  simp [rpcSince, h, List.filterMap_map, Function.comp_def]

theorem linkOf_congr {w w' : World} (hw : w'.vxi11 = w.vxi11) : linkOf w' = linkOf w := by
  funext b
  rw [linkOf, linkOf, hw]

structure Transferred (c : Conn) (w w' : World) : Prop where
  data : w'.vxi11 = w.vxi11
  ops : rpcSince w w' = [] ∨ c.backend = .vxi11 ∧ ∃ ops,
    (rpcSince w w').filterMap (linkOp none) = on (linkOf w c.block).1 ops ∧
      Transfers (linkOf w c.block).2 ops

theorem sendEffect_transferred {message : Cells UInt8} {length : Platform.Length} {timeout n : Int}
    {tcp : Tcp.SendOutcome} {vxi11 : Vxi11.WriteReply} {c : Conn} {w w' : World}
    (h : sendEffect message length timeout tcp vxi11 (some c.backend) (some c.block) w =
      some (n, w')) : Transferred c w w' := by
  obtain ⟨backend, b⟩ := c
  cases backend with
  | tcp =>
      obtain ⟨m, -, hm⟩ := Option.map_eq_some_iff.mp h
      cases hm
      exact ⟨rfl, .inl (rpcSince_tcp rfl)⟩
  | vxi11 =>
      cases h
      refine ⟨rfl, .inr ⟨rfl, [.write (w.vxi11 b).linkResp.lid], ?_, by simp [Transfers, linkOf]⟩⟩
      rw [rpcSince_rpc rfl]
      exact vxi11Send_ops _ _ _ _ _

theorem receiveEffect_transferred {message : Cells UInt8} {length : Platform.Length}
    {timeout n : Int} {tcp : Tcp.ReceiveOutcome} {vxi11 : List Vxi11.ReadReply} {c : Conn}
    {w w' : World}
    (h : receiveEffect message length timeout tcp vxi11 (some c.backend) (some c.block) w =
      some (n, w')) : Transferred c w w' := by
  obtain ⟨backend, b⟩ := c
  cases backend with
  | tcp =>
      obtain ⟨m, -, hm⟩ := Option.map_eq_some_iff.mp h
      cases hm
      exact ⟨rfl, .inl (rpcSince_tcp rfl)⟩
  | vxi11 =>
      obtain ⟨m, -, hm⟩ := Option.map_eq_some_iff.mp h
      cases hm
      obtain ⟨ops, hevents, hops⟩ :=
        vxi11Receive_ops none (w.vxi11 b) message length.val timeout vxi11
      refine ⟨rfl, .inr ⟨rfl, ops, ?_, hops⟩⟩
      rw [rpcSince_rpc rfl]
      exact hevents

theorem unchanged_change (hlib : t.client.lib = s.client.lib) (hlog : t.log = s.log) :
    Change s t := by
  refine .quiet hlog fun j x => ?_
  rw [hlib]

theorem transfer_change {i : Nat} {c : Conn} {w : World} {op : Operation}
    (hc : Live s.client.lib i c) (hw : Transferred c s.client.lib.world w)
    (hlib : t.client.lib = called s.client.lib op c w)
    (hlog : t.log = s.log ++ (rpcSince s.client.lib.world w).filterMap (linkOp none)) :
    Change s t := by
  have hholds (j : Nat) (x) : Holds t.client.lib j x ↔ Holds s.client.lib j x := by
    rw [hlib]
    exact holding_called (linkOf_congr hw.data) j x
  rcases hw.ops with hnone | ⟨hb, ops, hevents, hops⟩
  · rw [hnone, List.filterMap_nil, List.append_nil] at hlog
    exact .quiet hlog hholds
  · obtain ⟨backend, b⟩ := c
    obtain rfl : backend = .vxi11 := hb
    rw [hevents] at hlog
    exact .transferred i _ _ ops ⟨b, hc, rfl⟩ hops hlog hholds

theorem disconnect_change {i : Nat} {c : Conn} (hc : Live s.client.lib i c) {n : Int} {w : World}
    (hw : disconnectEffect (some c.backend) (some c.block) s.client.lib.world = some (n, w))
    (hlib : t.client.lib = disconnectDone s.client.lib i c w)
    (hlog : t.log = s.log ++ (rpcSince s.client.lib.world w).filterMap (linkOp none)) :
    Change s t := by
  obtain ⟨backend, b⟩ := c
  cases backend with
  | tcp =>
      cases hw
      rw [rpcSince_tcp rfl, List.filterMap_nil, List.append_nil] at hlog
      refine .quiet hlog fun j x => ?_
      rw [hlib]
      exact holding_disconnectDone_other hc (by simp) (linkOf_congr rfl) j x
  | vxi11 =>
      cases hw
      rw [rpcSince_rpc rfl] at hlog
      have hops := hlog.trans (congrArg _ (vxi11Disconnect_ops (s.client.lib.world.vxi11 b)))
      refine .closed i _ _ ⟨b, hc, rfl⟩ hops fun j x => ?_
      rw [hlib]
      exact holding_disconnectDone (linkOf_congr rfl) j x

theorem linkOf_update {s : State World} {w : World} {data : Vxi11.Vxi11Data}
    (hw : w.vxi11 = Function.update s.world.vxi11 s.nextBlock data) (b : Block)
    (hb : b ≠ s.nextBlock) : linkOf w b = linkOf s.world b := by
  rw [linkOf, linkOf, hw, Function.update_of_ne hb]

theorem vxi11_of_backendOf {protocol : Protocol} (h : backendOf protocol = some .vxi11) :
    protocol = .vxi11 := by
  cases protocol with
  | vxi11 => rfl
  | raw | hislip | unknown => cases h

section ConnectEffect

variable {port timeout n : Int} {name : Option String} {tcp : Tcp.ConnectOutcome}
variable {o : Vxi11.ConnectOutcome} {b : Block} {w w' : World}

theorem connectEffect_tcp
    (h : connectEffect port name timeout tcp o (some .tcp) (some b) w = some (n, w')) :
    w'.vxi11 = w.vxi11 ∧ rpcSince w w' = [] := by
  cases h
  exact ⟨rfl, rpcSince_tcp rfl⟩

theorem connectEffect_vxi11 (hjoin : o.timedjoin = 0)
    (h : connectEffect port name timeout tcp o (some .vxi11) (some b) w = some (n, w')) :
    ∃ data, w'.vxi11 = Function.update w.vxi11 b data ∧
      Linked o.link (n, data, (rpcSince w w').filterMap (linkOp (answerOf o.link))) := by
  cases h
  refine ⟨_, rfl, ?_⟩
  rw [rpcSince_rpc rfl]
  exact vxi11Connect_linked _ _ _ hjoin

end ConnectEffect

theorem vxi11_connect_change (hs : WellFormed s.client.lib) {i : Nat}
    (hi : freeSession s.client.lib.session = some i) {o : Vxi11.ConnectOutcome} {n r : Int}
    {w : World} {data : Vxi11.Vxi11Data}
    (hdata : w.vxi11 = Function.update s.client.lib.world.vxi11 s.client.lib.nextBlock data)
    (hlinked : Linked o.link
      (n, data, (rpcSince s.client.lib.world w).filterMap (linkOp (answerOf o.link))))
    (hlib : n ≠ 0 ∧ r = lxiError ∧
        t.client.lib = connectFailed s.client.lib i ⟨.vxi11, s.client.lib.nextBlock⟩ w ∨
      n = 0 ∧ r = i ∧ t.client.lib = connectDone s.client.lib i ⟨.vxi11, s.client.lib.nextBlock⟩ w)
    (hlog : t.log = s.log ++
      (rpcSince s.client.lib.world w).filterMap (linkOp (answerOf o.link))) :
    Change s t := by
  have hholds (j : Nat) (x) : Holds t.client.lib j x ↔
      n = 0 ∧ Backend.vxi11 = .vxi11 ∧ j = i ∧ x = linkOf w s.client.lib.nextBlock ∨
        Holds s.client.lib j x :=
    holding_connect hs hi hlib (linkOf_update hdata) j x
  have hfailed (hn : n = -1) (j : Nat) (x) :
      Holds t.client.lib j x ↔ Holds s.client.lib j x := by
    rw [hholds]
    exact or_iff_right fun h => by simp [hn] at h
  generalize (rpcSince s.client.lib.world w).filterMap (linkOp (answerOf o.link)) = ops
    at hlinked hlog
  cases hlinked with
  | unmade => exact .quiet (hlog.trans (List.append_nil _)) (hfailed rfl)
  | refused client => exact .lived client _ .refused hlog (hfailed rfl)
  | linked client =>
      refine .linked i client _ hlog fun j x => ?_
      have hnew : linkOf w s.client.lib.nextBlock = (some client, o.link.linkResp.lid) := by
        rw [linkOf, hdata, Function.update_self]
      rw [hholds, hnew]
      simp

theorem connect_change (hs : WellFormed s.client.lib) {protocol : Protocol} {port timeout r : Int}
    {name : Option String} {tcp : Tcp.ConnectOutcome} {o : Vxi11.ConnectOutcome}
    (hjoin : protocol = .vxi11 → o.timedjoin = 0)
    (h : lxiConnect (connectEffect port name timeout tcp o) protocol s.client.lib =
      some (r, t.client.lib))
    (hlog : t.log = s.log ++
      (rpcSince s.client.lib.world t.client.lib.world).filterMap (linkOp (answerOf o.link))) :
    Change s t := by
  rcases lxiConnect_cases h with ⟨-, -, hlib⟩ | ⟨i, -, -, -, hlib⟩ | ⟨i, b, n, w, hi, hb, heffect, h⟩
  · have hworld : t.client.lib.world = s.client.lib.world := by rw [hlib]; rfl
    rw [hworld, rpcSince_self, List.filterMap_nil, List.append_nil] at hlog
    refine .quiet hlog fun j x => ?_
    rw [hlib]
    exact holding_congr (fun _ => Iff.rfl) (fun _ _ => rfl) x
  · rw [hlib, rpcSince_self, List.filterMap_nil, List.append_nil] at hlog
    exact unchanged_change hlib hlog
  · rw [world_connect h] at hlog
    cases b with
    | tcp =>
        obtain ⟨hdata, hnone⟩ := connectEffect_tcp heffect
        have hkept (b : Block) (_ : b ≠ s.client.lib.nextBlock) :
            linkOf w b = linkOf s.client.lib.world b := congrFun (linkOf_congr hdata) b
        rw [hnone, List.filterMap_nil, List.append_nil] at hlog
        refine .quiet hlog fun j x => ?_
        rw [Holds, holding_connect hs hi h hkept]
        exact or_iff_right (by simp)
    | vxi11 =>
        obtain ⟨data, hdata, hlinked⟩ :=
          connectEffect_vxi11 (hjoin (vxi11_of_backendOf hb)) heffect
        exact vxi11_connect_change hs hi hdata hlinked h hlog

theorem call_change (hs : Invariant s) {call : Call} {client : Client (State World)}
    (hin : InTime (.call call)) (h : Backends.step s.client call = some client)
    (hlog : t.log = s.log ++
      (rpcSince s.client.lib.world client.lib.world).filterMap (linkOp (linkAnswer call)))
    (hclient : t.client = client) : Change s t := by
  obtain ⟨hissued, r, lib, hperform, rfl⟩ := Application.step_eq_some.mp h
  have hwf := hs.sound.wellFormed
  have hr := perform_outcome hwf (hs.sound.guard hissued) hperform
  have hlib : t.client.lib = lib := congrArg Client.lib hclient
  cases call with
  | connect protocol port name timeout tcp o =>
      have hr : Outcome s.client.lib (.connect protocol (connectEffect port name timeout tcp o)) r
        lib := hr
      cases hr with
      | connected h =>
          subst lib
          refine connect_change hwf ?_ h hlog
          rintro rfl
          exact hin o rfl
      | rejected hdevice => exact absurd rfl hdevice
  | send device message length timeout tcp vxi11 =>
      have hr : Outcome s.client.lib (.send device (sendEffect message length timeout tcp vxi11)) r
        lib := hr
      cases hr with
      | rejected => exact unchanged_change hlib (hlog.trans (by rw [rpcSince_self]; simp))
      | sent hc hx => exact transfer_change hc (sendEffect_transferred hx) hlib hlog
  | receive device message length timeout tcp vxi11 =>
      have hr : Outcome s.client.lib
        (.receive device (receiveEffect message length timeout tcp vxi11)) r lib := hr
      cases hr with
      | rejected => exact unchanged_change hlib (hlog.trans (by rw [rpcSince_self]; simp))
      | received hc hx => exact transfer_change hc (receiveEffect_transferred hx) hlib hlog
  | disconnect device =>
      have hr : Outcome s.client.lib (.disconnect device disconnectEffect) r lib := hr
      cases hr with
      | rejected => exact unchanged_change hlib (hlog.trans (by rw [rpcSince_self]; simp))
      | disconnected hc hx => exact disconnect_change hc hx hlib hlog

theorem probeStep_cases {timeout : Int} {id : Cells UInt8} {o : ProbeOutcome}
    (h : step s (.probe timeout id o) = some t) :
    (getDeviceId timeout id o).result ≠ .error .waiting ∧
      t = { s with log := s.log ++ probeOps timeout id o } := by
  change (match (getDeviceId timeout id o).result with
    | .error .waiting => none
    | _ => some { s with log := s.log ++ probeOps timeout id o }) = some t at h
  split at h
  · cases h
  · rename_i hne
    exact ⟨hne, (Option.some.inj h).symm⟩

theorem step_change (hs : Invariant s) (hin : InTime a) (h : step s a = some t) : Change s t := by
  cases a with
  | call call =>
      obtain ⟨client, hclient, rfl⟩ := Option.map_eq_some_iff.mp h
      exact call_change hs hin hclient rfl rfl
  | probe timeout id o =>
      obtain ⟨hends, rfl⟩ := probeStep_cases h
      rcases probeOps_life (hin o.connect rfl) hends with hnone | ⟨client, life, hlife, hops⟩
      · exact unchanged_change rfl (by rw [hnone, List.append_nil])
      · exact .lived client life hlife (by rw [hops]) fun _ _ => Iff.rfl

theorem step_sound (hs : Invariant s) (h : step s a = some t) : Sound t.client := by
  cases a with
  | call call =>
      obtain ⟨client, hclient, rfl⟩ := Option.map_eq_some_iff.mp h
      exact ClientInvariant.step_sound hs.sound hclient
  | probe timeout id o =>
      obtain ⟨-, rfl⟩ := probeStep_cases h
      exact hs.sound

theorem step_invariant (hs : Invariant s) (hp : Permitted s a) (h : step s a = some t) :
    Invariant t := by
  have hchange := step_change hs hp.1 h
  exact ⟨step_sound hs h, hchange.served hs (hp.2 t h), hchange.null hs⟩

theorem probeEnds_of_inTime (s : Wire) (hin : InTime a) : ProbeEnds s a := by
  cases a with
  | call call => trivial
  | probe timeout id o =>
      intro t h client
      obtain ⟨hends, rfl⟩ := probeStep_cases h
      simp only [List.drop_left]
      rcases probeOps_life (hin o.connect rfl) hends with hnone | ⟨own, life, hlife, hops⟩
      · rw [hnone]
        exact .inl rfl
      · rw [hops]
        by_cases hown : some own = client
        · subst client
          rw [opsOn_on_self]
          exact .inr hlife
        · exact .inl (opsOn_on_of_ne hown life)

end Steps

theorem invariant_start (session : Nat → Session) (w : World) : Invariant (start session w) where
  sound := sound_initial session w
  served := by
    apply served_nil
    rintro i x ⟨b, hb, -⟩
    exact not_live_initial _ _ _ _ hb
  null := rfl

/-- In every run of an application and of probes whose connect threads are in
time the operations on every RPC client are those of lives, one after the other;
none is made on the null client, and every probe destroys the client it has. -/
theorem links_follow_protocol (session : Nat → Session) (w : World) {actions : List Action}
    (hp : Along step Permitted (start session w) actions) :
    (∀ t, run step (start session w) actions = some t →
      (∀ client, Conforms (opsOn client t.log)) ∧ opsOn none t.log = []) ∧
    Along step ProbeEnds (start session w) actions := by
  refine ⟨fun t h => ?_, ?_⟩
  · have ht : Invariant t :=
      run_preserves_along (fun _ _ _ hs hp h => step_invariant hs hp h) (invariant_start session w)
        hp h
    exact ⟨ht.served.conforms, ht.null⟩
  · refine along_mono ?_ hp
    exact fun s a hp => probeEnds_of_inTime s hp.1

theorem step_call {s : Wire} {call : Call} {client : Client (State World)}
    (h : Backends.step s.client call = some client) :
    step s (.call call) = some ⟨client, s.log ++
      (rpcSince s.client.lib.world client.lib.world).filterMap (linkOp (linkAnswer call))⟩ := by
  rw [step, h, Option.map_some]

theorem permitted_of_step {s t : Wire} {a : Action} (h : step s a = some t) (hin : InTime a)
    (hfresh : ∀ x ∈ t.log.drop s.log.length, x.2 = .create →
      ∀ op ∈ (opsOn x.1 s.log).getLast?, op = .destroy) : Permitted s a := by
  refine ⟨hin, fun t' h' client hclient => ?_⟩
  cases h.symm.trans h'
  exact hfresh _ hclient rfl

def accepted (client : Vxi11.Client) (lid : Int32) : Vxi11.ConnectOutcome where
  clockGettime := 0
  now := ⟨0, 0⟩
  pthreadCreate := 0
  timedjoin := 0
  done := 0
  link := ⟨some client, .success, ⟨0, lid, 0, 0⟩⟩

def unwritable : ProbeOutcome where
  data := default
  connect := accepted 9 5
  write := ⟨.failure 1, default⟩
  replies := []
  tcpConnect := default
  tcpSend := default
  tcpReceive := default
  pending := []
  response := fun _ => 0
  mapped := 0
  doc := none

def opening : Action := .call (.connect .vxi11 0 none 1000 default (accepted 7 3))

def probing : List Action :=
  [.probe 1000 (fun _ => 0) unwritable,
    .call (.send 0 (fun _ => 0) ⟨5, by decide⟩ 1000 default default), .call (.disconnect 0)]

def linkedWorld : World :=
  { quiet [] with vxi11 := Function.update default 0 ⟨some 7, ⟨0, 3, 0, 0⟩⟩ }.rpcEvents
    [.timedjoin (Vxi11.connectDeadline ⟨0, 0⟩ 1000), .clntCreate (some 7),
      .createLink (some 7) (Vxi11.linkParms 7 none)]

def linkedClient : Client (State World) :=
  ⟨connectDone (initial default (quiet [])) 0 ⟨.vxi11, 0⟩ linkedWorld, [0], [0]⟩

theorem step_opening :
    step (start default (quiet [])) opening =
      some ⟨linkedClient, on (some 7) [.create, .createLink (some 3)]⟩ := by
  have hconnect : lxiConnect (connectEffect 0 none 1000 default (accepted 7 3)) .vxi11
      (initial default (quiet [])) = some ((0 : Int), linkedClient.lib) := by
    rw [lxiConnect_supported (freeSession_initial _ _) rfl]
    rfl
  have hcall : Backends.step (start default (quiet [])).client
      (.connect .vxi11 0 none 1000 default (accepted 7 3)) = some linkedClient := by
    rw [Backends.step, Application.step, if_pos (by rintro _ ⟨⟩)]
    change Option.map _ (lxiConnect (connectEffect 0 none 1000 default (accepted 7 3)) .vxi11
      (initial default (quiet []))) = _
    rw [hconnect]
    rfl
  rw [opening, step_call hcall]
  rfl

theorem links_follow_protocol_probing :
    ∃ t, run step (start default (quiet [])) (opening :: probing) = some t ∧
      opsOn (some 9) t.log =
        [.create, .createLink (some 5), .write 5, .destroyLink 5, .destroy] ∧
      (∀ client, Conforms (opsOn client t.log)) ∧
      Along step ProbeEnds (start default (quiet [])) (opening :: probing) := by
  obtain ⟨t, hrun, hops⟩ : ∃ t, run step (start default (quiet [])) (opening :: probing) = some t ∧
      opsOn (some 9) t.log =
        [.create, .createLink (some 5), .write 5, .destroyLink 5, .destroy] := by
    rw [run_cons, step_opening, Option.bind_some]
    exact ⟨_, rfl, rfl⟩
  have hp : Along step Permitted (start default (quiet [])) (opening :: probing) := by
    refine (along_cons_of_step step_opening).mpr ⟨permitted_of_step step_opening ?_ (by decide), ?_⟩
    · rintro o ⟨⟩
      rfl
    refine (along_cons_of_step rfl).mpr ⟨permitted_of_step rfl ?_ (by decide), ?_⟩
    · rintro o ⟨⟩
      rfl
    iterate 2
      refine (along_cons_of_step rfl).mpr ⟨permitted_of_step rfl (by rintro o ⟨⟩) (by decide), ?_⟩
    exact trivial
  obtain ⟨hfollow, hends⟩ := links_follow_protocol default (quiet []) hp
  exact ⟨t, hrun, hops, (hfollow t hrun).1, hends⟩

end LibLxi.LinkProtocol

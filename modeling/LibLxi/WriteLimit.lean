import LibLxi.LinkErrors
import LibLxi.LinkProtocol

namespace LibLxi.WriteLimit

open Application (Client)
open Backends hiding step
open ClientInvariant LinkErrors LinkProtocol Lxi Machine Memory Platform
open SessionData SessionInvariant
open Vxi11 (DeviceWriteParms Vxi11Data WriteReply vxi11Connect vxi11Receive vxi11Send writeParms)

/-- The pieces of a message, in order. The end mark is on none of them but the
one that holds the last element, if there is an element. -/
structure Carries {α : Type} (message : List α) (pieces : List (List α × Bool)) : Prop where
  whole : pieces.flatMap Prod.fst = message
  marked : ∀ before piece after, pieces = before ++ piece :: after → piece.2 = true →
    after.flatMap Prod.fst = [] ∧ (message ≠ [] → piece.1 ≠ [])

theorem carries_singleton {α : Type} (message : List α) (mark : Bool) :
    Carries message [(message, mark)] where
  whole := List.append_nil message
  marked before piece after h _ := by
    obtain ⟨rfl, hcons⟩ | ⟨_, -, hnil⟩ := List.cons_eq_append_iff.mp h
    · cases hcons
      exact ⟨rfl, id⟩
    · simp at hnil

def endFlag : Int32 := 0x08

def pieceOf (parms : DeviceWriteParms) : List UInt8 × Bool :=
  (parms.data, decide (parms.flags &&& endFlag ≠ 0))

def writeOf : Vxi11.Event → Option (Option Vxi11.Client × DeviceWriteParms)
  | .deviceWrite client parms => some (client, parms)
  | _ => none

section Writes

variable (data : Vxi11Data) (name : Option String) (message : Cells UInt8) (length : Nat)
  (timeout : Int)

theorem vxi11Send_writes (reply : WriteReply) :
    (vxi11Send data message length timeout reply).2.filterMap writeOf =
      [(data.rpcClient, writeParms data message length timeout)] := by
  rw [vxi11Send]
  split <;> rfl

theorem _vxi11Connect_unwritten (o : Vxi11.LinkOutcome) :
    ∀ e ∈ (Vxi11._vxi11Connect data name o).2.2, writeOf e = none := by
  cases hclient : o.clntCreate with
  | none =>
      rw [Vxi11._vxi11Connect_uncreated hclient]
      simp [writeOf]
  | some client =>
      by_cases hstatus : o.status = .success
      · rw [Vxi11._vxi11Connect_succeeded hclient hstatus]
        simp [writeOf]
      · rw [Vxi11._vxi11Connect_failed hclient hstatus]
        simp [writeOf]

theorem vxi11Connect_writes (o : Vxi11.ConnectOutcome) :
    (vxi11Connect data name timeout o).2.2.filterMap writeOf = [] := by
  have hconnect := _vxi11Connect_unwritten data name o.link
  rw [List.filterMap_eq_nil_iff]
  by_cases hclock : o.clockGettime = 0
  · by_cases hcreate : o.pthreadCreate = 0
    · by_cases hjoin : o.timedjoin = 0
      · rw [Vxi11.vxi11Connect_joined hclock hcreate hjoin]
        exact List.forall_mem_cons.mpr ⟨rfl, hconnect⟩
      · rw [Vxi11.vxi11Connect_timedOut hclock hcreate hjoin]
        exact List.forall_mem_cons.mpr ⟨rfl, fun e he => hconnect e (List.mem_of_mem_take he)⟩
    · rw [Vxi11.vxi11Connect_uncreated hclock hcreate]
      exact List.forall_mem_singleton.mpr rfl
  · rw [Vxi11.vxi11Connect_unclocked hclock]
    exact List.forall_mem_singleton.mpr rfl

theorem vxi11Receive_writes (replies : List Vxi11.ReadReply) :
    (vxi11Receive data message length timeout replies).events.filterMap writeOf = [] := by
  rw [vxi11Receive, List.filterMap_eq_nil_iff]
  intro e he
  cases ReadLoop.receiveLoop_reads e he <;> rfl

end Writes

/-- An application and, for each of its handles, the RPC client and the
create_link reply that its connect was answered with. -/
structure Announced where
  client : Client (State World)
  link : Int → Option Vxi11Data

/-- A handle stands for its link from the connect that returns it to the
disconnect. -/
def relink (link : Int → Option Vxi11Data) : Call → Int → Int → Option Vxi11Data
  | .connect .vxi11 _ _ _ _ o, r =>
      if 0 ≤ r then Function.update link r (some ⟨o.link.clntCreate, o.link.linkResp⟩) else link
  | .disconnect device, r => if r = lxiOk then Function.update link device none else link
  | _, _ => link

def returned (c : Client (State World)) : Int := c.results.headD lxiError

def step (s : Announced) (call : Call) : Option Announced :=
  (Backends.step s.client call).map fun client => ⟨client, relink s.link call (returned client)⟩

def start (session : Nat → Session) (w : World) : Announced :=
  ⟨⟨initial session w, [], []⟩, fun _ => none⟩

def writes (s t : Announced) : List (Option Vxi11.Client × DeviceWriteParms) :=
  (rpcSince s.client.lib.world t.client.lib.world).filterMap writeOf

/-- Every request goes to the link of the call's handle, within its limit. -/
def Limited (s : Announced) (call : Call) (t : Announced) : Prop :=
  ∀ w ∈ writes s t, ∃ device link, call.toCall.device = some device ∧
    s.link device = some link ∧ w.1 = link.rpcClient ∧ w.2.lid = link.linkResp.lid ∧
      w.2.data.length ≤ link.linkResp.maxRecvSize.toNat

/-- A send on a link returns the length only for requests that carry the message. -/
def Delivered (s : Announced) : Call → Announced → Prop
  | .send device message length _ _ _, t =>
      s.link device ≠ none → returned t.client = length.val →
        Carries (read message 0 length.val) ((writes s t).map fun w => pieceOf w.2)
  | .connect .., _ | .receive .., _ | .disconnect _, _ => True

def Respects (s : Announced) (call : Call) : Prop :=
  ∀ t, step s call = some t → Limited s call t ∧ Delivered s call t

/-- A message for a link is no longer than the device of the link announced. -/
def Fits (s : Announced) : Call → Prop
  | .send device _ length _ _ _ =>
      ∀ link, s.link device = some link → length.val ≤ link.linkResp.maxRecvSize.toNat
  | .connect .. | .receive .. | .disconnect _ => True

abbrev Holds (s : Announced) (i : Nat) (link : Vxi11Data) : Prop :=
  Holding .vxi11 World.vxi11 s.client.lib i link

structure Invariant (s : Announced) : Prop where
  sound : Sound s.client
  held : ∀ i link, s.link (i : Nat) = some link ↔ Holds s i link
  issued : ∀ device, s.link device ≠ none → device ∈ s.client.issued

def sent (s : Announced) : Call → List (Option Vxi11.Client × DeviceWriteParms)
  | .send device message length timeout _ _ =>
      match s.link device with
      | some link => [(link.rpcClient, writeParms link message length.val timeout)]
      | none => []
  | .connect .. | .receive .. | .disconnect _ => []

section Steps

variable {s t : Announced} {call : Call}

theorem step_eq_some :
    step s call = some t ↔
      (∀ device ∈ call.toCall.device, device ∈ s.client.issued) ∧
        ∃ r lib, Application.perform s.client.lib call.toCall = some (r, lib) ∧
          t = ⟨⟨lib, r :: s.client.results,
            Application.issues call.toCall r ++ s.client.issued⟩, relink s.link call r⟩ := by
  rw [step, Option.map_eq_some_iff]
  constructor
  · rintro ⟨client, hstep, rfl⟩
    obtain ⟨hissued, r, lib, hperform, rfl⟩ := Application.step_eq_some.mp hstep
    exact ⟨hissued, r, lib, hperform, rfl⟩
  · rintro ⟨hissued, r, lib, hperform, rfl⟩
    exact ⟨_, Application.step_eq_some.mpr ⟨hissued, r, lib, hperform, rfl⟩, rfl⟩

theorem Invariant.nonneg (hs : Invariant s) {device : Int} (h : s.link device ≠ none) :
    ∃ i : Nat, device = i :=
  Int.eq_ofNat_of_zero_le (hs.sound.issued device (hs.issued device h)).1

theorem Invariant.live (hs : Invariant s) {device : Int} {link : Vxi11Data}
    (h : s.link device = some link) :
    ∃ (i : Nat) (b : Block), device = i ∧ Live s.client.lib i ⟨.vxi11, b⟩ ∧
      s.client.lib.world.vxi11 b = link := by
  have hne : s.link device ≠ none := by simp [h]
  obtain ⟨i, rfl⟩ := hs.nonneg hne
  obtain ⟨b, hb, hlink⟩ := (hs.held i link).mp h
  exact ⟨i, b, rfl, hb, hlink⟩

theorem Invariant.link_of_live (hs : Invariant s) {i : Nat} {b : Block}
    (hb : Live s.client.lib i ⟨.vxi11, b⟩) : s.link i = some (s.client.lib.world.vxi11 b) :=
  (hs.held i _).mpr ⟨b, hb, rfl⟩

theorem Invariant.link_eq_none (hs : Invariant s) {device : Int}
    (h : ∀ (i : Nat) (b : Block), device = i → ¬ Live s.client.lib i ⟨.vxi11, b⟩) :
    s.link device = none := by
  cases hlink : s.link device with
  | none => rfl
  | some link =>
      obtain ⟨i, b, hi, hb, -⟩ := hs.live hlink
      exact absurd hb (h i b hi)

structure Kept (s : Announced) (call : Call) (t : Announced) : Prop where
  writes_eq : writes s t = sent s call
  held : ∀ i link, t.link (i : Nat) = some link ↔ Holds t i link

theorem writes_of_same (h : t.client.lib.world = s.client.lib.world) : writes s t = [] := by
  rw [writes, h, rpcSince_self]
  rfl

theorem writes_of_tcp {events : List Tcp.Event}
    (h : t.client.lib.world.events = s.client.lib.world.events ++ events.map .inl) :
    writes s t = [] := by
  rw [writes, rpcSince_tcp h]
  rfl

theorem writes_of_rpc {events : List Vxi11.Event}
    (h : t.client.lib.world.events = s.client.lib.world.events ++ events.map .inr) :
    writes s t = events.filterMap writeOf := by
  rw [writes, rpcSince_rpc h]

theorem kept_of_rejected (hs : Invariant s) (hlib : t.client.lib = s.client.lib)
    (hlink : t.link = s.link) (hsent : sent s call = []) : Kept s call t where
  writes_eq := by rw [hsent, writes_of_same (by rw [hlib])]
  held i link := by
    rw [hlink, Holds, hlib]
    exact hs.held i link

theorem kept_of_called (hs : Invariant s) {op : Operation} {c : Conn} {w : World}
    (hlib : t.client.lib = called s.client.lib op c w) (hw : w.vxi11 = s.client.lib.world.vxi11)
    (hlink : t.link = s.link) (hwrites : writes s t = sent s call) : Kept s call t where
  writes_eq := hwrites
  held i link := by
    rw [hlink, Holds, hlib, holding_called hw]
    exact hs.held i link

theorem send_kept (hs : Invariant s) {device timeout r : Int} {message : Cells UInt8}
    {length : Length} {tcp : Tcp.SendOutcome} {reply : WriteReply}
    (hissued : device ∈ s.client.issued)
    (h : lxiSend (sendEffect message length timeout tcp reply) device s.client.lib =
      some (r, t.client.lib))
    (hlink : t.link = s.link) : Kept s (.send device message length timeout tcp reply) t := by
  have hd : device ≠ sessionsMax := Int.ne_of_lt (hs.sound.issued device hissued).2
  rcases handle_cases hs.sound.wellFormed hd with hv | ⟨i, c, rfl, hc⟩
  · have hnone : s.link device = none := by
      refine hs.link_eq_none fun i b hi hb => ?_
      rw [hi, hb.isValidSession] at hv
      cases hv
    rw [lxiSend_invalid hv] at h
    obtain ⟨-, hlib⟩ := Prod.mk.inj (Option.some.inj h)
    exact kept_of_rejected hs hlib.symm hlink (by rw [sent, hnone])
  · rw [lxiSend_live hc] at h
    obtain ⟨⟨n, w⟩, heffect, hx⟩ := Option.map_eq_some_iff.mp h
    obtain ⟨-, hlib⟩ := Prod.mk.inj hx
    have hdata := (sendEffect_transferred heffect).data
    refine kept_of_called hs hlib.symm hdata hlink ?_
    obtain ⟨backend, b⟩ := c
    cases backend with
    | tcp =>
        obtain ⟨m, -, hm⟩ := Option.map_eq_some_iff.mp heffect
        cases hm
        have hnone : s.link i = none := by
          refine hs.link_eq_none fun j b hj hb => ?_
          cases Int.ofNat.inj hj
          cases hc.unique hb
        rw [sent, hnone]
        exact writes_of_tcp (by rw [← hlib]; rfl)
    | vxi11 =>
        cases heffect
        rw [sent, hs.link_of_live hc]
        exact (writes_of_rpc (by rw [← hlib]; rfl)).trans (vxi11Send_writes _ _ _ _ _)

theorem receive_kept (hs : Invariant s) {device timeout r : Int} {message : Cells UInt8}
    {length : Length} {tcp : Tcp.ReceiveOutcome} {replies : List Vxi11.ReadReply}
    (h : Outcome s.client.lib (.receive device (receiveEffect message length timeout tcp replies)) r
      t.client.lib)
    (hlink : t.link = s.link) : Kept s (.receive device message length timeout tcp replies) t := by
  generalize hlib : t.client.lib = lib at h
  cases h with
  | rejected => exact kept_of_rejected hs hlib hlink rfl
  | @received i c effect n w hc heffect =>
      have hdata := (receiveEffect_transferred heffect).data
      refine kept_of_called hs hlib hdata hlink ?_
      obtain ⟨backend, b⟩ := c
      cases backend with
      | tcp =>
          obtain ⟨m, -, hm⟩ := Option.map_eq_some_iff.mp heffect
          cases hm
          exact writes_of_tcp (by rw [hlib]; rfl)
      | vxi11 =>
          obtain ⟨m, -, hm⟩ := Option.map_eq_some_iff.mp heffect
          cases hm
          exact (writes_of_rpc (by rw [hlib]; rfl)).trans (vxi11Receive_writes _ _ _ _ _)

theorem relink_disconnect_iff {link : Int → Option Vxi11Data} {i j : Nat} {x : Vxi11Data} :
    relink link (.disconnect i) lxiOk j = some x ↔ j ≠ i ∧ link j = some x := by
  rw [relink, if_pos rfl, Function.update_apply]
  split <;> simp_all

theorem disconnect_kept (hs : Invariant s) {device r : Int}
    (h : Outcome s.client.lib (.disconnect device disconnectEffect) r t.client.lib)
    (hlink : t.link = relink s.link (.disconnect device) r) : Kept s (.disconnect device) t := by
  generalize hlib : t.client.lib = lib at h
  cases h with
  | rejected =>
      have hrefused : ¬ lxiError = lxiOk := by decide
      rw [relink, if_neg hrefused] at hlink
      exact kept_of_rejected hs hlib hlink rfl
  | @disconnected i c effect n w hc heffect =>
      have hevents : writes s t = [] ∧ w.vxi11 = s.client.lib.world.vxi11 := by
        obtain ⟨backend, b⟩ := c
        cases backend with
        | tcp =>
            cases heffect
            exact ⟨writes_of_tcp (by rw [hlib]; rfl), rfl⟩
        | vxi11 =>
            cases heffect
            exact ⟨(writes_of_rpc (by rw [hlib]; rfl)).trans rfl, rfl⟩
      refine ⟨hevents.1, fun j x => ?_⟩
      rw [hlink, relink_disconnect_iff, hs.held, Holds, Holds, hlib,
        holding_disconnectDone hevents.2]

section Connect

variable {protocol : Protocol} {port timeout : Int} {name : Option String}
  {tcp : Tcp.ConnectOutcome} {o : Vxi11.ConnectOutcome}

theorem relink_failed (link : Int → Option Vxi11Data) :
    relink link (.connect protocol port name timeout tcp o) lxiError = link := by
  cases protocol with
  | vxi11 => rw [relink, if_neg not_issued_error]
  | raw | hislip | unknown => rfl

theorem relink_other (h : protocol ≠ .vxi11) (link : Int → Option Vxi11Data) (r : Int) :
    relink link (.connect protocol port name timeout tcp o) r = link := by
  cases protocol with
  | vxi11 => exact absurd rfl h
  | raw | hislip | unknown => rfl

theorem relink_connected_iff {link : Int → Option Vxi11Data} {i j : Nat} {x : Vxi11Data}
    (hfree : link i = none) :
    relink link (.connect .vxi11 port name timeout tcp o) i j = some x ↔
      j = i ∧ x = ⟨o.link.clntCreate, o.link.linkResp⟩ ∨ link j = some x := by
  rw [relink, if_pos (Int.natCast_nonneg i), Function.update_apply]
  by_cases hj : j = i
  · subst j
    simp [hfree, eq_comm]
  · simp [hj]

theorem vxi11Connect_answered {data : Vxi11Data} (h : (vxi11Connect data name timeout o).1 = 0) :
    (vxi11Connect data name timeout o).2.1 = ⟨o.link.clntCreate, o.link.linkResp⟩ := by
  obtain ⟨hclock, hcreate, hjoin, hclient, hstatus⟩ := vxi11Connect_eq_zero.mp h
  obtain ⟨client, hclient⟩ := Option.ne_none_iff_exists'.mp hclient
  rw [Vxi11.vxi11Connect_joined hclock hcreate hjoin,
    Vxi11._vxi11Connect_succeeded hclient hstatus, hclient]

theorem tcp_connect_kept (hs : Invariant s) {i : Nat} {n r : Int} {w : World}
    (hi : freeSession s.client.lib.session = some i) (hb : backendOf protocol = some .tcp)
    (heffect : connectEffect port name timeout tcp o (some .tcp) (some s.client.lib.nextBlock)
      s.client.lib.world = some (n, w))
    (hlib : n ≠ 0 ∧ r = lxiError ∧
        t.client.lib = connectFailed s.client.lib i ⟨.tcp, s.client.lib.nextBlock⟩ w ∨
      n = 0 ∧ r = i ∧ t.client.lib = connectDone s.client.lib i ⟨.tcp, s.client.lib.nextBlock⟩ w)
    (hlink : t.link = relink s.link (.connect protocol port name timeout tcp o) r) :
    Kept s (.connect protocol port name timeout tcp o) t := by
  obtain ⟨hdata, hnone⟩ := connectEffect_tcp heffect
  have hother : protocol ≠ .vxi11 := by
    rintro rfl
    cases hb
  have hkept (b : Block) (_ : b ≠ s.client.lib.nextBlock) :
      w.vxi11 b = s.client.lib.world.vxi11 b := congrFun hdata b
  refine ⟨?_, fun j x => ?_⟩
  · rw [writes, world_connect hlib, hnone]
    rfl
  · rw [hlink, relink_other hother, hs.held, Holds, Holds,
      holding_connect hs.sound.wellFormed hi hlib hkept]
    simp

theorem connectEffect_answered {b : Block} {n : Int} {w w' : World}
    (h : connectEffect port name timeout tcp o (some .vxi11) (some b) w = some (n, w')) :
    ∃ data, w'.vxi11 = Function.update w.vxi11 b data ∧
      (n = 0 → data = ⟨o.link.clntCreate, o.link.linkResp⟩) ∧
      (rpcSince w w').filterMap writeOf = [] := by
  cases h
  refine ⟨_, rfl, vxi11Connect_answered, ?_⟩
  rw [rpcSince_rpc rfl]
  exact vxi11Connect_writes _ _ _ _

theorem vxi11_connect_kept (hs : Invariant s) {i : Nat} {n r : Int} {w : World}
    (hi : freeSession s.client.lib.session = some i)
    (heffect : connectEffect port name timeout tcp o (some .vxi11) (some s.client.lib.nextBlock)
      s.client.lib.world = some (n, w))
    (hlib : n ≠ 0 ∧ r = lxiError ∧
        t.client.lib = connectFailed s.client.lib i ⟨.vxi11, s.client.lib.nextBlock⟩ w ∨
      n = 0 ∧ r = i ∧ t.client.lib = connectDone s.client.lib i ⟨.vxi11, s.client.lib.nextBlock⟩ w)
    (hlink : t.link = relink s.link (.connect .vxi11 port name timeout tcp o) r) :
    Kept s (.connect .vxi11 port name timeout tcp o) t := by
  obtain ⟨-, hfree, -⟩ := freeSession_some.mp hi
  obtain ⟨data, hdata, hanswer, hwrites⟩ := connectEffect_answered heffect
  have hkept (b : Block) (hb : b ≠ s.client.lib.nextBlock) :
      w.vxi11 b = s.client.lib.world.vxi11 b := by rw [hdata, Function.update_of_ne hb]
  refine ⟨?_, fun j x => ?_⟩
  · rw [writes, world_connect hlib, hwrites]
    rfl
  · rw [hlink, Holds, holding_connect hs.sound.wellFormed hi hlib hkept, hdata,
      Function.update_self]
    rcases hlib with ⟨hne, rfl, -⟩ | ⟨hzero, rfl, -⟩
    · rw [relink_failed, hs.held]
      exact (or_iff_right fun h => hne h.1).symm
    · have hnone : s.link i = none :=
        hs.link_eq_none fun k b hk hb => not_live_of_free hfree (Int.ofNat.inj hk ▸ hb)
      rw [relink_connected_iff hnone, hs.held, hanswer hzero]
      simp [hzero]

theorem connect_kept (hs : Invariant s) {r : Int}
    (h : lxiConnect (connectEffect port name timeout tcp o) protocol s.client.lib =
      some (r, t.client.lib))
    (hlink : t.link = relink s.link (.connect protocol port name timeout tcp o) r) :
    Kept s (.connect protocol port name timeout tcp o) t := by
  rcases lxiConnect_cases h with ⟨-, rfl, hlib⟩ | ⟨i, -, -, rfl, hlib⟩ |
    ⟨i, backend, n, w, hi, hb, heffect, hlib⟩
  · rw [relink_failed] at hlink
    refine ⟨writes_of_same (by rw [hlib]; rfl), fun j x => ?_⟩
    rw [hlink, Holds, hlib]
    exact hs.held j x
  · rw [relink_failed] at hlink
    exact kept_of_rejected hs hlib hlink rfl
  · cases backend with
    | tcp => exact tcp_connect_kept hs hi hb heffect hlib hlink
    | vxi11 =>
        cases vxi11_of_backendOf hb
        exact vxi11_connect_kept hs hi heffect hlib hlink

end Connect

theorem step_kept (hs : Invariant s) (h : step s call = some t) : Kept s call t := by
  obtain ⟨hissued, r, lib, hperform, rfl⟩ := step_eq_some.mp h
  have houtcome := perform_outcome hs.sound.wellFormed (hs.sound.guard hissued) hperform
  cases call with
  | connect protocol port name timeout tcp o => exact connect_kept hs hperform rfl
  | send device message length timeout tcp reply =>
      exact send_kept hs (hissued device rfl) hperform rfl
  | receive device message length timeout tcp replies => exact receive_kept hs houtcome rfl
  | disconnect device => exact disconnect_kept hs houtcome rfl

theorem relink_issued {link : Int → Option Vxi11Data} {r device : Int}
    (h : relink link call r device ≠ none) :
    device ∈ Application.issues call.toCall r ∨ link device ≠ none := by
  cases call with
  | connect protocol port name timeout tcp o =>
      by_cases hnew : protocol = .vxi11 ∧ 0 ≤ r ∧ device = r
      · obtain ⟨rfl, hr, rfl⟩ := hnew
        exact .inl (by simp [Application.issues, Call.toCall, Application.Call.device, hr])
      · refine .inr ?_
        cases protocol with
        | vxi11 =>
            rw [relink] at h
            split at h
            · rwa [Function.update_of_ne (by tauto)] at h
            · exact h
        | raw | hislip | unknown => exact h
  | send | receive => exact .inr h
  | disconnect d =>
      refine .inr ?_
      rw [relink] at h
      split at h
      · by_cases hd : device = d
        · simp [hd] at h
        · rwa [Function.update_of_ne hd] at h
      · exact h

theorem step_invariant (hs : Invariant s) (h : step s call = some t) : Invariant t := by
  have hheld := (step_kept hs h).held
  obtain ⟨client, hstep, rfl⟩ := Option.map_eq_some_iff.mp h
  refine ⟨ClientInvariant.step_sound hs.sound hstep, hheld, fun device hd => ?_⟩
  obtain ⟨-, r, lib, -, rfl⟩ := Application.step_eq_some.mp hstep
  exact List.mem_append.mpr ((relink_issued hd).imp_right (hs.issued device))

theorem step_returns (hs : Invariant s) {device timeout : Int} {message : Cells UInt8}
    {length : Length} {tcp : Tcp.SendOutcome} {reply : WriteReply} (h : s.link device ≠ none) :
    ∃ t, step s (.send device message length timeout tcp reply) = some t := by
  obtain ⟨link, hlink⟩ := Option.ne_none_iff_exists'.mp h
  have hissued := hs.issued device h
  obtain ⟨i, b, rfl, hb, -⟩ := hs.live hlink
  obtain ⟨s', hsend⟩ := lxiSend_vxi11 hb message length timeout tcp reply
  refine ⟨_, step_eq_some.mpr ⟨?_, _, _, hsend, rfl⟩⟩
  rintro _ ⟨⟩
  exact hissued

theorem delivered (hs : Invariant s) (h : step s call = some t) : Delivered s call t := by
  cases call with
  | send device message length timeout tcp reply =>
      intro hlink _
      obtain ⟨link, hlink⟩ := Option.ne_none_iff_exists'.mp hlink
      rw [(step_kept hs h).writes_eq, sent, hlink]
      exact carries_singleton _ _
  | connect | receive | disconnect => trivial

theorem limited_iff_fits (hs : Invariant s) (h : step s call = some t) :
    Limited s call t ↔ Fits s call := by
  rw [Limited, (step_kept hs h).writes_eq]
  cases call with
  | send device message length timeout tcp reply =>
      cases hlink : s.link device with
      | none => simp [sent, Fits, hlink]
      | some link =>
          simp [sent, Fits, hlink, Call.toCall, Application.Call.device, writeParms]
  | connect | receive | disconnect => simp [sent, Fits]

theorem respects_iff_fits (hs : Invariant s) (call : Call) : Respects s call ↔ Fits s call := by
  constructor
  · intro h
    cases call with
    | send device message length timeout tcp reply =>
        intro link hlink
        have hne : s.link device ≠ none := by simp [hlink]
        obtain ⟨t, ht⟩ := step_returns hs hne
        exact (limited_iff_fits hs ht).mp (h t ht).1 link hlink
    | connect | receive | disconnect => trivial
  · intro h t ht
    exact ⟨(limited_iff_fits hs ht).mpr h, delivered hs ht⟩

end Steps

theorem invariant_start (session : Nat → Session) (w : World) : Invariant (start session w) where
  sound := sound_initial session w
  held i link := by
    refine iff_of_false (by simp [start]) ?_
    rintro ⟨b, hb, -⟩
    exact not_live_initial _ _ _ _ hb
  issued device h := absurd rfl h

/-- In every run of an application the requests on every link respect the limit
that its device announced, and carry the messages that are reported as sent, if
and only if every message for a link fits into its limit. -/
theorem write_limits_respected_iff (session : Nat → Session) (w : World) (calls : List Call) :
    Along step Respects (start session w) calls ↔ Along step Fits (start session w) calls :=
  along_congr_of_invariant (fun _ _ _ hs _ h => step_invariant hs h)
    (fun _ call hs => respects_iff_fits hs call) (invariant_start session w) calls

theorem connect_returns (session : Nat → Session) (w : World) (port timeout : Int)
    (name : Option String) (tcp : Tcp.ConnectOutcome) {o : Vxi11.ConnectOutcome}
    (ho : CallsSucceed o) :
    ∃ t, step (start session w) (.connect .vxi11 port name timeout tcp o) = some t ∧
      t.link 0 = some ⟨o.link.clntCreate, o.link.linkResp⟩ := by
  obtain ⟨lib, hconnect⟩ : ∃ lib, lxiConnect (connectEffect port name timeout tcp o) .vxi11
      (initial session w) = some ((0 : Int), lib) := by
    have hzero : (vxi11Connect (w.vxi11 0) name timeout o).1 = 0 := vxi11Connect_eq_zero.mpr ho
    rw [lxiConnect_supported (freeSession_initial session w) rfl]
    exact ⟨_, congrArg some (if_pos hzero)⟩
  have hlink : relink (start session w).link (.connect .vxi11 port name timeout tcp o) (0 : Nat)
      (0 : Nat) = some ⟨o.link.clntCreate, o.link.linkResp⟩ :=
    (relink_connected_iff rfl).mpr (.inl ⟨rfl, rfl⟩)
  exact ⟨_, step_eq_some.mpr ⟨by rintro _ ⟨⟩, _, _, hconnect, rfl⟩, hlink⟩

def granted : Vxi11.ConnectOutcome where
  clockGettime := 0
  now := ⟨0, 0⟩
  pthreadCreate := 0
  timedjoin := 0
  done := 0
  link := ⟨some 1, .success, ⟨0, 3, 0, 1024⟩⟩

theorem write_limit_exceeded :
    ¬ Along step Respects (start default (quiet []))
      [.connect .vxi11 0 none 1000 default granted,
        .send 0 (fun _ => 0) ⟨4096, by decide⟩ 1000 default ⟨.success, ⟨0, 4096⟩⟩] := by
  intro h
  have hcalls : CallsSucceed granted := by constructor <;> simp [granted]
  obtain ⟨t, hstep, hlink⟩ := connect_returns default (quiet []) 0 1000 none default hcalls
  have hrespects := ((along_cons_of_step hstep).mp h).2.1
  have ht : Invariant t := step_invariant (invariant_start default (quiet [])) hstep
  have hfits := (respects_iff_fits ht _).mp hrespects _ hlink
  revert hfits
  decide

end LibLxi.WriteLimit

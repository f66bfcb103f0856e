import LibLxi.RemoteSession
import LibLxi.SessionMap
import Mathlib.Data.List.Find
import Mathlib.Data.Set.Card

namespace LibLxi.RemoteLibrary

open Lxi Memory Platform RemoteCalls RemoteSession Rpc SessionInvariant SessionMap Vxi11 Vxi11Service
open WireMessages Xdr

variable {σ : Type}

structure World (σ : Type) where
  server : σ
  data : Block → Vxi11Data
  message : Cells UInt8

section Effects

/-- What a vxi11_connect depends on besides its arguments and the server. -/
structure Setup where
  clockGettime : Int
  now : Timespec
  pthreadCreate : Int
  timedjoin : Int
  done : Nat
  clntCreate : Option Client

/-- The connect thread gets to its create_link. -/
def Setup.Links (o : Setup) : Prop :=
  o.clockGettime = 0 ∧ o.pthreadCreate = 0 ∧ o.clntCreate.isSome ∧ (o.timedjoin = 0 ∨ 2 ≤ o.done)

instance (o : Setup) : Decidable o.Links := inferInstanceAs (Decidable (_ ∧ _))

theorem inst0_bounded : [105, 110, 115, 116, 48].length ≤ textMax.toNat := by decide

theorem inst0_nonzero : (0 : UInt8) ∉ [105, 110, 115, 116, 48] := by decide

def inst0 : Text := ⟨[105, 110, 115, 116, 48], inst0_bounded, inst0_nonzero⟩

def coreLink (client : Option Client) (name : Option Text) : Vxi11core.CreateLinkParms where
  clientId := Int32.ofInt (toInt (client.getD 0 : Nat))
  lockDevice := 0
  lockTimeout := 0
  device := name.getD inst0

def linkReply : Outcome Vxi11core.CreateLinkResp → CreateLinkResp
  | .ok resp => ⟨resp.error, resp.lid, resp.abortPort, resp.maxRecvSize⟩
  | .error _ => ⟨0, 0, 0, 0⟩

def Setup.outcome (o : Setup) (reply : Outcome Vxi11core.CreateLinkResp) : ConnectOutcome :=
  ⟨o.clockGettime, o.now, o.pthreadCreate, o.timedjoin, o.done,
    ⟨o.clntCreate, statusOf reply, linkReply reply⟩⟩

variable (clnt : Clnt σ)

def openLink (name : Option Text) (o : Setup) (s : σ) : σ × Outcome Vxi11core.CreateLinkResp :=
  if o.Links then createLink1 clnt (coreLink o.clntCreate name) (zeroed .createLinkResp) s
  else (s, .error .timedOut)

/-- vxi11_connect, with what the client's create_link_1 gets. The name is in the
events only, which are not kept here. -/
def connectEffect (name : Option Text) (timeout : Int) (o : Setup) : Effect (World σ)
  | some .vxi11, some block, w =>
      let (server, reply) := openLink clnt name o w.server
      let (ret, data, _) := vxi11Connect (w.data block) none timeout (o.outcome reply)
      some (ret, { w with server, data := Function.update w.data block data })
  | _, _, _ => none

def sendEffect (message : Cells UInt8) (length : Length) (timeout : Int) : Effect (World σ)
  | some .vxi11, some block, w =>
      let (server, ret) := send clnt (w.data block) message length timeout w.server
      some (ret, { w with server })
  | _, _, _ => none

def receiveEffect (fuel : Nat) (message : Cells UInt8) (length : Length) (timeout : Int) :
    Effect (World σ)
  | some .vxi11, some block, w =>
      let (server, received) := receive clnt (w.data block) message length timeout fuel w.server
      received.ret.map fun ret => (ret, { w with server, message := received.message })
  | _, _, _ => none

/-- The reply of destroy_link is not looked at. -/
def disconnectEffect : Effect (World σ)
  | some .vxi11, some block, w =>
      let (server, _) := destroyLink1 clnt (w.data block).linkResp.lid (zeroed .deviceError) w.server
      some ((vxi11Disconnect (w.data block)).1, { w with server })
  | _, _, _ => none

inductive Op
  | connect (name : Option Text) (timeout : Int) (o : Setup)
  | send (device : Int) (message : Cells UInt8) (length : Length) (timeout : Int)
  | receive (device : Int) (message : Cells UInt8) (length : Length) (timeout : Int)
  | disconnect (device : Int)

def Op.call (fuel : Nat) : Op → Application.Call (World σ)
  | .connect name timeout o => .connect .vxi11 (connectEffect clnt name timeout o)
  | .send device message length timeout => .send device (sendEffect clnt message length timeout)
  | .receive device message length timeout =>
      .receive device (receiveEffect clnt fuel message length timeout)
  | .disconnect device => .disconnect device (disconnectEffect clnt)

def Op.device : Op → Option Int
  | .connect .. => none
  | .send device .. => some device
  | .receive device .. => some device
  | .disconnect device => some device

def Op.Inside (op : Op) : Prop := ∀ device ∈ op.device, device ≠ sessionsMax

instance (op : Op) : Decidable op.Inside :=
  inferInstanceAs (Decidable (∀ device ∈ op.device, device ≠ sessionsMax))

theorem Op.Inside.call {op : Op} (h : op.Inside) (clnt : Clnt σ) (fuel : Nat) :
    (op.call clnt fuel).Inside := by
  cases op <;> exact h

/-- What an application sees of a call: the returned value and, for a receive, the
bytes in front of it. -/
abbrev Seen := Int × List UInt8

def Op.seen (op : Op) (ret : Int) (w : World σ) : Seen :=
  match op with
  | .receive .. => (ret, read w.message 0 ret.toNat)
  | _ => (ret, [])

def perform (fuel : Nat) (s : State (World σ)) (op : Op) : Option (Seen × State (World σ)) :=
  (Application.perform s (op.call clnt fuel)).map fun x => (op.seen x.1 x.2.world, x.2)

end Effects

/-- What the library is for: the responses that wait for each handle, and how many
links the server has given away. -/
structure Sessions where
  waiting : Nat → Option Waiting
  links : Nat

namespace Sessions

def free (q : Sessions) : Option Nat :=
  (List.range maxLive).find? fun i => (q.waiting i).isNone

def lookup (q : Sessions) (device : Int) : Option Waiting :=
  if device < 0 then none else q.waiting device.toNat

def put (q : Sessions) (device : Int) (w : Waiting) : Sessions :=
  { q with waiting := Function.update q.waiting device.toNat (some w) }

/-- A connect thread that is cancelled behind its create_link costs a link. -/
def connect (o : Setup) (q : Sessions) : Seen × Sessions :=
  match q.free with
  | none => ((lxiError, []), q)
  | some i =>
      if o.Links then
        if o.timedjoin = 0 then
          ((i, []), ⟨Function.update q.waiting i (some []), q.links + 1⟩)
        else ((lxiError, []), { q with links := q.links + 1 })
      else ((lxiError, []), q)

section Connect

variable {q : Sessions} {i : Nat} {o : Setup}

theorem connect_full (hfree : q.free = none) : q.connect o = ((lxiError, []), q) := by
  -- as for lxi_connect, no simp over the search
  unfold Sessions.connect
  rw [hfree]

theorem connect_unlinked (hfree : q.free = some i) (ho : ¬ o.Links) :
    q.connect o = ((lxiError, []), q) := by
  unfold Sessions.connect
  rw [hfree]
  exact if_neg ho

theorem connect_done (hfree : q.free = some i) (ho : o.Links) (hjoin : o.timedjoin = 0) :
    q.connect o = (((i : Int), []), ⟨Function.update q.waiting i (some []), q.links + 1⟩) := by
  unfold Sessions.connect
  rw [hfree]
  exact (if_pos ho).trans (if_pos hjoin)

theorem connect_late (hfree : q.free = some i) (ho : o.Links) (hjoin : o.timedjoin ≠ 0) :
    q.connect o = ((lxiError, []), { q with links := q.links + 1 }) := by
  unfold Sessions.connect
  rw [hfree]
  exact (if_pos ho).trans (if_neg hjoin)

end Connect

def ideal (respond : List UInt8 → Waiting → Waiting) (q : Sessions) : Op → Seen × Sessions
  | .connect _ _ o => q.connect o
  | .send device message length _ =>
      match q.lookup device with
      | none => ((lxiError, []), q)
      | some w => ((length.val, []), q.put device (respond (read message 0 length.val) w))
  | .receive device _ length _ =>
      match q.lookup device with
      | none => ((lxiError, []), q)
      | some [] => ((lxiError, []), q)
      | some (response :: others) =>
          (((response.take length.val).length, response.take length.val),
            q.put device (leave (response.drop length.val) others))
  | .disconnect device =>
      match q.lookup device with
      | none => ((lxiError, []), q)
      | some _ =>
          ((lxiOk, []), ⟨Function.update q.waiting device.toNat none, q.links - 1⟩)

/-- A connect does not come to an instrument without a link left, whose refusal a client
does not look at. A message is no longer than the instrument takes. -/
def Allows (capacity maxRecvSize : Nat) (q : Sessions) : Op → Prop
  | .connect _ _ o => q.free.isSome = true → o.Links → q.links < capacity
  | .send device _ length _ => (q.lookup device).isSome = true → length.val ≤ maxRecvSize
  | _ => True

instance instDecidableAllows (capacity maxRecvSize : Nat) (q : Sessions) :
    (op : Op) → Decidable (q.Allows capacity maxRecvSize op)
  | .connect _ _ o => inferInstanceAs (Decidable (q.free.isSome = true → o.Links → q.links < capacity))
  | .send device _ length _ =>
      inferInstanceAs (Decidable ((q.lookup device).isSome = true → length.val ≤ maxRecvSize))
  | .receive .. | .disconnect _ => inferInstanceAs (Decidable True)

end Sessions

/-- A server with a bounded number of links. Nothing waits for a new one. Nothing is said
of what it answers where none is left. -/
structure Instrument (handlers : Handlers σ) (links : σ → Set Int32) (waiting : σ → Int32 → Waiting)
    (reads : σ → Int32 → Nat) (respond : List UInt8 → Waiting → Waiting)
    (capacity maxRecvSize : Nat) : Prop extends
    Conforms handlers links waiting reads respond maxRecvSize where
  create : ∀ s (x : Vxi11core.CreateLinkParms), (links s).ncard < capacity →
    ∃ s' retval, ∃ resp : Vxi11core.CreateLinkResp, retval > 0 ∧
      handlers .createLink s x = (s', retval, resp) ∧ resp.error = 0 ∧
      resp.maxRecvSize.toNat = maxRecvSize ∧ resp.lid ∉ links s ∧
      links s' = insert resp.lid (links s) ∧ waiting s' = Function.update (waiting s) resp.lid []
  destroy : ∀ s (lid : Vxi11core.DeviceLink), lid ∈ links s →
    ∃ s' retval, ∃ resp : Vxi11core.DeviceError, handlers .destroyLink s lid = (s', retval, resp) ∧
      links s' = links s \ {lid} ∧ ∀ other, other ≠ lid → waiting s' other = waiting s other

instance finite_int32 : Finite Int32 :=
  Finite.of_injective (fun x => x.toBitVec.toFin) fun _ _ h =>
    Int32.toBitVec_inj.mp (BitVec.toFin_inj.mp h)

section Links

variable {handlers : Handlers σ} {links : σ → Set Int32} {waiting : σ → Int32 → Waiting}
  {reads : σ → Int32 → Nat} {respond : List UInt8 → Waiting → Waiting} {capacity maxRecvSize : Nat}
  {clnt : Clnt σ}

theorem coreLink_safe (client : Option Client) (name : Option Text) :
    InlineSafe .createLinkParms (coreLink client name) := by
  rintro b ⟨rfl⟩
  rfl

theorem createLink1_eq (hclnt : Reaches clnt handlers) (client : Option Client)
    (name : Option Text) (y : Vxi11core.CreateLinkResp) (s : σ) :
    ∃ x, createLink1 clnt (coreLink client name) y s =
      (let (s', retval, result) := handlers .createLink s x
      (s', if retval > 0 then Except.ok result else Except.error ClntError.timedOut)) :=
  ⟨_, stub_reaches hclnt (p := .createLink) rfl (coreLink_safe client name) y s⟩

theorem destroyLink1_eq (hclnt : Reaches clnt handlers) (lid : Vxi11core.DeviceLink)
    (y : Vxi11core.DeviceError) (s : σ) :
    (destroyLink1 clnt lid y s).1 = (handlers .destroyLink s lid).1 :=
  congrArg Prod.fst
    (stub_reaches hclnt (p := .destroyLink) rfl (inlineSafe_of_none rfl) y s)

theorem openLink_new (h : Instrument handlers links waiting reads respond capacity maxRecvSize)
    (hclnt : Reaches clnt handlers) (name : Option Text) {o : Setup} (ho : o.Links) {s : σ}
    (hroom : (links s).ncard < capacity) :
    ∃ s' resp, openLink clnt name o s = (s', .ok resp) ∧
      resp.lid ∉ links s ∧ links s' = insert resp.lid (links s) ∧
      waiting s' = Function.update (waiting s) resp.lid [] := by
  obtain ⟨x, hcall⟩ := createLink1_eq hclnt o.clntCreate name (zeroed .createLinkResp) s
  obtain ⟨s', retval, resp, hret, hhandler, -, -, hlink⟩ := h.create s x hroom
  rw [hhandler] at hcall
  refine ⟨s', resp, ?_, hlink⟩
  rw [openLink, if_pos ho]
  exact hcall.trans (congrArg (Prod.mk s') (if_pos hret))

theorem openLink_none (clnt : Clnt σ) (name : Option Text) {o : Setup} (ho : ¬ o.Links) (s : σ) :
    openLink clnt name o s = (s, .error .timedOut) :=
  if_neg ho

end Links

section Connect

variable {o : Setup}

theorem vxi11Connect_refused (o : Setup) (data : Vxi11Data) (timeout : Int) (e : ClntError) :
    (vxi11Connect data none timeout (o.outcome (.error e))).1 = -1 := by
  by_cases hclock : o.clockGettime = 0
  · by_cases hcreate : o.pthreadCreate = 0
    · by_cases hjoin : o.timedjoin = 0
      · rw [vxi11Connect_joined hclock hcreate hjoin]
        cases hclient : o.clntCreate with
        | none => rw [_vxi11Connect_uncreated hclient]
        | some client =>
            have hstatus : (o.outcome (.error e)).link.status ≠ .success := by
              cases e <;> simp [Setup.outcome, statusOf]
            rw [_vxi11Connect_failed hclient hstatus]
      · rw [vxi11Connect_timedOut hclock hcreate hjoin]
    · rw [vxi11Connect_uncreated hclock hcreate]
  · rw [vxi11Connect_unclocked hclock]

theorem vxi11Connect_linked (ho : o.Links) (hjoin : o.timedjoin = 0) (data : Vxi11Data) (timeout : Int)
    (resp : Vxi11core.CreateLinkResp) :
    (vxi11Connect data none timeout (o.outcome (.ok resp))).1 = 0 ∧
      (vxi11Connect data none timeout (o.outcome (.ok resp))).2.1.linkResp.lid = resp.lid := by
  obtain ⟨client, hclient⟩ := Option.isSome_iff_exists.mp ho.2.2.1
  have hstatus : (o.outcome (.ok resp)).link.status = .success := rfl
  rw [vxi11Connect_joined ho.1 ho.2.1 hjoin, _vxi11Connect_succeeded hclient hstatus]
  exact ⟨rfl, rfl⟩

theorem vxi11Connect_late (ho : o.Links) (hjoin : o.timedjoin ≠ 0) (data : Vxi11Data) (timeout : Int)
    (reply : Outcome Vxi11core.CreateLinkResp) :
    (vxi11Connect data none timeout (o.outcome reply)).1 = -1 := by
  rw [vxi11Connect_timedOut ho.1 ho.2.1 hjoin]

end Connect

def linkOf (w : World σ) (c : Conn) : Int32 := (w.data c.block).linkResp.lid

theorem linkOf_written (w : World σ) (s' : σ) (block : Block) (data : Vxi11Data) :
    linkOf { w with server := s', data := Function.update w.data block data } ⟨.vxi11, block⟩ =
      data.linkResp.lid := by
  change (Function.update w.data block data block).linkResp.lid = _
  rw [Function.update_self]

/-- The finite map of connections stands for what waits for the handles: each
connection has a link of its own. -/
structure Stands (links : σ → Set Int32) (waiting : σ → Int32 → Waiting)
    (m : Spec (World σ)) (q : Sessions) : Prop where
  real : ∃ s, Refines s m
  waiting : ∀ i, q.waiting i = (m.live i).map fun c => waiting m.world.server (linkOf m.world c)
  backend : ∀ i c, m.live i = some c → c.backend = .vxi11
  linked : ∀ i c, m.live i = some c → linkOf m.world c ∈ links m.world.server
  apart : ∀ i j c d, m.live i = some c → m.live j = some d → linkOf m.world c = linkOf m.world d →
    i = j
  links : q.links = (links m.world.server).ncard

section Steps

variable {links : σ → Set Int32} {waiting : σ → Int32 → Waiting} {m : Spec (World σ)} {q : Sessions}

theorem Stands.fresh (h : Stands links waiting m q) {i : Nat} {c : Conn} (hc : m.live i = some c) :
    c.block ≠ m.nextBlock := by
  obtain ⟨s, hs⟩ := h.real
  rw [← hs.nextBlock]
  exact hs.wellFormed.fresh ((hs.live i c).mp hc)

theorem Stands.free (h : Stands links waiting m q) :
    q.free = if leastFree m < maxLive then some (leastFree m) else none := by
  obtain ⟨s, hs⟩ := h.real
  have hsame : ∀ i ∈ List.range maxLive,
      (q.waiting i).isNone = decide ((s.session i).allocated = false) := by
    intro i hi
    have hallocated := hs.allocated_iff i (List.mem_range.mp hi)
    rw [h.waiting, Option.isNone_map]
    cases hlive : m.live i <;> simpa [hlive] using hallocated
  rw [← freeSession_leastFree hs, Sessions.free, freeSession, List.find?_congr hsame,
    maxLive_eq]

theorem Stands.lookup (h : Stands links waiting m q) (device : Int) :
    q.lookup device = (SessionMap.lookup m device).map fun c =>
      waiting m.world.server (linkOf m.world c) := by
  rw [Sessions.lookup, SessionMap.lookup]
  split
  · rfl
  · exact h.waiting _

/-- A connection keeps its link while the only block that is written is a fresh one. -/
theorem Stands.linkOf_eq (h : Stands links waiting m q) {w : World σ}
    (hdata : ∀ b, b ≠ m.nextBlock → w.data b = m.world.data b) {i : Nat} {c : Conn}
    (hc : m.live i = some c) : linkOf w c = linkOf m.world c := by
  rw [linkOf, hdata _ (h.fresh hc)]
  rfl

theorem Stands.kept (h : Stands links waiting m q) {n : Spec (World σ)} (hreal : ∃ s, Refines s n)
    (hlive : n.live = m.live) (hdata : ∀ b, b ≠ m.nextBlock → n.world.data b = m.world.data b)
    (hlinks : links m.world.server ⊆ links n.world.server)
    (hwaiting : ∀ lid ∈ links m.world.server,
      waiting n.world.server lid = waiting m.world.server lid) :
    Stands links waiting n { q with links := (links n.world.server).ncard } where
  real := hreal
  waiting i := by
    rw [hlive]
    refine (h.waiting i).trans (Option.map_congr fun c hc => ?_)
    rw [h.linkOf_eq hdata hc, hwaiting _ (h.linked i c hc)]
  backend i c hc := h.backend i c (hlive ▸ hc)
  linked i c hc := by
    rw [hlive] at hc
    rw [h.linkOf_eq hdata hc]
    exact hlinks (h.linked i c hc)
  apart i j c d hc hd heq := by
    rw [hlive] at hc hd
    rw [h.linkOf_eq hdata hc, h.linkOf_eq hdata hd] at heq
    exact h.apart i j c d hc hd heq
  links := rfl

theorem Stands.connected (h : Stands links waiting m q) {n : Spec (World σ)}
    (hreal : ∃ s, Refines s n) {i : Nat}
    (hlive : n.live = Function.update m.live i (some ⟨.vxi11, m.nextBlock⟩))
    (hdata : ∀ b, b ≠ m.nextBlock → n.world.data b = m.world.data b) {lid : Int32}
    (hlid : linkOf n.world ⟨.vxi11, m.nextBlock⟩ = lid) (hnew : lid ∉ links m.world.server)
    (hlinks : links n.world.server = insert lid (links m.world.server))
    (hwaiting : waiting n.world.server = Function.update (waiting m.world.server) lid []) :
    Stands links waiting n ⟨Function.update q.waiting i (some []), q.links + 1⟩ := by
  have hcase {j : Nat} {c : Conn} (hc : n.live j = some c) :
      (j = i ∧ c = ⟨.vxi11, m.nextBlock⟩ ∧ linkOf n.world c = lid) ∨
        (j ≠ i ∧ m.live j = some c ∧ linkOf n.world c = linkOf m.world c ∧
          linkOf n.world c ∈ links m.world.server) := by
    rw [hlive, Function.update_apply] at hc
    split at hc
    · cases hc
      exact .inl ⟨‹_›, rfl, hlid⟩
    · have heq := h.linkOf_eq hdata hc
      exact .inr ⟨‹_›, hc, heq, heq ▸ h.linked j c hc⟩
  refine ⟨hreal, fun j => ?_, fun j c hc => ?_, fun j c hc => ?_, fun j k c d hc hd heq => ?_, ?_⟩
  · change Function.update q.waiting i (some []) j = _
    rw [hlive, hwaiting, Function.update_apply, Function.update_apply]
    split
    · rw [Option.map_some, hlid, Function.update_self]
    · refine (h.waiting j).trans (Option.map_congr fun c hc => ?_)
      have hne : linkOf m.world c ≠ lid := fun heq => hnew (heq ▸ h.linked j c hc)
      rw [h.linkOf_eq hdata hc, Function.update_of_ne hne]
  · rcases hcase hc with ⟨-, rfl, -⟩ | ⟨-, hc, -, -⟩
    · rfl
    · exact h.backend j c hc
  · rw [hlinks]
    rcases hcase hc with ⟨-, -, hc⟩ | ⟨-, -, -, hc⟩
    · exact .inl hc
    · exact .inr hc
  · rcases hcase hc with ⟨hj, -, hcl⟩ | ⟨-, hc', hcl, hin⟩ <;>
      rcases hcase hd with ⟨hk, -, hdl⟩ | ⟨-, hd', hdl, hin'⟩
    · exact hj.trans hk.symm
    · rw [← heq, hcl] at hin'
      exact absurd hin' hnew
    · rw [heq, hdl] at hin
      exact absurd hin hnew
    · rw [hcl, hdl] at heq
      exact h.apart j k c d hc' hd' heq
  · rw [hlinks, Set.ncard_insert_of_notMem hnew, h.links]

theorem Stands.transferred (h : Stands links waiting m q) {n : Spec (World σ)}
    (hreal : ∃ s, Refines s n) (hlive : n.live = m.live) (hdata : n.world.data = m.world.data)
    (hlinks : links n.world.server = links m.world.server) {i : Nat} {c : Conn}
    (hc : m.live i = some c) {w : Waiting}
    (hwaiting : waiting n.world.server =
      Function.update (waiting m.world.server) (linkOf m.world c) w) :
    Stands links waiting n (q.put i w) := by
  have hlink : linkOf n.world = linkOf m.world := by
    funext d
    rw [linkOf, hdata]
    rfl
  refine ⟨hreal, fun j => ?_, ?_, ?_, ?_, ?_⟩
  · rw [Sessions.put, hlive, hlink, hwaiting]
    simp only [Function.update_apply, Int.toNat_natCast]
    split
    · rename_i heq
      rw [heq, hc, Option.map_some, if_pos rfl]
    · rename_i hne
      refine (h.waiting j).trans (Option.map_congr fun d hd => ?_)
      exact (if_neg fun heq => hne (h.apart j i d c hd hc heq)).symm
  · rw [hlive]
    exact h.backend
  · rw [hlive, hlink, hlinks]
    exact h.linked
  · rw [hlive, hlink]
    exact h.apart
  · rw [hlinks]
    exact h.links

theorem Stands.disconnected (h : Stands links waiting m q) {n : Spec (World σ)}
    (hreal : ∃ s, Refines s n) {i : Nat} (hlive : n.live = Function.update m.live i none)
    (hdata : n.world.data = m.world.data) {c : Conn} (hc : m.live i = some c)
    (hlinks : links n.world.server = links m.world.server \ {linkOf m.world c})
    (hwaiting : ∀ lid, lid ≠ linkOf m.world c →
      waiting n.world.server lid = waiting m.world.server lid) :
    Stands links waiting n ⟨Function.update q.waiting i none, q.links - 1⟩ := by
  have hlink : linkOf n.world = linkOf m.world := by
    funext d
    rw [linkOf, hdata]
    rfl
  have hcase {j : Nat} {d : Conn} (hd : n.live j = some d) :
      m.live j = some d ∧ linkOf m.world d ≠ linkOf m.world c := by
    rw [hlive, Function.update_apply] at hd
    split at hd
    · cases hd
    · exact ⟨hd, fun heq => ‹j ≠ i› (h.apart j i d c hd hc heq)⟩
  refine ⟨hreal, fun j => ?_, fun j d hd => ?_, fun j d hd => ?_, fun j k d e hd he heq => ?_, ?_⟩
  · change Function.update q.waiting i none j = _
    rw [hlive, hlink, Function.update_apply, Function.update_apply]
    split
    · rfl
    · rename_i hne
      refine (h.waiting j).trans (Option.map_congr fun d hd => ?_)
      exact (hwaiting _ fun heq => hne (h.apart j i d c hd hc heq)).symm
  · exact h.backend j d (hcase hd).1
  · rw [hlinks, hlink]
    exact ⟨h.linked j d (hcase hd).1, (hcase hd).2⟩
  · rw [hlink] at heq
    exact h.apart j k d e (hcase hd).1 (hcase he).1 heq
  · rw [hlinks, Set.ncard_sdiff_singleton_of_mem (h.linked i c hc), h.links]

end Steps

section Calls

variable {handlers : Handlers σ} {links : σ → Set Int32} {waiting : σ → Int32 → Waiting}
  {reads : σ → Int32 → Nat} {respond : List UInt8 → Waiting → Waiting} {capacity maxRecvSize : Nat}
  {clnt : Clnt σ} {m : Spec (World σ)} {q : Sessions}

noncomputable def specPerform (clnt : Clnt σ) (fuel : Nat) (m : Spec (World σ)) (op : Op) :
    Option (Seen × Spec (World σ)) :=
  (SessionMap.perform m (op.call clnt fuel)).map fun x => (op.seen x.1 x.2.world, x.2)

theorem specConnect_free (hfree : leastFree m < maxLive) {effect : Effect (World σ)} {ret : Int}
    {w : World σ} (heffect : effect (some .vxi11) (some m.nextBlock) m.world = some (ret, w)) :
    ∃ log log', connect effect .vxi11 m =
      some (if ret = 0 then
          ((leastFree m : Int), ⟨Function.update m.live (leastFree m) (some ⟨.vxi11, m.nextBlock⟩),
            m.nextBlock + 1, log, w⟩)
        else (lxiError, ⟨m.live, m.nextBlock + 1, log', w⟩)) := by
  rw [connect, if_pos hfree]
  simp only [spoken_vxi11, heffect, Option.map_some]
  exact ⟨_, _, rfl⟩

theorem Stands.real_of_perform (h : Stands links waiting m q) (op : Op) (hin : op.Inside)
    (clnt : Clnt σ) (fuel : Nat) {r : Int} {n : Spec (World σ)}
    (hperform : SessionMap.perform m (op.call clnt fuel) = some (r, n)) : ∃ s, Refines s n := by
  obtain ⟨s, hs⟩ := h.real
  have hrel := perform_refines hs (op.call clnt fuel) (hin.call clnt fuel)
  rw [hperform] at hrel
  generalize Application.perform s (op.call clnt fuel) = result at hrel
  cases hrel with
  | some hagree => exact ⟨_, hagree.2⟩

theorem connectEffect_eq {clnt : Clnt σ} {name : Option Text} {o : Setup} {w : World σ} (timeout : Int)
    (block : Block) {s' : σ} {reply : Outcome Vxi11core.CreateLinkResp}
    (hreply : openLink clnt name o w.server = (s', reply)) :
    connectEffect clnt name timeout o (some .vxi11) (some block) w =
      some ((vxi11Connect (w.data block) none timeout (o.outcome reply)).1,
        { w with
          server := s'
          data := Function.update w.data block
            (vxi11Connect (w.data block) none timeout (o.outcome reply)).2.1 }) := by
  rw [connectEffect, hreply]

theorem connectEffect_linked (h : Instrument handlers links waiting reads respond capacity maxRecvSize)
    (hclnt : Reaches clnt handlers) (name : Option Text) (timeout : Int) {o : Setup} (ho : o.Links)
    {w : World σ} (hroom : (links w.server).ncard < capacity) (block : Block) :
    ∃ ret v lid, connectEffect clnt name timeout o (some .vxi11) (some block) w = some (ret, v) ∧
      (∀ b, b ≠ block → v.data b = w.data b) ∧ lid ∉ links w.server ∧
      links v.server = insert lid (links w.server) ∧
      waiting v.server = Function.update (waiting w.server) lid [] ∧
      (o.timedjoin = 0 → ret = 0 ∧ linkOf v ⟨.vxi11, block⟩ = lid) ∧ (o.timedjoin ≠ 0 → ret = -1) := by
  obtain ⟨s', resp, hcall, hnew, hlinks, hwaiting⟩ := openLink_new h hclnt name ho hroom
  have heffect := connectEffect_eq timeout block hcall
  refine ⟨_, _, resp.lid, heffect, fun b hb => Function.update_of_ne hb .., hnew, hlinks, hwaiting,
    fun hjoin => ?_, fun hjoin => vxi11Connect_late ho hjoin _ _ _⟩
  obtain ⟨hret, hlid⟩ := vxi11Connect_linked ho hjoin (w.data block) timeout resp
  exact ⟨hret, (linkOf_written w s' block _).trans hlid⟩

theorem connectEffect_unlinked (clnt : Clnt σ) (name : Option Text) (timeout : Int) {o : Setup}
    (ho : ¬ o.Links) (w : World σ) (block : Block) :
    ∃ v, connectEffect clnt name timeout o (some .vxi11) (some block) w = some (-1, v) ∧
      (∀ b, b ≠ block → v.data b = w.data b) ∧ v.server = w.server := by
  have heffect := connectEffect_eq timeout block (openLink_none clnt name ho w.server)
  rw [vxi11Connect_refused] at heffect
  exact ⟨_, heffect, fun b hb => Function.update_of_ne hb .., rfl⟩

theorem connect_stands (h : Instrument handlers links waiting reads respond capacity maxRecvSize)
    (hclnt : Reaches clnt handlers) (hm : Stands links waiting m q) (name : Option Text)
    (timeout : Int) {o : Setup} (hallows : q.Allows capacity maxRecvSize (.connect name timeout o)) :
    ∃ n, (∀ fuel, specPerform clnt fuel m (.connect name timeout o) =
        some ((q.connect o).1, n)) ∧ Stands links waiting n (q.connect o).2 := by
  have hreal {n : Spec (World σ)} {r : Int}
      (hperform : connect (connectEffect clnt name timeout o) .vxi11 m = some (r, n)) :
      ∃ s, Refines s n :=
    hm.real_of_perform (.connect name timeout o) (fun _ h => by cases h) _ 0 hperform
  have hspec {n : Spec (World σ)} {r : Int}
      (hperform : connect (connectEffect clnt name timeout o) .vxi11 m = some (r, n)) (fuel : Nat) :
      specPerform clnt fuel m (.connect name timeout o) = some ((r, []), n) := by
    rw [specPerform, Op.call, SessionMap.perform, hperform]
    rfl
  by_cases hfree : leastFree m < maxLive
  · have hq : q.free = some (leastFree m) := hm.free.trans (if_pos hfree)
    by_cases ho : o.Links
    · have hroom : (links m.world.server).ncard < capacity := by
        rw [← hm.links]
        exact hallows (by rw [hq]; rfl) ho
      obtain ⟨ret, w, lid, heffect, hdata, hnew, hlinks, hwaiting, hdone, hlate⟩ :=
        connectEffect_linked h hclnt name timeout ho hroom m.nextBlock
      obtain ⟨log, log', hperform⟩ := specConnect_free hfree heffect
      by_cases hjoin : o.timedjoin = 0
      · obtain ⟨rfl, hlid⟩ := hdone hjoin
        rw [if_pos rfl] at hperform
        rw [Sessions.connect_done hq ho hjoin]
        exact ⟨_, hspec hperform,
          hm.connected (hreal hperform) rfl hdata hlid hnew hlinks hwaiting⟩
      · rw [hlate hjoin, if_neg (by decide)] at hperform
        rw [Sessions.connect_late hq ho hjoin]
        refine ⟨_, hspec hperform, ?_⟩
        have hkept := hm.kept (hreal hperform) rfl hdata (hlinks ▸ Set.subset_insert lid _)
          fun other hother => by rw [hwaiting, Function.update_of_ne (ne_of_mem_of_not_mem hother hnew)]
        rwa [hlinks, Set.ncard_insert_of_notMem hnew, ← hm.links] at hkept
    · obtain ⟨w, heffect, hdata, hserver⟩ :=
        connectEffect_unlinked clnt name timeout ho m.world m.nextBlock
      obtain ⟨log, log', hperform⟩ := specConnect_free hfree heffect
      rw [if_neg (by decide)] at hperform
      rw [Sessions.connect_unlinked hq ho]
      refine ⟨_, hspec hperform, ?_⟩
      have hkept := hm.kept (hreal hperform) rfl hdata (by rw [hserver]) fun _ _ => by rw [hserver]
      rwa [hserver, ← hm.links] at hkept
  · have hq : q.free = none := hm.free.trans (if_neg hfree)
    have hperform : connect (connectEffect clnt name timeout o) .vxi11 m =
        some (lxiError, { m with log := .error (.text "Too many active sessions!\n") :: m.log }) := by
      rw [connect, if_neg hfree]
    rw [Sessions.connect_full hq]
    refine ⟨_, hspec hperform, ?_⟩
    have hkept := hm.kept (hreal hperform) rfl (fun _ _ => rfl) subset_rfl fun _ _ => rfl
    rwa [← hm.links] at hkept

section Transfers

variable {device : Int} {c : Conn}

theorem lookup_some (hlookup : SessionMap.lookup m device = some c) :
    ∃ i : Nat, device = i ∧ m.live i = some c := by
  rw [SessionMap.lookup] at hlookup
  split at hlookup
  · cases hlookup
  · exact ⟨device.toNat, by omega, hlookup⟩

def passed (m : Spec (World σ)) (op : Operation) (c : Conn) (w : World σ) : Spec (World σ) :=
  { m with log := .call op (some c.backend) (some c.block) :: m.log, world := w }

theorem specTransfer_none (op : Operation) (effect : Effect (World σ))
    (hlookup : SessionMap.lookup m device = none) :
    transfer op effect device m = some (lxiError, m) := by
  rw [transfer, hlookup]

theorem specTransfer_some (op : Operation) {effect : Effect (World σ)} {ret : Int} {w : World σ}
    (hlookup : SessionMap.lookup m device = some c)
    (heffect : effect (some c.backend) (some c.block) m.world = some (ret, w)) :
    transfer op effect device m = some (told ret, passed m op c w) := by
  rw [transfer, hlookup]
  simp only [heffect, Option.map_some, passed]

theorem told_natCast (n : Nat) : told n = n := max_eq_left (by omega)

theorem Stands.lookup_none (hm : Stands links waiting m q)
    (hlookup : SessionMap.lookup m device = none) : q.lookup device = none := by
  rw [hm.lookup, hlookup]
  rfl

theorem Stands.lookup_some (hm : Stands links waiting m q)
    (hlookup : SessionMap.lookup m device = some c) :
    q.lookup device = some (waiting m.world.server (linkOf m.world c)) := by
  rw [hm.lookup, hlookup]
  rfl

theorem send_stands (h : Conforms handlers links waiting reads respond maxRecvSize)
    (hclnt : Reaches clnt handlers) (hm : Stands links waiting m q) (message : Cells UInt8)
    {length : Length} (timeout : Int) (hin : (Op.send device message length timeout).Inside)
    (hallows : q.Allows capacity maxRecvSize (.send device message length timeout)) :
    ∃ n, (∀ fuel, specPerform clnt fuel m (.send device message length timeout) =
        some ((q.ideal respond (.send device message length timeout)).1, n)) ∧
      Stands links waiting n (q.ideal respond (.send device message length timeout)).2 := by
  cases hlookup : SessionMap.lookup m device with
  | none =>
      have hperform := specTransfer_none .send
        (sendEffect clnt message length timeout) hlookup
      refine ⟨m, fun fuel => ?_, ?_⟩
      · rw [specPerform, Op.call, SessionMap.perform, hperform]
        simp only [Sessions.ideal, hm.lookup_none hlookup]
        rfl
      · simp only [Sessions.ideal, hm.lookup_none hlookup]
        exact hm
  | some c =>
      obtain ⟨i, rfl, hc⟩ := lookup_some hlookup
      have hfits : length.val ≤ maxRecvSize := hallows (by rw [hm.lookup_some hlookup]; rfl)
      obtain ⟨s', hsend, hlinks, hwaiting⟩ :=
        send_reaches h hclnt (hm.linked i c hc) message hfits timeout
      have heffect : sendEffect clnt message length timeout (some c.backend)
          (some c.block) m.world = some ((length.val : Int), { m.world with server := s' }) := by
        rw [hm.backend i c hc, sendEffect, hsend]
      have hperform := specTransfer_some .send hlookup heffect
      rw [told_natCast] at hperform
      have hreal := hm.real_of_perform _ hin clnt 0 hperform
      refine ⟨passed m .send c { m.world with server := s' }, fun fuel => ?_, ?_⟩
      · rw [specPerform, Op.call, SessionMap.perform, hperform]
        simp only [Sessions.ideal, hm.lookup_some hlookup]
        rfl
      · simp only [Sessions.ideal, hm.lookup_some hlookup]
        exact hm.transferred hreal rfl rfl hlinks hc hwaiting

theorem receive_stands (h : Conforms handlers links waiting reads respond maxRecvSize)
    (hclnt : Reaches clnt handlers) (hm : Stands links waiting m q) (message : Cells UInt8)
    (length : Length) (timeout : Int)
    (hin : (Op.receive device message length timeout).Inside) :
    ∃ n bound, (∀ fuel, bound ≤ fuel →
        specPerform clnt fuel m (.receive device message length timeout) =
          some ((q.ideal respond (.receive device message length timeout)).1, n)) ∧
      Stands links waiting n (q.ideal respond (.receive device message length timeout)).2 := by
  cases hlookup : SessionMap.lookup m device with
  | none =>
      refine ⟨m, 0, fun fuel _ => ?_, ?_⟩
      · rw [specPerform, Op.call, SessionMap.perform, specTransfer_none .receive _ hlookup]
        simp only [Sessions.ideal, hm.lookup_none hlookup]
        rfl
      · simp only [Sessions.ideal, hm.lookup_none hlookup]
        exact hm
  | some c =>
      obtain ⟨i, rfl, hc⟩ := lookup_some hlookup
      obtain ⟨s', received, ret, bound, hreceive, hret, hlinks, hideal⟩ :=
        receive_ideal h hclnt (hm.linked i c hc) message length timeout
      have heffect (fuel : Nat) (hfuel : bound ≤ fuel) :
          receiveEffect clnt fuel message length timeout (some c.backend)
            (some c.block) m.world =
              some (ret, { m.world with server := s', message := received.message }) := by
        rw [hm.backend i c hc, receiveEffect, hreceive fuel hfuel]
        simp only [hret, Option.map_some]
      have hperform (fuel : Nat) (hfuel : bound ≤ fuel) :=
        specTransfer_some .receive hlookup (heffect fuel hfuel)
      have hreal := hm.real_of_perform _ hin clnt bound (hperform bound le_rfl)
      refine ⟨passed m .receive c { m.world with server := s', message := received.message }, bound, ?_⟩
      have hspec (fuel : Nat) (hfuel : bound ≤ fuel) :
          specPerform clnt fuel m (.receive i message length timeout) =
            some ((told ret, read received.message 0 (told ret).toNat),
              passed m .receive c { m.world with server := s', message := received.message }) := by
        rw [specPerform, Op.call, SessionMap.perform, hperform fuel hfuel]
        rfl
      cases hw : waiting m.world.server (m.world.data c.block).linkResp.lid with
      | nil =>
          simp only [RemoteSession.ideal, Action.lid, hw, Prod.mk.injEq, Answer.received.injEq] at hideal
          obtain ⟨⟨rfl, -⟩, hwaiting⟩ := hideal
          have hq : q.lookup i = some [] := (hm.lookup_some hlookup).trans (congrArg some hw)
          simp only [Sessions.ideal, hq]
          refine ⟨hspec, ?_⟩
          have hkept := hm.kept hreal rfl (fun _ _ => rfl) hlinks.symm.subset
            fun _ _ => congrFun hwaiting _
          change Stands links waiting _ { q with links := (links s').ncard } at hkept
          rwa [hlinks, ← hm.links] at hkept
      | cons response others =>
          simp only [RemoteSession.ideal, Action.lid, hw, Prod.mk.injEq, Answer.received.injEq] at hideal
          obtain ⟨⟨hlength, hbytes⟩, hwaiting⟩ := hideal
          have hq : q.lookup i = some (response :: others) :=
            (hm.lookup_some hlookup).trans (congrArg some hw)
          have hresult : told ret = ret := by rw [hlength, told_natCast]
          simp only [Sessions.ideal, hq]
          refine ⟨fun fuel hfuel => (hspec fuel hfuel).trans ?_,
            hm.transferred hreal rfl rfl hlinks hc hwaiting⟩
          rw [hresult, hbytes, ← hlength]

theorem specDisconnect_some {effect : Effect (World σ)} {ret : Int} {w : World σ}
    (hlookup : SessionMap.lookup m device = some c)
    (heffect : effect (some c.backend) (some c.block) m.world = some (ret, w)) :
    ∃ log, SessionMap.disconnect effect device m =
      some (lxiOk, ⟨Function.update m.live device.toNat none, m.nextBlock, log, w⟩) := by
  rw [SessionMap.disconnect, hlookup]
  simp only [heffect, Option.map_some]
  exact ⟨_, rfl⟩

theorem disconnect_stands
    (h : Instrument handlers links waiting reads respond capacity maxRecvSize)
    (hclnt : Reaches clnt handlers) (hm : Stands links waiting m q)
    (hin : (Op.disconnect device).Inside) :
    ∃ n, (∀ fuel, specPerform clnt fuel m (.disconnect device) =
        some ((q.ideal respond (.disconnect device)).1, n)) ∧
      Stands links waiting n (q.ideal respond (.disconnect device)).2 := by
  cases hlookup : SessionMap.lookup m device with
  | none =>
      simp only [Sessions.ideal, hm.lookup_none hlookup]
      refine ⟨m, fun fuel => ?_, hm⟩
      have hperform : SessionMap.disconnect (disconnectEffect clnt) device m =
          some (lxiError, m) := by rw [SessionMap.disconnect, hlookup]
      rw [specPerform, Op.call, SessionMap.perform, hperform]
      rfl
  | some c =>
      obtain ⟨i, rfl, hc⟩ := lookup_some hlookup
      obtain ⟨s', retval, resp, hhandler, hlinks, hwaiting⟩ := h.destroy m.world.server
        (linkOf m.world c) (hm.linked i c hc)
      have hserver : (destroyLink1 clnt (m.world.data c.block).linkResp.lid
          (zeroed .deviceError) m.world.server).1 = s' := by
        rw [destroyLink1_eq hclnt]
        exact congrArg Prod.fst hhandler
      have heffect : disconnectEffect clnt (some c.backend) (some c.block)
          m.world = some (0, { m.world with server := s' }) := by
        rw [hm.backend i c hc, disconnectEffect, ← hserver]
        rfl
      obtain ⟨log, hperform⟩ := specDisconnect_some hlookup heffect
      have hreal := hm.real_of_perform (.disconnect i) hin clnt 0 hperform
      simp only [Sessions.ideal, hm.lookup_some hlookup]
      refine ⟨_, fun fuel => ?_, hm.disconnected hreal rfl rfl hc hlinks hwaiting⟩
      rw [specPerform, Op.call, SessionMap.perform, hperform]
      rfl

end Transfers

theorem perform_stands (h : Instrument handlers links waiting reads respond capacity maxRecvSize)
    (hclnt : Reaches clnt handlers) (hm : Stands links waiting m q) {op : Op} (hin : op.Inside)
    (hallows : q.Allows capacity maxRecvSize op) :
    ∃ n bound, Stands links waiting n (q.ideal respond op).2 ∧ ∀ fuel, bound ≤ fuel →
      specPerform clnt fuel m op = some ((q.ideal respond op).1, n) := by
  cases op with
  | connect name timeout o =>
      obtain ⟨n, hperform, hn⟩ := connect_stands h hclnt hm name timeout hallows
      exact ⟨n, 0, hn, fun fuel _ => hperform fuel⟩
  | send device message length timeout =>
      obtain ⟨n, hperform, hn⟩ := send_stands h.toConforms hclnt hm message timeout hin hallows
      exact ⟨n, 0, hn, fun fuel _ => hperform fuel⟩
  | receive device message length timeout =>
      obtain ⟨n, bound, hperform, hn⟩ := receive_stands h.toConforms hclnt hm message length
        timeout hin
      exact ⟨n, bound, hn, hperform⟩
  | disconnect device =>
      obtain ⟨n, hperform, hn⟩ := disconnect_stands h hclnt hm hin
      exact ⟨n, 0, hn, fun fuel _ => hperform fuel⟩

theorem perform_specPerform (clnt : Clnt σ) (fuel : Nat) {s : State (World σ)} (hs : Refines s m)
    {op : Op} (hin : op.Inside) :
    Option.Rel (fun x y => x.1 = y.1 ∧ Refines x.2 y.2) (perform clnt fuel s op)
      (specPerform clnt fuel m op) := by
  apply Machine.rel_map (perform_refines hs (op.call clnt fuel) (hin.call clnt fuel))
  rintro x y ⟨hret, hxy⟩
  refine ⟨?_, hxy⟩
  rw [hret, hxy.world]

end Calls

/-- The table with its blocks and the server stands for what waits for the handles. -/
def Represents (links : σ → Set Int32) (waiting : σ → Int32 → Waiting) (s : State (World σ))
    (q : Sessions) : Prop :=
  ∃ m, Refines s m ∧ Stands links waiting m q

/-- The whole library over the wire is the map from handles to what waits for them:
whatever calls an application makes of what the instrument allows, they all return what
they return on the map. -/
theorem library_ideal {handlers : Handlers σ} {links : σ → Set Int32} {waiting : σ → Int32 → Waiting}
    {reads : σ → Int32 → Nat} {respond : List UInt8 → Waiting → Waiting} {capacity maxRecvSize : Nat}
    (h : Instrument handlers links waiting reads respond capacity maxRecvSize) {clnt : Clnt σ}
    (hclnt : Reaches clnt handlers) {s : State (World σ)} {q : Sessions}
    (hs : Represents links waiting s q) {ops : List Op} (hin : ∀ op ∈ ops, op.Inside)
    (hallows : Machine.Meets (Sessions.ideal respond) (Sessions.Allows capacity maxRecvSize) q ops) :
    ∃ bound, ∀ fuel, bound ≤ fuel → ∃ t,
      Machine.outputs (perform clnt fuel) s ops =
        some ((Machine.total (Sessions.ideal respond) q ops).1, t) ∧
      Represents links waiting t (Machine.total (Sessions.ideal respond) q ops).2 := by
  obtain ⟨m, hs, hm⟩ := hs
  have hrefines (fuel : Nat) (s : State (World σ)) (m : Spec (World σ)) (op : Op) (hop : op.Inside)
      (hs : Refines s m) := perform_specPerform clnt fuel hs hop
  have hstands (m : Spec (World σ)) (q : Sessions) (op : Op)
      (hop : op.Inside ∧ q.Allows capacity maxRecvSize op) (hm : Stands links waiting m q) :=
    perform_stands h hclnt hm hop.1 hop.2
  have hmeets := Machine.meets_and (Machine.meets_of_forall hin q) hallows
  obtain ⟨bound, houtputs⟩ := Machine.outputs_total_of_rel hrefines hstands hs hm hin hmeets
  refine ⟨bound, fun fuel hfuel => ?_⟩
  obtain ⟨t, n, hout, ht, hn⟩ := houtputs fuel hfuel
  exact ⟨t, hout, n, ht, hn⟩

theorem represents_initial (links : σ → Set Int32) (waiting : σ → Int32 → Waiting)
    (session : Nat → Session) (w : World σ) :
    Represents links waiting (initial session w) ⟨fun _ => none, (links w.server).ncard⟩ :=
  ⟨empty w, refines_initial session w,
    ⟨⟨_, refines_initial session w⟩, fun _ => rfl, fun _ _ h => (nomatch h), fun _ _ h => (nomatch h),
      fun _ _ _ _ h => (nomatch h), rfl⟩⟩

section Single

/-- The server that echoes, with link 7 and no other one. It answers with an error where
that link is taken. -/
def single : Handlers ((Int32 → Waiting) × Bool)
  | .createLink => fun s _ =>
      if s.2 then (s, 1, ⟨9, 0, 0, 0⟩)
      else ((Function.update s.1 7 [], true), 1, ⟨0, 7, 0, 1024⟩)
  | .destroyLink => fun s (lid : Int32) => ((s.1, if lid = 7 then false else s.2), 1, ⟨0⟩)
  | .deviceWrite => fun s x =>
      let (w, retval, result) := echo .deviceWrite s.1 x
      ((w, s.2), retval, result)
  | .deviceRead => fun s x =>
      let (w, retval, result) := echo .deviceRead s.1 x
      ((w, s.2), retval, result)
  | p => fun s _ => (s, 0, zeroed p.result)

def singleLinks (s : (Int32 → Waiting) × Bool) : Set Int32 := { lid | s.2 = true ∧ lid = 7 }

def singleReads (s : (Int32 → Waiting) × Bool) : Int32 → Nat := echoReads s.1

theorem single_conforms :
    Conforms single singleLinks Prod.fst singleReads respondEcho 1024 where
  write s x _ _ := ⟨_, 1, Int.one_pos, rfl, rfl, rfl⟩
  idle s x _ hw := by
    obtain ⟨w, retval, resp, hret, hhandler, herror, -, hwaiting⟩ :=
      (echo_conforms 1024).idle s.1 x trivial hw
    refine ⟨(w, s.2), retval, resp, hret, ?_, herror, rfl, hwaiting⟩
    exact congrArg (fun r => ((r.1, s.2), r.2)) hhandler
  read s x response others _ hw := by
    obtain ⟨w, retval, resp, more, hret, hhandler, hgives, -, hwaiting, hreads⟩ :=
      (echo_conforms 1024).read s.1 x response others trivial hw
    refine ⟨(w, s.2), retval, resp, more, hret, ?_, hgives, rfl, hwaiting, hreads⟩
    exact congrArg (fun r => ((r.1, s.2), r.2)) hhandler

theorem singleLinks_taken (w : Int32 → Waiting) : (singleLinks (w, true)).ncard = 1 := by
  have hlinks : singleLinks (w, true) = {7} := by simp [singleLinks]
  rw [hlinks, Set.ncard_singleton]

theorem singleLinks_free (w : Int32 → Waiting) : (singleLinks (w, false)).ncard = 0 := by
  have hlinks : singleLinks (w, false) = ∅ := by simp [singleLinks]
  rw [hlinks, Set.ncard_empty]

theorem single_instrument :
    Instrument single singleLinks Prod.fst singleReads respondEcho 1 1024 where
  toConforms := single_conforms
  create s x hroom := by
    obtain ⟨w, taken⟩ := s
    cases taken with
    | true =>
        rw [singleLinks_taken] at hroom
        exact absurd hroom (Nat.lt_irrefl 1)
    | false =>
        refine ⟨(Function.update w 7 [], true), 1, ⟨0, 7, 0, 1024⟩, Int.one_pos, rfl, rfl, rfl, ?_, ?_,
          rfl⟩
        · simp [singleLinks]
        · simp [singleLinks]
  destroy s lid hlid := by
    obtain ⟨htaken, rfl⟩ := hlid
    refine ⟨_, 1, ⟨0⟩, rfl, ?_, fun _ _ => rfl⟩
    ext lid
    simp [singleLinks]

def handedOn : List Op :=
  [.connect none 1000 ⟨0, ⟨0, 0⟩, 0, 0, 0, some 1⟩, .send 0 (fun _ => 65) ⟨4, four_isInt⟩ 1000,
    .disconnect 0, .connect none 1000 ⟨0, ⟨0, 0⟩, 0, 0, 0, some 2⟩,
    .receive 0 (fun _ => 0) ⟨4, four_isInt⟩ 1000, .send 0 (fun _ => 66) ⟨4, four_isInt⟩ 1000,
    .receive 0 (fun _ => 0) ⟨4, four_isInt⟩ 1000]

def handedOnSeen : List Seen :=
  [(0, []), (4, []), (0, []), (0, []), (-1, []), (4, []), (4, [66, 66, 66, 66])]

theorem total_handedOn :
    (Machine.total (Sessions.ideal respondEcho) ⟨fun _ => none, 0⟩ handedOn).1 = handedOnSeen := by
  decide +kernel

theorem handedOn_allowed :
    Machine.Meets (Sessions.ideal respondEcho) (Sessions.Allows 1 1024) ⟨fun _ => none, 0⟩ handedOn := by
  decide +kernel

theorem library_ideal_handedOn :
    ∃ bound, ∀ fuel, bound ≤ fuel → ∃ t,
      Machine.outputs (perform (clientOf single ⟨true, false, true, false, true⟩) fuel)
          (initial (fun _ => default) ⟨(fun _ => [], false), fun _ => default, fun _ => 0⟩) handedOn =
        some (handedOnSeen, t) ∧
      Represents singleLinks Prod.fst t
        (Machine.total (Sessions.ideal respondEcho) ⟨fun _ => none, 0⟩ handedOn).2 := by
  have hinitial := represents_initial singleLinks Prod.fst (fun _ => default)
    ⟨(fun _ => [], false), fun _ => default, fun _ => 0⟩
  rw [singleLinks_free] at hinitial
  have hin : ∀ op ∈ handedOn, op.Inside := by decide
  have h := library_ideal single_instrument (clientOf_reaches single ⟨true, false, true, false, true⟩)
    hinitial hin handedOn_allowed
  rwa [total_handedOn] at h

end Single

end LibLxi.RemoteLibrary

import LibLxi.IdBounds
import LibLxi.RemoteLibrary

namespace LibLxi.RemoteProbe

open DeviceId (ProbeOutcome Probe getDeviceId idReqScpi idLengthMax newline carriageReturn)
open IdBounds (Bounded chop)
open Lxi Memory Platform ProbeExits RemoteCalls RemoteLibrary RemoteSession Rpc SessionMap
open Vxi11 Vxi11Service

variable {σ : Type}

theorem idReqScpi_isInt : idReqScpi.length < 2 ^ 31 := by decide

def idReq : Length := ⟨idReqScpi.length, idReqScpi_isInt⟩

section Calls

variable (clnt : Clnt σ)

/-- What get_device_id asks the server behind its connect. The link is given back on
every path. -/
def exchange (fuel : Nat) (data : Vxi11Data) (timeout : Int) (s : σ) : σ × WriteReply × List ReadReply :=
  let (s, written) := write clnt data (cellsOf idReqScpi) idReq timeout s
  let (s, replies) :=
    if (vxi11Send data (cellsOf idReqScpi) idReq.val timeout written).1 < 0 then (s, [])
    else answers clnt (readParms data idLengthMax timeout) idLengthMax fuel 0 s
  let (s, _) := destroyLink1 clnt data.linkResp.lid (zeroed .deviceError) s
  (s, written, replies)

def meet (fuel : Nat) (timeout : Int) (o : Setup) (p : ProbeOutcome) (s : σ) : σ × ProbeOutcome :=
  let (s, reply) := openLink clnt none o s
  let connect := o.outcome reply
  let (device, data, _) := vxi11Connect p.data none timeout connect
  if device < 0 then (s, { p with connect })
  else
    let (s, write, replies) := exchange clnt fuel data timeout s
    (s, { p with connect, write, replies })

def probe (fuel : Nat) (timeout : Int) (id : Cells UInt8) (o : Setup) (p : ProbeOutcome) (s : σ) :
    σ × Probe (Int × Cells UInt8) :=
  let (s, met) := meet clnt fuel timeout o p s
  (s, getDeviceId timeout id met)

end Calls

section Probes

variable {handlers : Handlers σ} {links : σ → Set Int32} {waiting : σ → Int32 → Waiting}
  {reads : σ → Int32 → Nat} {respond : List UInt8 → Waiting → Waiting} {capacity maxRecvSize : Nat}
  {clnt : Clnt σ} {s : σ} {o : Setup}

theorem getDeviceId_unconnected {timeout : Int} {p : ProbeOutcome}
    (h : (vxi11Connect p.data none timeout p.connect).1 < 0) (id : Cells UInt8) :
    (getDeviceId timeout id p).result = .ok (-1, id) := by
  rw [getDeviceId]
  simp only
  rw [if_pos h]
  rfl

/-- What a probe leaves of a server, with n links given away: the links that were there,
with all that waits for them. -/
structure Probed (links : σ → Set Int32) (waiting : σ → Int32 → Waiting) (s s' : σ) (n : Nat) :
    Prop where
  count : (links s').ncard = n
  subset : links s ⊆ links s'
  waits : ∀ lid ∈ links s, waiting s' lid = waiting s lid

theorem meet_unlinked (clnt : Clnt σ) (links : σ → Set Int32) (waiting : σ → Int32 → Waiting)
    (timeout : Int) (p : ProbeOutcome) (ho : ¬ o.Links) (s : σ) :
    ∃ met, Probed links waiting s s (links s).ncard ∧
      (∀ fuel, meet clnt fuel timeout o p s = (s, met)) ∧
      ∀ id, (getDeviceId timeout id met).result = .ok (-1, id) := by
  have hfailed : (vxi11Connect p.data none timeout (o.outcome (.error .timedOut))).1 < 0 := by
    rw [vxi11Connect_refused]
    decide
  refine ⟨{ p with connect := o.outcome (.error .timedOut) },
    ⟨rfl, subset_rfl, fun _ _ => rfl⟩, fun fuel => ?_, getDeviceId_unconnected hfailed⟩
  rw [meet, openLink_none clnt none ho]
  exact if_pos hfailed

/-- A probe that times out behind its create_link leaves the link behind. -/
theorem meet_late (h : Instrument handlers links waiting reads respond capacity maxRecvSize)
    (hclnt : Reaches clnt handlers) (timeout : Int) (p : ProbeOutcome) (ho : o.Links)
    (hroom : (links s).ncard < capacity) (hjoin : o.timedjoin ≠ 0) :
    ∃ s' met, Probed links waiting s s' ((links s).ncard + 1) ∧
      (∀ fuel, meet clnt fuel timeout o p s = (s', met)) ∧
      ∀ id, (getDeviceId timeout id met).result = .ok (-1, id) := by
  obtain ⟨s', resp, hreply, hnew, hlinks, hwaiting⟩ := openLink_new h hclnt none ho hroom
  have hfailed : (vxi11Connect p.data none timeout (o.outcome (.ok resp))).1 < 0 := by
    rw [vxi11Connect_late ho hjoin]
    decide
  refine ⟨s', { p with connect := o.outcome (.ok resp) }, ⟨?_, hlinks ▸ Set.subset_insert _ _, ?_⟩,
    fun fuel => ?_, getDeviceId_unconnected hfailed⟩
  · rw [hlinks, Set.ncard_insert_of_notMem hnew]
  · intro lid hlid
    rw [hwaiting, Function.update_of_ne (ne_of_mem_of_not_mem hlid hnew)]
  · rw [meet, hreply]
    exact if_pos hfailed

theorem exchange_ideal (h : Instrument handlers links waiting reads respond capacity maxRecvSize)
    (hclnt : Reaches clnt handlers) {data : Vxi11Data} (timeout : Int)
    (hlink : data.linkResp.lid ∈ links s) (hfits : idReqScpi.length ≤ maxRecvSize)
    {response : List UInt8} {others : Waiting}
    (hrespond : respond idReqScpi (waiting s data.linkResp.lid) = response :: others)
    (hlength : response.length ≤ idLengthMax) :
    ∃ s' written replies bound, (∀ fuel, bound ≤ fuel →
        exchange clnt fuel data timeout s = (s', written, replies)) ∧
      (vxi11Send data (cellsOf idReqScpi) idReqScpi.length timeout written).1 = idReqScpi.length ∧
      (∀ id, (vxi11Receive data id idLengthMax timeout replies).ret = some (response.length : Int) ∧
        (vxi11Receive data id idLengthMax timeout replies).message = store id 0 response) ∧
      links s' = links s \ {data.linkResp.lid} ∧
      ∀ lid, lid ≠ data.linkResp.lid → waiting s' lid = waiting s lid := by
  have hroom : idLengthMax < 2 ^ 31 := by decide
  have hfits : idReq.val ≤ maxRecvSize := hfits
  obtain ⟨s₁, hwrite, hlinks₁, hwaiting₁⟩ :=
    write_reaches h.toConforms hclnt hlink (cellsOf idReqScpi) hfits timeout
  have hsent := vxi11Send_written data (cellsOf idReqScpi) idReq timeout
  have hmessage : read (cellsOf idReqScpi) 0 idReq.val = idReqScpi := read_store _ _ _
  have hlink₁ : data.linkResp.lid ∈ links s₁ := hlinks₁ ▸ hlink
  have hw : waiting s₁ data.linkResp.lid = response :: others := by
    rw [hwaiting₁, Function.update_self, hmessage, hrespond]
  have henough := Nat.lt_succ_self (reads s₁ data.linkResp.lid)
  obtain ⟨⟨s₂, replies⟩, hanswers⟩ : ∃ x, answers clnt (readParms data idLengthMax timeout)
      idLengthMax (reads s₁ data.linkResp.lid + 1) 0 s₁ = x := ⟨_, rfl⟩
  have hreceived (id : Cells UInt8) := receiveLoop_reaches h.toConforms hclnt
    (readParms data idLengthMax timeout) hroom (Nat.zero_le _) hlink₁ data.rpcClient id response others
    hw henough
  rw [hanswers] at hreceived
  obtain ⟨hlinks₂, hfirst⟩ := hreceived fun _ => 0
  have hwaiting₂ := hfirst.after
  obtain ⟨s₃, retval, resp, hhandler, hlinks₃, hwaiting₃⟩ :=
    h.destroy s₂ data.linkResp.lid (hlinks₂ ▸ hlink₁)
  have hdestroy : (destroyLink1 clnt data.linkResp.lid (zeroed .deviceError) s₂).1 = s₃ := by
    rw [destroyLink1_eq hclnt]
    exact congrArg Prod.fst hhandler
  have hsends : ¬ (vxi11Send data (cellsOf idReqScpi) idReq.val timeout
      ⟨.success, ⟨0, UInt32.ofNat idReq.val⟩⟩).1 < 0 := by
    rw [hsent]
    omega
  have hall : response.take idLengthMax = response := List.take_of_length_le hlength
  refine ⟨s₃, _, replies, reads s₁ data.linkResp.lid + 1, fun fuel hfuel => ?_, hsent,
    fun id => ⟨?_, ?_⟩, ?_, fun lid hlid => ?_⟩
  · have hstable := answers_stable h.toConforms hclnt (readParms data idLengthMax timeout)
      (Nat.zero_le idLengthMax) hlink₁ response others hw hfuel henough
    rw [exchange, hwrite]
    simp only [if_neg hsends]
    rw [hstable, hanswers, hdestroy]
  · have hret := (hreceived id).2.ret
    rw [Nat.sub_zero, hall, Nat.zero_add] at hret
    exact hret
  · have hmessage := (hreceived id).2.message
    rw [Nat.sub_zero, hall] at hmessage
    exact hmessage
  · rw [hlinks₃, hlinks₂, hlinks₁]
  · have hreads : waiting s₂ lid = waiting s₁ lid :=
      (congrFun hwaiting₂ lid).trans (Function.update_of_ne hlid ..)
    rw [hwaiting₃ lid hlid, hreads, hwaiting₁, Function.update_of_ne hlid]

def text (id : Cells UInt8) : List UInt8 := (cString id 0 idLengthMax).getD []

theorem cString_terminated {m : Cells UInt8} {pos : Int} {bs : List UInt8} {n : Nat}
    (hread : read m pos bs.length = bs) (hzero : m (pos + bs.length) = 0) (hn : bs.length < n) :
    cString m pos n = some (bs.takeWhile (· ≠ 0)) := by
  induction bs generalizing pos n with
  | nil =>
      obtain ⟨n, rfl⟩ : ∃ k, n = k + 1 := ⟨n - 1, by omega⟩
      rw [cString, if_pos (by simpa using hzero)]
      rfl
  | cons b bs ih =>
      obtain ⟨n, rfl⟩ : ∃ k, n = k + 1 := ⟨n - 1, by omega⟩
      obtain ⟨hb, hbs⟩ := List.cons.inj hread
      have hzero' : m (pos + 1 + bs.length) = 0 := by
        rw [← hzero, List.length_cons]
        congr 1
        push_cast
        ring
      rw [cString, hb, ih hbs hzero' (Nat.lt_of_succ_lt_succ hn), List.takeWhile_cons]
      by_cases h0 : b = 0
      · simp [h0]
      · simp [h0]

def name (response : List UInt8) : List UInt8 :=
  (chop carriageReturn (chop newline response)).takeWhile (· ≠ 0)

/-- An instrument that takes the question for its name and answers it. A single newline
would leave nothing of the response to look at. -/
structure Tells (respond : List UInt8 → Waiting → Waiting) (maxRecvSize : Nat)
    (response : List UInt8) : Prop where
  fits : idReqScpi.length ≤ maxRecvSize
  responds : ∃ others, respond idReqScpi [] = response :: others
  nonempty : response ≠ []
  short : response.length < idLengthMax
  named : response ≠ [newline]

variable {response : List UInt8}

theorem finishId_named (htells : Tells respond maxRecvSize response) (timeout : Int)
    (p : ProbeOutcome) {id : Cells UInt8} (hread : read id 0 response.length = response) :
    ∃ id', (DeviceId.finishId timeout response.length id p).result = .ok (0, id') ∧
      text id' = name response := by
  have hfinish : Bounded (DeviceId.finishId timeout response.length id p) (read id 0 response.length) :=
    (IdBounds.finishId_bounded_iff (List.length_pos_of_ne_nil htells.nonempty)).mpr
      ⟨htells.short, by rw [hread]; exact htells.named⟩
  rw [hread] at hfinish
  obtain ⟨id', hresult, htext, hzero⟩ := hfinish.ended
  have hshort : (chop carriageReturn (chop newline response)).length < idLengthMax :=
    ((IdBounds.chop_length _ _).trans (IdBounds.chop_length _ _)).trans_lt htells.short
  refine ⟨id', hresult, ?_⟩
  rw [text, cString_terminated htext (by rwa [zero_add]) hshort]
  rfl

theorem meet_linked (h : Instrument handlers links waiting reads respond capacity maxRecvSize)
    (hclnt : Reaches clnt handlers) (timeout : Int) (p : ProbeOutcome) (ho : o.Links)
    (hroom : (links s).ncard < capacity) (hjoin : o.timedjoin = 0)
    (htells : Tells respond maxRecvSize response) :
    ∃ s' met bound, Probed links waiting s s' (links s).ncard ∧
      (∀ fuel, bound ≤ fuel → meet clnt fuel timeout o p s = (s', met)) ∧
      ∀ id, ∃ id', (getDeviceId timeout id met).result = .ok (0, id') ∧ text id' = name response := by
  obtain ⟨others, hrespond⟩ := htells.responds
  obtain ⟨s₁, resp, hreply, hnew, hlinks₁, hwaiting₁⟩ := openLink_new h hclnt none ho hroom
  obtain ⟨hret, hlid⟩ := vxi11Connect_linked ho hjoin p.data timeout resp
  obtain ⟨⟨device, data, events⟩, hconnect⟩ : ∃ x,
      vxi11Connect p.data none timeout (o.outcome (.ok resp)) = x := ⟨_, rfl⟩
  rw [hconnect] at hret hlid
  have hlink : data.linkResp.lid ∈ links s₁ := by
    rw [hlid, hlinks₁]
    exact Set.mem_insert _ _
  have hrespond₁ : respond idReqScpi (waiting s₁ data.linkResp.lid) = response :: others := by
    rw [hlid, hwaiting₁, Function.update_self, hrespond]
  obtain ⟨s₂, write, replies, bound, hexchange, hsent, hreceived, hlinks₂, hwaiting₂⟩ :=
    exchange_ideal h hclnt timeout hlink htells.fits hrespond₁ htells.short.le
  have hback : links s₂ = links s := by
    rw [hlinks₂, hlinks₁, hlid, Set.insert_sdiff_self_of_notMem hnew]
  let met : ProbeOutcome := { p with connect := o.outcome (.ok resp), write, replies }
  have hdata : linkData timeout met = data := congrArg (fun x => x.2.1) hconnect
  have hreplies : Replies timeout met response.length := by
    refine ⟨(congrArg Prod.fst hconnect).trans hret |>.ge, ?_, ?_⟩
    · rw [sentLength, hdata, hsent]
      exact Int.natCast_nonneg _
    · rw [idReply, hdata]
      exact (hreceived _).1
  refine ⟨s₂, met, bound, ⟨congrArg Set.ncard hback, hback.symm.subset, fun lid hmem => ?_⟩,
    fun fuel hfuel => ?_, fun id => ?_⟩
  · have hne : lid ≠ resp.lid := ne_of_mem_of_not_mem hmem hnew
    rw [hwaiting₂ lid (hlid ▸ hne), hwaiting₁, Function.update_of_ne hne]
  · have hconnected : ¬ device < 0 := Int.not_lt.mpr hret.ge
    rw [meet, hreply]
    simp only [hconnect, if_neg hconnected]
    rw [hexchange fuel hfuel]
  · have hread : read (idReply timeout id met).message 0 response.length = response := by
      rw [idReply, hdata, (hreceived id).2, read_store]
    obtain ⟨id', hresult, htext⟩ := finishId_named htells timeout met hread
    refine ⟨id', ?_, htext⟩
    rw [getDeviceId_replies hreplies (Int.natCast_nonneg _) id, ← hresult]
    rfl

def found (x : Int × Cells UInt8) : Seen := (x.1, if x.1 = 0 then text x.2 else [])

/-- What a probe finds at an instrument that has given away these links, and how many it
has given away then. A probe costs a link only if it times out behind its create_link. -/
def hear (answer : List UInt8) (o : Setup) (links : Nat) : Seen × Nat :=
  if o.Links then
    if o.timedjoin = 0 then ((0, answer), links) else ((-1, []), links + 1)
  else ((-1, []), links)

theorem meet_hear (h : Instrument handlers links waiting reads respond capacity maxRecvSize)
    (hclnt : Reaches clnt handlers) (htells : Tells respond maxRecvSize response) (timeout : Int)
    (p : ProbeOutcome) (hroom : o.Links → (links s).ncard < capacity) :
    ∃ s' met bound, Probed links waiting s s' (hear (name response) o (links s).ncard).2 ∧
      (∀ fuel, bound ≤ fuel → meet clnt fuel timeout o p s = (s', met)) ∧
      ∀ id, ∃ x, (getDeviceId timeout id met).result = .ok x ∧
        found x = (hear (name response) o (links s).ncard).1 := by
  rw [hear]
  by_cases ho : o.Links
  · rw [if_pos ho]
    by_cases hjoin : o.timedjoin = 0
    · obtain ⟨s', met, bound, hprobed, hmeet, hends⟩ :=
        meet_linked h hclnt timeout p ho (hroom ho) hjoin htells
      rw [if_pos hjoin]
      refine ⟨s', met, bound, hprobed, hmeet, fun id => ?_⟩
      obtain ⟨id', hresult, htext⟩ := hends id
      exact ⟨_, hresult, congrArg (Prod.mk 0) htext⟩
    · obtain ⟨s', met, hprobed, hmeet, hends⟩ := meet_late h hclnt timeout p ho (hroom ho) hjoin
      rw [if_neg hjoin]
      exact ⟨s', met, 0, hprobed, fun fuel _ => hmeet fuel, fun id => ⟨_, hends id, rfl⟩⟩
  · obtain ⟨met, hprobed, hmeet, hends⟩ := meet_unlinked clnt links waiting timeout p ho s
    rw [if_neg ho]
    exact ⟨s, met, 0, hprobed, fun fuel _ => hmeet fuel, fun id => ⟨_, hends id, rfl⟩⟩

end Probes

section Discovery

/-- What an application does: calls on its sessions, and between them the probes of a
discovery. -/
inductive Act
  | call (op : RemoteLibrary.Op)
  | probe (timeout : Int) (id : Cells UInt8) (o : Setup) (p : ProbeOutcome)

def Act.Inside : Act → Prop
  | .call op => op.Inside
  | .probe .. => True

instance : DecidablePred Act.Inside
  | .call op => inferInstanceAs (Decidable op.Inside)
  | .probe .. => inferInstanceAs (Decidable True)

variable (clnt : Clnt σ)

def probeEffect (fuel : Nat) (timeout : Int) (id : Cells UInt8) (o : Setup) (p : ProbeOutcome)
    (w : World σ) : Option (Seen × World σ) :=
  let (server, t) := probe clnt fuel timeout id o p w.server
  t.result.toOption.map fun x => (found x, { w with server })

def perform (fuel : Nat) (s : State (World σ)) : Act → Option (Seen × State (World σ))
  | .call op => RemoteLibrary.perform clnt fuel s op
  | .probe timeout id o p =>
      (probeEffect clnt fuel timeout id o p s.world).map fun x => (x.1, { s with world := x.2 })

noncomputable def specPerform (fuel : Nat) (m : Spec (World σ)) : Act → Option (Seen × Spec (World σ))
  | .call op => RemoteLibrary.specPerform clnt fuel m op
  | .probe timeout id o p =>
      (probeEffect clnt fuel timeout id o p m.world).map fun x => (x.1, { m with world := x.2 })

def ideal (respond : List UInt8 → Waiting → Waiting) (answer : List UInt8) (q : Sessions) :
    Act → Seen × Sessions
  | .call op => q.ideal respond op
  | .probe _ _ o _ =>
      let (seen, links) := hear answer o q.links
      (seen, { q with links })

def Allows (capacity maxRecvSize : Nat) (q : Sessions) : Act → Prop
  | .call op => q.Allows capacity maxRecvSize op
  | .probe _ _ o _ => o.Links → q.links < capacity

instance instDecidableActAllows (capacity maxRecvSize : Nat) (q : Sessions) :
    (act : Act) → Decidable (Allows capacity maxRecvSize q act)
  | .call op => inferInstanceAs (Decidable (q.Allows capacity maxRecvSize op))
  | .probe _ _ o _ => inferInstanceAs (Decidable (o.Links → q.links < capacity))

end Discovery

section Refinement

variable {handlers : Handlers σ} {links : σ → Set Int32} {waiting : σ → Int32 → Waiting}
  {reads : σ → Int32 → Nat} {respond : List UInt8 → Waiting → Waiting} {capacity maxRecvSize : Nat}
  {clnt : Clnt σ} {m : Spec (World σ)} {q : Sessions}

theorem refines_world {s : State (World σ)} (h : Refines s m) (w : World σ) :
    Refines { s with world := w } { m with world := w } where
  wellFormed := { h.wellFormed with }
  flags := h.flags
  live_iff := h.live_iff
  allocated_iff := h.allocated_iff
  nextBlock := h.nextBlock
  log := h.log
  world := rfl

theorem perform_specPerform (clnt : Clnt σ) (fuel : Nat) {s : State (World σ)} (hs : Refines s m)
    {act : Act} (hin : act.Inside) :
    Option.Rel (fun x y => x.1 = y.1 ∧ Refines x.2 y.2) (perform clnt fuel s act)
      (specPerform clnt fuel m act) := by
  cases act with
  | call op => exact RemoteLibrary.perform_specPerform clnt fuel hs hin
  | probe timeout id o p =>
      rw [perform, specPerform, hs.world]
      exact Machine.rel_map_self _ fun x => ⟨rfl, refines_world hs x.2⟩

theorem stands_probed (hm : Stands links waiting m q) {s' : σ} {n : Nat}
    (hprobed : Probed links waiting m.world.server s' n) :
    Stands links waiting { m with world := { m.world with server := s' } } { q with links := n } := by
  obtain ⟨s, hs⟩ := hm.real
  rw [← hprobed.count]
  exact hm.kept ⟨_, refines_world hs _⟩ rfl (fun _ _ => rfl) hprobed.subset hprobed.waits

theorem specPerform_probe {clnt : Clnt σ} {fuel : Nat} {timeout : Int} {id : Cells UInt8} {o : Setup}
    {p met : ProbeOutcome} {s' : σ} {x : Int × Cells UInt8}
    (hmeet : meet clnt fuel timeout o p m.world.server = (s', met))
    (hresult : (getDeviceId timeout id met).result = .ok x) :
    specPerform clnt fuel m (.probe timeout id o p) =
      some (found x, { m with world := { m.world with server := s' } }) := by
  rw [specPerform, probeEffect, probe, hmeet]
  simp only [hresult]
  rfl

variable {response : List UInt8}

theorem act_stands (h : Instrument handlers links waiting reads respond capacity maxRecvSize)
    (hclnt : Reaches clnt handlers) (htells : Tells respond maxRecvSize response)
    (hm : Stands links waiting m q) {act : Act} (hin : act.Inside)
    (hallows : Allows capacity maxRecvSize q act) :
    ∃ n bound, Stands links waiting n (ideal respond (name response) q act).2 ∧
      ∀ fuel, bound ≤ fuel → specPerform clnt fuel m act =
        some ((ideal respond (name response) q act).1, n) := by
  cases act with
  | call op => exact perform_stands h hclnt hm hin hallows
  | probe timeout id o p =>
      have hroom : o.Links → (links m.world.server).ncard < capacity := hm.links ▸ hallows
      obtain ⟨s', met, bound, hprobed, hmeet, hends⟩ := meet_hear h hclnt htells timeout p hroom
      obtain ⟨x, hresult, hfound⟩ := hends id
      rw [← hm.links] at hprobed hfound
      refine ⟨_, bound, stands_probed hm hprobed, fun fuel hfuel => ?_⟩
      rw [specPerform_probe (hmeet fuel hfuel) hresult, hfound]
      rfl

/-- Discovery beside sessions: a probe gets the name of the instrument, and nothing that
waits for a session is lost or changed by it. -/
theorem probes_ideal (h : Instrument handlers links waiting reads respond capacity maxRecvSize)
    (hclnt : Reaches clnt handlers) (htells : Tells respond maxRecvSize response)
    {s : State (World σ)} (hs : Represents links waiting s q) {acts : List Act}
    (hin : ∀ act ∈ acts, act.Inside)
    (hallows : Machine.Meets (ideal respond (name response)) (Allows capacity maxRecvSize) q acts) :
    ∃ bound, ∀ fuel, bound ≤ fuel → ∃ t,
      Machine.outputs (perform clnt fuel) s acts =
        some ((Machine.total (ideal respond (name response)) q acts).1, t) ∧
      Represents links waiting t (Machine.total (ideal respond (name response)) q acts).2 := by
  obtain ⟨m, hs, hm⟩ := hs
  have hrefines (fuel : Nat) (s : State (World σ)) (m : Spec (World σ)) (act : Act) (hact : act.Inside)
      (hs : Refines s m) := perform_specPerform clnt fuel hs hact
  have hstands (m : Spec (World σ)) (q : Sessions) (act : Act)
      (hact : act.Inside ∧ Allows capacity maxRecvSize q act) (hm : Stands links waiting m q) :=
    act_stands h hclnt htells hm hact.1 hact.2
  have hmeets := Machine.meets_and (Machine.meets_of_forall hin q) hallows
  obtain ⟨bound, houtputs⟩ := Machine.outputs_total_of_rel hrefines hstands hs hm hin hmeets
  refine ⟨bound, fun fuel hfuel => ?_⟩
  obtain ⟨t, n, hout, ht, hn⟩ := houtputs fuel hfuel
  exact ⟨t, hout, n, ht, hn⟩

def quietProbe : ProbeOutcome where
  data := default
  connect := default
  write := default
  replies := []
  tcpConnect := default
  tcpSend := default
  tcpReceive := default
  pending := []
  response := fun _ => 0
  mapped := 0
  doc := none

def joined (client : Client) : Setup := ⟨0, ⟨0, 0⟩, 0, 0, 0, some client⟩

def between : List Act :=
  [.probe 1000 (fun _ => 0) (joined 1) quietProbe, .call (.connect none 1000 (joined 2)),
    .call (.send 0 (fun _ => 65) ⟨4, four_isInt⟩ 1000),
    .call (.receive 0 (fun _ => 0) ⟨4, four_isInt⟩ 1000), .call (.disconnect 0),
    .probe 1000 (fun _ => 0) (joined 3) quietProbe]

def betweenSeen : List Seen :=
  [(0, [42, 73, 68, 78, 63]), (0, []), (4, []), (4, [65, 65, 65, 65]), (0, []),
    (0, [42, 73, 68, 78, 63])]

theorem respondEcho_tells : Tells respondEcho 1024 idReqScpi where
  fits := by decide
  responds := ⟨[], rfl⟩
  nonempty := by decide
  short := by decide
  named := by decide

theorem total_between :
    (Machine.total (ideal respondEcho (name idReqScpi)) ⟨fun _ => none, 0⟩ between).1 =
      betweenSeen := by
  decide +kernel

theorem between_allowed :
    Machine.Meets (ideal respondEcho (name idReqScpi)) (Allows 1 1024) ⟨fun _ => none, 0⟩ between := by
  decide +kernel

theorem probes_ideal_between :
    ∃ bound, ∀ fuel, bound ≤ fuel → ∃ t,
      Machine.outputs (perform (clientOf single ⟨true, false, true, false, true⟩) fuel)
          (SessionInvariant.initial (fun _ => default)
            ⟨(fun _ => [], false), fun _ => default, fun _ => 0⟩) between =
        some (betweenSeen, t) ∧
      Represents singleLinks Prod.fst t
        (Machine.total (ideal respondEcho (name idReqScpi)) ⟨fun _ => none, 0⟩ between).2 := by
  have hinitial := represents_initial singleLinks Prod.fst (fun _ => default)
    ⟨(fun _ => [], false), fun _ => default, fun _ => 0⟩
  rw [singleLinks_free] at hinitial
  have hin : ∀ act ∈ between, act.Inside := by decide
  have h := probes_ideal single_instrument
    (clientOf_reaches single ⟨true, false, true, false, true⟩) respondEcho_tells hinitial hin
    between_allowed
  rwa [total_between] at h

end Refinement

end LibLxi.RemoteProbe

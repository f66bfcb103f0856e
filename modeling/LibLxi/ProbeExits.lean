import LibLxi.ProbeEvents

namespace LibLxi.ProbeExits

open DeviceId Memory Tracing

def linkData (timeout : Int) (o : ProbeOutcome) : Vxi11.Vxi11Data :=
  (Vxi11.vxi11Connect o.data none timeout o.connect).2.1

def sentLength (timeout : Int) (o : ProbeOutcome) : Int :=
  (Vxi11.vxi11Send (linkData timeout o) (cellsOf idReqScpi) idReqScpi.length timeout o.write).1

def idReply (timeout : Int) (id : Cells UInt8) (o : ProbeOutcome) : Vxi11.Received :=
  Vxi11.vxi11Receive (linkData timeout o) id idLengthMax timeout o.replies

structure Replies (timeout : Int) (o : ProbeOutcome) (length : Int) : Prop where
  connected : 0 ≤ (Vxi11.vxi11Connect o.data none timeout o.connect).1
  sent : 0 ≤ sentLength timeout o
  received : (idReply timeout (fun _ => 0) o).ret = some length

section Receive

open Vxi11

/-- What a receive returns does not depend on what its buffer held. -/
theorem receiveLoop_ret (client : Option Client) (parms : DeviceReadParms)
    (length responseLength offset : Int) (message message' : Cells UInt8)
    (replies : List ReadReply) :
    (receiveLoop client parms length responseLength offset message replies).ret =
      (receiveLoop client parms length responseLength offset message' replies).ret := by
  induction replies generalizing responseLength offset message message' with
  | nil => rfl
  | cons reply replies ih =>
      simp only [receiveLoop]
      split_ifs
      · rfl
      · rfl
      · rfl
      · rfl
      · exact ih _ _ _ _
      · rfl

theorem idReply_ret (timeout : Int) (id id' : Cells UInt8) (o : DeviceId.ProbeOutcome) :
    (idReply timeout id o).ret = (idReply timeout id' o).ret :=
  receiveLoop_ret _ _ _ _ _ _ _ _

end Receive

variable {timeout : Int} {id : Cells UInt8} {o : ProbeOutcome}

theorem Replies.received_id {length : Int} (h : Replies timeout o length) (id : Cells UInt8) :
    (idReply timeout id o).ret = some length :=
  (idReply_ret timeout id _ o).trans h.received

def rpcEvents (timeout : Int) (id : Cells UInt8) (o : ProbeOutcome) : List Vxi11.Event :=
  (Vxi11.vxi11Connect o.data none timeout o.connect).2.2 ++
    ((Vxi11.vxi11Send (linkData timeout o) (cellsOf idReqScpi) idReqScpi.length timeout o.write).2 ++
      ((idReply timeout id o).events ++ (Vxi11.vxi11Disconnect (linkData timeout o)).2))

theorem rpc_rpc {α : Type} (events events' : List Vxi11.Event) (k : Probe α) :
    (rpc events >>= fun _ => rpc events' >>= fun _ => k) =
      rpc (events ++ events') >>= fun _ => k := by
  rw [rpc, rpc, rpc, emits_bind, emits_bind, emits_bind, List.map_append, List.append_assoc]

/-- A probe that gets a reply closes its link before it looks at the reply. -/
theorem getDeviceId_replies {length : Int} (h : Replies timeout o length) (hlength : 0 ≤ length)
    (id : Cells UInt8) :
    getDeviceId timeout id o = (do
      rpc (rpcEvents timeout id o)
      finishId timeout length (idReply timeout id o).message o) := by
  have hsent := Int.not_lt.mpr h.sent
  have hret := h.received_id id
  rw [sentLength, linkData] at hsent
  rw [idReply, linkData] at hret
  rw [getDeviceId]
  simp only
  rw [if_neg (Int.not_lt.mpr h.connected), if_neg hsent, receiveId]
  simp only [hret, need_some, pure_bind, if_neg (Int.not_lt.mpr hlength), rpc_rpc]
  rfl

def Unanswered (t : Probe (Int × Cells UInt8)) : Prop :=
  (∃ events : List Vxi11.Event, t.events = events.map .rpc) ∧
    (t.result = .error .waiting ∨ ∃ id, t.result = .ok (-1, id))

theorem Unanswered.rpc {t : Probe (Int × Cells UInt8)} (h : Unanswered t)
    (events : List Vxi11.Event) : Unanswered (rpc events >>= fun _ => t) := by
  obtain ⟨⟨events', hevents⟩, hresult⟩ := h
  refine ⟨⟨events ++ events', ?_⟩, hresult⟩
  rw [DeviceId.rpc, emits_bind, hevents, List.map_append]

theorem linkError_unanswered (data : Vxi11.Vxi11Data) (id : Cells UInt8) :
    Unanswered (linkError data id) := by
  have hpure : Unanswered (pure (-1, id)) := ⟨⟨[], rfl⟩, .inr ⟨id, rfl⟩⟩
  exact hpure.rpc _

theorem getDeviceId_unanswered (h : ∀ length, 0 ≤ length → ¬ Replies timeout o length)
    (id : Cells UInt8) : Unanswered (getDeviceId timeout id o) := by
  rw [getDeviceId]
  simp only
  apply Unanswered.rpc
  split_ifs with hconnected hsent
  · exact ⟨⟨[], rfl⟩, .inr ⟨id, rfl⟩⟩
  · exact (linkError_unanswered _ id).rpc _
  · apply Unanswered.rpc
    rw [receiveId]
    apply Unanswered.rpc
    cases hret : (idReply timeout id o).ret with
    | none =>
        rw [idReply, linkData] at hret
        rw [hret]
        exact ⟨⟨[], rfl⟩, .inl rfl⟩
    | some length =>
        have hfailed : length < 0 := by
          by_contra hlength
          refine h length (Int.not_lt.mp hlength) ⟨Int.not_lt.mp hconnected, Int.not_lt.mp hsent, ?_⟩
          exact (idReply_ret timeout _ id o).trans hret
        rw [idReply, linkData] at hret
        rw [hret, need_some, pure_bind, if_pos hfailed]
        exact linkError_unanswered _ _

section Fallback

variable {β : Type} {f : Event → Option β} (hrpc : ∀ e, f (.rpc e) = none)

include hrpc

theorem rpc_quiet (events : List Vxi11.Event) : Quiet f (rpc events) := by
  apply quiet_emits
  intro e he
  obtain ⟨e', -, rfl⟩ := List.mem_map.mp he
  exact hrpc e'

theorem Unanswered.quiet {t : Probe (Int × Cells UInt8)} (h : Unanswered t) : Quiet f t := by
  obtain ⟨⟨events, hevents⟩, -⟩ := h
  rw [Quiet, hevents]
  exact rpc_quiet hrpc events

theorem getDeviceId_plain (hstore : ∀ index bs, f (.storeId index bs) = none)
    (hread : ∀ index, f (.readId index) = none) (h : ¬ Replies timeout o 0) (id : Cells UInt8) :
    Quiet f (getDeviceId timeout id o) := by
  by_cases hnamed : ∃ length, 0 < length ∧ Replies timeout o length
  · obtain ⟨length, hlength, hreplies⟩ := hnamed
    rw [getDeviceId_replies hreplies hlength.le id]
    apply (rpc_quiet hrpc _).bind
    intro _
    exact ProbeEvents.finishId_quiet_of_pos hstore hread timeout hlength _ o
  · apply Unanswered.quiet hrpc
    apply getDeviceId_unanswered
    intro length hlength hreplies
    rcases hlength.lt_or_eq with hpos | rfl
    · exact hnamed ⟨length, hpos, hreplies⟩
    · exact h hreplies

end Fallback

theorem getDeviceId_fallback (h : Replies timeout o 0) (id : Cells UInt8) :
    getDeviceId timeout id o = (do
      rpc (rpcEvents timeout id o)
      let id ← storeId (idReply timeout id o).message 0 [0]
      httpFallback timeout id o) :=
  getDeviceId_replies h (le_refl 0) id

theorem strip_result (c : UInt8) (length : Int) (id : Cells UInt8) :
    ∃ found, (strip c length id).result = .ok found := by
  rw [strip, emit_bind]
  split_ifs
  · exact ⟨_, rfl⟩
  · exact ⟨_, rfl⟩

theorem finishId_named (timeout : Int) {length : Int} (hlength : 0 < length) (id : Cells UInt8)
    (o : ProbeOutcome) :
    ∃ id', (finishId timeout length id o).result = .ok (0, id') := by
  obtain ⟨found, hfound⟩ := strip_result newline length (store id length [0])
  obtain ⟨found', hfound'⟩ := strip_result carriageReturn found.1 found.2
  refine ⟨found'.2, ?_⟩
  rw [finishId]
  refine result_bind_ok.mpr ⟨_, rfl, ?_⟩
  rw [if_pos hlength]
  exact result_bind_ok.mpr ⟨found, hfound, result_bind_ok.mpr ⟨found', hfound', rfl⟩⟩

section Fate

theorem strcat_fate (value : Option (List UInt8)) (id id' : Nat × Cells UInt8) :
    fate (strcat value id) = fate (strcat value id') := by
  cases value <;> rfl

theorem element_fate {α : Type} {doc : XmlDoc} {element : String} {k : Nat × Cells UInt8 → Probe α}
    (hk : ∀ id id', fate (k id) = fate (k id')) (id id' : Nat × Cells UInt8) :
    fate (getElementValue doc element >>= fun value => strcat value id >>= k) =
      fate (getElementValue doc element >>= fun value => strcat value id' >>= k) := by
  apply fate_bind_congr_result rfl
  intro value
  exact fate_bind_congr (strcat_fate value id id') hk

theorem comma_fate {α : Type} {k : Nat × Cells UInt8 → Probe α}
    (hk : ∀ id id', fate (k id) = fate (k id')) (id id' : Nat × Cells UInt8) :
    fate (strcat (bytes ",") id >>= k) = fate (strcat (bytes ",") id' >>= k) :=
  fate_bind_congr (strcat_fate _ id id') hk

theorem assembleId_fate (doc : XmlDoc) (id id' : Cells UInt8) :
    fate (assembleId doc id) = fate (assembleId doc id') := by
  have hlast (id id' : Nat × Cells UInt8) :
      fate (pure id.2 : Probe (Cells UInt8)) = fate (pure id'.2 : Probe (Cells UInt8)) := rfl
  rw [assembleId, assembleId]
  refine fate_bind_congr rfl fun id id' => ?_
  refine element_fate (comma_fate ?_) _ _
  refine element_fate (comma_fate ?_)
  refine element_fate (comma_fate ?_)
  exact element_fate hlast

theorem httpFallback_fate (id id' : Cells UInt8) :
    fate (httpFallback timeout id o) = fate (httpFallback timeout id' o) := by
  rw [httpFallback, httpFallback]
  refine fate_bind_congr_result rfl fun _ => fate_bind_congr_result rfl fun response => ?_
  refine fate_bind_congr_result rfl fun xml => ?_
  cases xml with
  | none => rfl
  | some xml =>
      refine fate_bind_congr_result rfl fun _ => ?_
      cases o.doc with
      | none => rfl
      | some doc => exact fate_bind_congr (assembleId_fate doc id id') fun _ _ => rfl

theorem finishId_fate (length : Int) (id id' : Cells UInt8) :
    fate (finishId timeout length id o) = fate (finishId timeout length id' o) := by
  by_cases hlength : 0 < length
  · obtain ⟨found, hfound⟩ := finishId_named timeout hlength id o
    obtain ⟨found', hfound'⟩ := finishId_named timeout hlength id' o
    rw [fate_of_ok hfound, fate_of_ok hfound']
  · rw [finishId, finishId]
    refine fate_bind_congr rfl fun id id' => ?_
    rw [if_neg hlength, if_neg hlength]
    exact httpFallback_fate id id'

theorem getDeviceId_fate (timeout : Int) (id id' : Cells UInt8) (o : ProbeOutcome) :
    fate (getDeviceId timeout id o) = fate (getDeviceId timeout id' o) := by
  rw [getDeviceId, getDeviceId]
  simp only
  refine fate_bind_congr_result rfl fun _ => ?_
  split_ifs
  · rfl
  · exact fate_bind_congr_result rfl fun _ => rfl
  · refine fate_bind_congr_result rfl fun _ => ?_
    rw [receiveId, receiveId]
    refine fate_bind_congr_result rfl fun _ => fate_bind_congr_result ?_ fun length => ?_
    · exact congrArg (fun ret => (need Stop.waiting ret : Probe Int).result)
        (idReply_ret timeout id id' o)
    · split_ifs
      · rfl
      · exact fate_bind_congr_result rfl fun _ => finishId_fate length _ _

end Fate

section Http

variable (timeout : Int) (o : ProbeOutcome)

def httpData : Tcp.TcpData := (Tcp.tcpConnect portHttp timeout o.tcpConnect).2.1

def httpSent : Tcp.Sent :=
  Tcp.tcpSend (httpData timeout o) (cellsOf idReqHttp) idReqHttp.length timeout o.tcpSend

def httpReceived : Tcp.Received :=
  Tcp.tcpReceiveWait (httpData timeout o) o.response responseSize timeout o.pending o.tcpReceive

def httpEvents : List Tcp.Event :=
  (Tcp.tcpConnect portHttp timeout o.tcpConnect).2.2 ++ ((httpSent timeout o).events ++
    ((httpReceived timeout o).events ++ (Tcp.tcpDisconnect (httpData timeout o)).2))

structure Transfers : Prop where
  sent : ∃ ret, (httpSent timeout o).ret = some ret
  received : ∃ ret, (httpReceived timeout o).ret = some ret

variable {timeout o}

theorem fetchXml_eq (timeout : Int) (o : ProbeOutcome) : fetchXml timeout o = (do
    tcp (Tcp.tcpConnect portHttp timeout o.tcpConnect).2.2
    tcp (httpSent timeout o).events
    let _ ← need .waiting (httpSent timeout o).ret
    tcp (httpReceived timeout o).events
    let _ ← need .waiting (httpReceived timeout o).ret
    tcp (Tcp.tcpDisconnect (httpData timeout o)).2
    return (httpReceived timeout o).message) := rfl

theorem fetchXml_transfers (h : Transfers timeout o) :
    fetchXml timeout o =
      ⟨(httpEvents timeout o).map .tcp, .ok (httpReceived timeout o).message⟩ := by
  obtain ⟨sent, hsent⟩ := h.sent
  obtain ⟨received, hreceived⟩ := h.received
  rw [fetchXml_eq]
  simp only [hsent, hreceived, need_some, pure_bind]
  rw [tcp, tcp, tcp, tcp, emits_bind, emits_bind, emits_bind, emits_bind]
  simp only [httpEvents, List.map_append, events_pure, List.append_nil]
  rfl

end Http

def instrument (reply : Vxi11.Opaque) : ProbeOutcome where
  data := default
  connect := ⟨0, ⟨0, 0⟩, 0, 0, 0, ⟨some 1, .success, default⟩⟩
  write := ⟨.success, ⟨0, 6⟩⟩
  replies := [⟨.success, ⟨0, Vxi11.receiveEndBit, reply⟩⟩]
  tcpConnect := default
  tcpSend := default
  tcpReceive := default
  pending := []
  response := fun _ => 0
  mapped := 0
  doc := none

/-- The reply of an instrument that serves its identification over HTTP. -/
def emptyReply : Vxi11.Opaque := ⟨[], Vxi11.empty_isUInt⟩

/-- A host with an empty ID string that drops what comes to port 80: connect()
stays pending until select times out, and all calls behind the close fail. -/
def dropping : ProbeOutcome :=
  { instrument emptyReply with
    tcpConnect := { (default : Tcp.ConnectOutcome) with
      socket := 4, connect := -1, connectErrno := .inProgress, select := 0 }
    tcpSend := ⟨-1, .other 9, []⟩
    tcpReceive := ⟨-1, []⟩
    mapped := 1 }

end LibLxi.ProbeExits

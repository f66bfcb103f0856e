import LibLxi.DiscoveryProbes
import LibLxi.ProbeExits
import LibLxi.RawSockets

namespace LibLxi.ProbeSockets

open DeviceId (Probe ProbeOutcome fetchXml getDeviceId httpFallback portHttp)
open Discover hiding Event Stop receiveLoop
open DiscoverCalls DiscoveryProbes Memory ProbeEvents ProbeExits Tcp Tracing

def tcpEvent : DeviceId.Event → Option Event
  | .tcp e => some e
  | _ => none

def operand : Event → Option Int
  | .fdSet fd | .send fd _ _ | .recv fd _ _ _ | .close fd => some fd
  | _ => none

def closes : Event → Bool
  | .close _ => true
  | _ => false

/-- Every call works on the socket that is the probe's own, until it is closed. -/
def UsesOwn : Option Int → List Event → Prop
  | _, [] => True
  | own, e :: es =>
      (∀ fd, operand e = some fd → own = some fd) ∧ UsesOwn (if closes e then none else own) es

def connected (timeout : Int) (o : ProbeOutcome) : Option Int :=
  if (tcpConnect portHttp timeout o.tcpConnect).1 = 0 then some o.tcpConnect.socket else none

def connecting (timeout : Int) (o : ProbeOutcome) : List Event :=
  (tcpConnect portHttp timeout o.tcpConnect).2.2

/-- Behind its tcp_connect a probe works on the socket that this returned, and
closes it once unless it waits for ever. -/
structure Disciplined (timeout : Int) (o : ProbeOutcome) (t : Probe (Int × Cells UInt8)) : Prop where
  begins : t.events.filterMap tcpEvent = [] ∨
    connecting timeout o <+: t.events.filterMap tcpEvent
  own : ∀ behind, t.events.filterMap tcpEvent = connecting timeout o ++ behind →
    UsesOwn (connected timeout o) behind
  closed : t.result ≠ .error .waiting →
    ∀ behind fd, t.events.filterMap tcpEvent = connecting timeout o ++ behind →
      connected timeout o = some fd → behind.count (.close fd) = 1

def On (fd : Int) (e : Event) : Prop := (∀ fd', operand e = some fd' → fd' = fd) ∧ closes e = false

section Transfer

variable {fd n length counted : Int} {message : Cells UInt8} {results : List Transfer}

theorem sendLoop_on :
    ∀ e ∈ (sendLoop fd message n length counted results).events, On fd e := by
  induction results generalizing n length counted with
  | nil => simp [sendLoop]
  | cons result results ih =>
      cases result with
      | error errno => simp [sendLoop, On, operand, closes]
      | count k =>
          simp only [sendLoop, List.forall_mem_cons]
          refine ⟨by simp [On, operand, closes], ?_⟩
          split
          · exact ih
          · simp

theorem receiveLoop_on {dontWait : Bool} {pending : List UInt8} :
    ∀ e ∈ (receiveLoop fd dontWait n length counted message pending results).events, On fd e := by
  induction results generalizing n length counted message pending with
  | nil => simp [receiveLoop]
  | cons result results ih =>
      cases result with
      | error errno => simp [receiveLoop, On, operand, closes]
      | count k =>
          simp only [receiveLoop, List.forall_mem_cons]
          refine ⟨by simp [On, operand, closes], ?_⟩
          split
          · exact ih
          · simp

end Transfer

variable {timeout : Int} {o : ProbeOutcome}

theorem httpData_socket : (httpData timeout o).serverSocket = o.tcpConnect.socket := by
  rw [httpData, RawSockets.tcpConnect_data]

theorem httpSent_on (timeout : Int) (o : ProbeOutcome) :
    ∃ rest, (httpSent timeout o).events = .fdSet o.tcpConnect.socket :: rest ∧
      ∀ e ∈ rest, On o.tcpConnect.socket e := by
  rw [httpSent, tcpSend, httpData_socket]
  split_ifs
  · exact ⟨_, rfl, by simp [On, operand, closes]⟩
  · refine ⟨_, rfl, List.forall_mem_cons.mpr ⟨by simp [On, operand, closes], sendLoop_on⟩⟩
  · exact ⟨_, rfl, by simp [On, operand, closes]⟩

theorem httpReceived_on (timeout : Int) (o : ProbeOutcome) :
    ∀ e ∈ (httpReceived timeout o).events, On o.tcpConnect.socket e := by
  rw [httpReceived, tcpReceiveWait, tcpReceive_, httpData_socket]
  split_ifs
  · simp [On, operand, closes]
  · simp only [List.cons_append, List.nil_append, List.forall_mem_cons]
    exact ⟨by simp [On, operand, closes], by simp [On, operand, closes], receiveLoop_on⟩
  · simp [On, operand, closes]

theorem tcp_seen {α : Type} {events : List Event} {k : Unit → Probe α} :
    (DeviceId.tcp events >>= k).events.filterMap tcpEvent =
      events ++ (k ()).events.filterMap tcpEvent := by
  rw [tcp_bind_seen]
  exact congrArg (· ++ _) List.filterMap_some

theorem fetchXml_behind (timeout : Int) (o : ProbeOutcome) :
    ∃ body tail, (fetchXml timeout o).events.filterMap tcpEvent =
        connecting timeout o ++ (.fdSet o.tcpConnect.socket :: (body ++ tail)) ∧
      (∀ e ∈ body, On o.tcpConnect.socket e) ∧
      ((fetchXml timeout o).result = .error .waiting ∧ tail = [] ∨
        tail = [.close o.tcpConnect.socket]) := by
  obtain ⟨rest, hsent, hrest⟩ := httpSent_on timeout o
  have hreceived := httpReceived_on timeout o
  rw [fetchXml_eq, tcp_seen, tcp_seen, hsent]
  cases hret : (httpSent timeout o).ret with
  | none =>
      refine ⟨rest, [], ?_, hrest, .inl ⟨?_, rfl⟩⟩
      · rw [need_none_bind]
        rfl
      · rfl
  | some sent =>
      refine ⟨rest ++ (httpReceived timeout o).events, ?_⟩
      have hbody := List.forall_mem_append.mpr ⟨hrest, hreceived⟩
      rw [need_some, pure_bind, tcp_seen]
      cases hret' : (httpReceived timeout o).ret with
      | none =>
          refine ⟨[], ?_, hbody, .inl ⟨?_, rfl⟩⟩
          · simp [need_none_bind, stop, connecting]
          · rfl
      | some received =>
          refine ⟨[.close o.tcpConnect.socket], ?_, hbody, .inr rfl⟩
          rw [need_some, pure_bind, tcp_seen, tcpDisconnect, httpData_socket]
          simp [connecting]

theorem usesOwn_append {own : Option Int} {fd : Int} (hown : own = some fd) {es rest : List Event}
    (h : ∀ e ∈ es, On fd e) : UsesOwn own (es ++ rest) ↔ UsesOwn own rest := by
  induction es with
  | nil => rfl
  | cons e es ih =>
      obtain ⟨⟨hoperand, hcloses⟩, hes⟩ := List.forall_mem_cons.mp h
      rw [List.cons_append, UsesOwn, hcloses, if_neg Bool.false_ne_true, ih hes]
      refine and_iff_right fun fd' hfd' => ?_
      rw [hoperand fd' hfd', hown]

theorem On.not_close {fd : Int} {es : List Event} (h : ∀ e ∈ es, On fd e) (fd' : Int) :
    es.count (.close fd') = 0 := by
  rw [List.count_eq_zero]
  intro hmem
  exact Bool.false_ne_true (h _ hmem).2.symm

theorem getDeviceId_seen_fallback (h : Replies timeout o 0) (id : Cells UInt8) :
    (getDeviceId timeout id o).events.filterMap tcpEvent =
      (fetchXml timeout o).events.filterMap tcpEvent := by
  have hblind : Blind tcpEvent :=
    ⟨fun _ => rfl, fun _ _ => rfl, fun _ => rfl, fun _ => rfl, fun _ => rfl⟩
  rw [getDeviceId_fallback h id, rpc_bind_seen, storeId_bind_seen hblind, httpFallback_seen hblind]
  simp [tcpEvent]

theorem fetchXml_waits (h : Replies timeout o 0) (id : Cells UInt8)
    (hwaiting : (fetchXml timeout o).result = .error .waiting) :
    (getDeviceId timeout id o).result = .error .waiting := by
  have hfallback (id : Cells UInt8) : (httpFallback timeout id o).result = .error .waiting := by
    rw [httpFallback, emit_bind, bind_error hwaiting]
  rw [getDeviceId_fallback h id]
  exact hfallback _

theorem connecting_ne_nil : connecting timeout o ≠ [] := by
  rw [connecting]
  have hexit := tcpConnect_exit portHttp timeout o.tcpConnect
  generalize tcpConnect portHttp timeout o.tcpConnect = x at hexit ⊢
  cases hexit <;> exact List.cons_ne_nil _ _

theorem getDeviceId_behind (h : Replies timeout o 0) (id : Cells UInt8) :
    ∃ body tail, (getDeviceId timeout id o).events.filterMap tcpEvent =
        connecting timeout o ++ (.fdSet o.tcpConnect.socket :: (body ++ tail)) ∧
      (∀ e ∈ body, On o.tcpConnect.socket e) ∧
      ((getDeviceId timeout id o).result = .error .waiting ∧ tail = [] ∨
        tail = [.close o.tcpConnect.socket]) := by
  obtain ⟨body, tail, hevents, hbody, htail⟩ := fetchXml_behind timeout o
  rw [← getDeviceId_seen_fallback h id] at hevents
  exact ⟨body, tail, hevents, hbody, htail.imp_left (And.imp_left (fetchXml_waits h id))⟩

theorem fallback_disciplined (h : Replies timeout o 0) (id : Cells UInt8)
    (hconnected : connected timeout o = some o.tcpConnect.socket) :
    Disciplined timeout o (getDeviceId timeout id o) := by
  obtain ⟨body, tail, hevents, hbody, htail⟩ := getDeviceId_behind h id
  have hfirst : On o.tcpConnect.socket (.fdSet o.tcpConnect.socket) := by
    simp [On, operand, closes]
  have hon := List.forall_mem_cons.mpr ⟨hfirst, hbody⟩
  rw [← List.cons_append] at hevents
  refine ⟨.inr ⟨_, hevents.symm⟩, ?_, ?_⟩
  · intro behind hbehind
    rw [List.append_cancel_left (hbehind.symm.trans hevents), usesOwn_append hconnected hon]
    rcases htail with ⟨-, rfl⟩ | rfl
    · exact trivial
    · refine ⟨?_, trivial⟩
      rintro fd ⟨⟩
      exact hconnected
  · intro hreturned behind fd hbehind hfd
    cases hconnected.symm.trans hfd
    rw [List.append_cancel_left (hbehind.symm.trans hevents), List.count_append,
      On.not_close hon]
    rcases htail with ⟨hwaiting, -⟩ | rfl
    · exact absurd hwaiting hreturned
    · simp

theorem fallback_undisciplined (h : Replies timeout o 0) (id : Cells UInt8)
    (hfailed : connected timeout o = none) :
    ¬ Disciplined timeout o (getDeviceId timeout id o) := by
  intro hdisciplined
  obtain ⟨body, tail, hevents, -, -⟩ := getDeviceId_behind h id
  have hfirst := (hdisciplined.own _ hevents).1 _ rfl
  rw [hfailed] at hfirst
  cases hfirst

theorem plain_disciplined (h : ¬ Replies timeout o 0) (id : Cells UInt8) :
    Disciplined timeout o (getDeviceId timeout id o) := by
  have hnone := getDeviceId_plain (f := tcpEvent) (fun _ => rfl) (fun _ _ => rfl) (fun _ => rfl)
    h id
  rw [Quiet] at hnone
  have hnever (behind : List Event) :
      (getDeviceId timeout id o).events.filterMap tcpEvent ≠ connecting timeout o ++ behind := by
    rw [hnone]
    exact fun h => connecting_ne_nil (List.append_eq_nil_iff.mp h.symm).1
  refine ⟨.inl hnone, ?_, ?_⟩
  · intro behind hbehind
    exact absurd hbehind (hnever behind)
  · intro _ behind _ hbehind
    exact absurd hbehind (hnever behind)

/-- A probe works on the socket that is its own if and only if it does not come
to the fallback, or its tcp_connect succeeds. -/
theorem probe_disciplined_iff (timeout : Int) (id : Cells UInt8) (o : ProbeOutcome) :
    Disciplined timeout o (getDeviceId timeout id o) ↔
      (Replies timeout o 0 → (tcpConnect portHttp timeout o.tcpConnect).1 = 0) := by
  by_cases hreplies : Replies timeout o 0
  · rw [forall_prop_of_true hreplies]
    by_cases hconnected : (tcpConnect portHttp timeout o.tcpConnect).1 = 0
    · exact iff_of_true (fallback_disciplined hreplies id (if_pos hconnected)) hconnected
    · exact iff_of_false (fallback_undisciplined hreplies id (if_neg hconnected)) hconnected
  · exact iff_of_true (plain_disciplined hreplies id) fun h => absurd h hreplies

structure SocketsDisciplined (backend : Option MdnsBackend) (o : DiscoverOutcome) (c : Call) :
    Prop where
  probes : (perform backend o c).events.filterMap probeEvent = seen (probes c o)
  disciplined : ∀ p ∈ DiscoveryProbes.probes c o, Disciplined p.timeout p.outcome p.trace

/-- In a discovery with any number of probes, all keep to their own sockets if and
only if the tcp_connect succeeds in each one that comes to the fallback. -/
theorem discovery_disciplined_iff (backend : Option MdnsBackend) (o : DiscoverOutcome) (c : Call) :
    SocketsDisciplined backend o c ↔
      ∀ p ∈ probes c o, Replies p.timeout p.outcome 0 →
        (tcpConnect portHttp p.timeout p.outcome.tcpConnect).1 = 0 := by
  have hprobe (p : ProbeCall) : Disciplined p.timeout p.outcome p.trace ↔
      (Replies p.timeout p.outcome 0 →
        (tcpConnect portHttp p.timeout p.outcome.tcpConnect).1 = 0) :=
    probe_disciplined_iff p.timeout p.id p.outcome
  simp only [← hprobe]
  constructor
  · intro h
    exact h.disciplined
  · intro h
    exact ⟨discovery_probes backend o c, h⟩

/-- tcp_connect has closed the socket when the probe selects on it and closes it
again. -/
theorem timedOut_socket_closed_twice :
    ((getDeviceId 1000 (fun _ => 0) dropping).events.filterMap tcpEvent).count (.close 4) = 2 ∧
      ¬ SocketsDisciplined none (answering [dropping]) (.discover ⟨true, true, true⟩ 1000 .vxi11) := by
  refine ⟨by decide, fun h => ?_⟩
  have hprobes : probes (.discover ⟨true, true, true⟩ 1000 .vxi11) (answering [dropping]) =
      [⟨1000, fun _ => 0, dropping⟩] := rfl
  have hdisciplined := h.disciplined ⟨1000, fun _ => 0, dropping⟩ (by simp [hprobes])
  have hreplies : Replies 1000 dropping 0 := ⟨by decide, by decide, rfl⟩
  have hconnected := (probe_disciplined_iff _ _ _).mp hdisciplined hreplies
  revert hconnected
  decide

end LibLxi.ProbeSockets

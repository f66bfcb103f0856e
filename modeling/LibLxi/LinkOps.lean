import LibLxi.LinkLife
import LibLxi.ProbeEvents
import LibLxi.ReadLoop

namespace LibLxi.LinkOps

open DeviceId (ProbeOutcome fetchXml finishId getDeviceId linkError receiveId)
open LinkLife Memory ProbeEvents ReadLoop Tracing Vxi11

def answerOf (o : LinkOutcome) : Option Int32 :=
  if o.status = .success then some o.linkResp.lid else none

def linkOp (answer : Option Int32) : Event → Option (Option Client × Op Int32)
  | .clntCreate client => client.map fun client => (some client, .create)
  | .createLink client _ => some (client, .createLink answer)
  | .destroyLink client lid => some (client, .destroyLink lid)
  | .deviceWrite client parms => some (client, .write parms.lid)
  | .deviceRead client parms _ _ => some (client, .read parms.lid)
  | .clntDestroy client => some (client, .destroy)
  | .timedjoin _ | .add .. | .error _ => none

def probeOp (answer : Option Int32) : DeviceId.Event → Option (Option Client × Op Int32)
  | .rpc e => linkOp answer e
  | _ => none

def probeOps (timeout : Int) (id : Cells UInt8) (o : ProbeOutcome) :
    List (Option Client × Op Int32) :=
  (getDeviceId timeout id o).events.filterMap (probeOp (answerOf o.connect.link))

variable {answer : Option Int32}

inductive Linked (o : LinkOutcome) : Int × Vxi11Data × List (Option Client × Op Int32) → Prop
  | unmade (data : Vxi11Data) : Linked o (-1, data, [])
  | refused (client : Client) (data : Vxi11Data) :
      Linked o (-1, data, on (some client) [.create, .createLink none, .destroy])
  | linked (client : Client) :
      Linked o (0, ⟨some client, o.linkResp⟩,
        on (some client) [.create, .createLink (some o.linkResp.lid)])

theorem _vxi11Connect_linked (data : Vxi11Data) (name : Option String) (o : LinkOutcome) :
    Linked o ((_vxi11Connect data name o).1, (_vxi11Connect data name o).2.1,
      (_vxi11Connect data name o).2.2.filterMap (linkOp (answerOf o))) := by
  rw [_vxi11Connect]
  cases o.clntCreate with
  | none => exact .unmade _
  | some client =>
      by_cases hstatus : o.status = .success
      · simp only [hstatus, answerOf, ne_eq, not_true_eq_false, if_false, if_true]
        exact .linked client
      · simp only [hstatus, answerOf, ne_eq, not_false_eq_true, if_false, if_true]
        exact .refused client _

theorem vxi11Connect_linked (data : Vxi11Data) (name : Option String) (timeout : Int)
    {o : ConnectOutcome} (hjoin : o.timedjoin = 0) :
    Linked o.link ((vxi11Connect data name timeout o).1, (vxi11Connect data name timeout o).2.1,
      (vxi11Connect data name timeout o).2.2.filterMap (linkOp (answerOf o.link))) := by
  by_cases hclock : o.clockGettime = 0
  · by_cases hcreate : o.pthreadCreate = 0
    · rw [vxi11Connect_joined hclock hcreate hjoin]
      exact _vxi11Connect_linked data name o.link
    · rw [vxi11Connect_uncreated hclock hcreate]
      exact .unmade data
  · rw [vxi11Connect_unclocked hclock]
    exact .unmade data

theorem vxi11Send_ops (data : Vxi11Data) (message : Cells UInt8) (length : Nat) (timeout : Int)
    (reply : WriteReply) :
    (vxi11Send data message length timeout reply).2.filterMap (linkOp answer) =
      on data.rpcClient [.write data.linkResp.lid] := by
  rw [vxi11Send]
  split <;> rfl

theorem vxi11Disconnect_ops (data : Vxi11Data) :
    (vxi11Disconnect data).2.filterMap (linkOp answer) =
      on data.rpcClient [.destroyLink data.linkResp.lid, .destroy] := rfl

theorem reads_ops {client : Option Client} {parms : DeviceReadParms} {events : List Event}
    (h : ∀ e ∈ events, Reads client parms e) :
    ∃ ops, events.filterMap (linkOp answer) = on client ops ∧ Transfers parms.lid ops := by
  induction events with
  | nil => exact ⟨[], rfl, List.forall_mem_nil _⟩
  | cons e es ih =>
      obtain ⟨he, hes⟩ := List.forall_mem_cons.mp h
      obtain ⟨ops, hevents, hops⟩ := ih hes
      cases he with
      | request =>
          refine ⟨.read parms.lid :: ops, ?_, List.forall_mem_cons.mpr ⟨.inr rfl, hops⟩⟩
          rw [List.filterMap_cons, hevents]
          rfl
      | count | error => exact ⟨ops, hevents, hops⟩

theorem vxi11Receive_ops (answer : Option Int32) (data : Vxi11Data) (message : Cells UInt8)
    (length : Nat) (timeout : Int) (replies : List ReadReply) :
    ∃ ops, (vxi11Receive data message length timeout replies).events.filterMap (linkOp answer) =
        on data.rpcClient ops ∧ Transfers data.linkResp.lid ops := by
  rw [vxi11Receive]
  exact reads_ops receiveLoop_reads

section Probe

variable {timeout : Int} {id : Cells UInt8} {o : ProbeOutcome} {data : Vxi11Data}

theorem probeOp_blind (answer : Option Int32) : Blind (probeOp answer) where
  readId _ := rfl
  storeId _ _ := rfl
  freopen _ := rfl
  scan _ := rfl
  recover _ := rfl

theorem tcp_quiet (events : List Tcp.Event) : Quiet (probeOp answer) (DeviceId.tcp events) := by
  apply quiet_emits
  intro e he
  obtain ⟨e', -, rfl⟩ := List.mem_map.mp he
  rfl

theorem fetchXml_quiet (timeout : Int) (o : ProbeOutcome) :
    Quiet (probeOp answer) (fetchXml timeout o) := by
  apply (tcp_quiet _).bind
  intro _
  apply (tcp_quiet _).bind
  intro _
  apply (quiet_need _ _).bind
  intro _
  apply (tcp_quiet _).bind
  intro _
  apply (quiet_need _ _).bind
  intro _
  exact (tcp_quiet _).bind fun _ => quiet_pure _

theorem finishId_quiet (timeout length : Int) (id : Cells UInt8) (o : ProbeOutcome) :
    Quiet (probeOp answer) (finishId timeout length id o) := by
  rw [Quiet, finishId_seen (probeOp_blind answer)]
  split
  · rfl
  · exact fetchXml_quiet timeout o

theorem linkError_ops (data : Vxi11Data) (id : Cells UInt8) :
    (linkError data id).events.filterMap (probeOp answer) =
      on data.rpcClient [.destroyLink data.linkResp.lid, .destroy] := by
  rw [linkError, rpc_bind_seen]
  exact (List.append_nil _).trans (vxi11Disconnect_ops data)

theorem on_append (c : Option Client) (ops ops' : List (Op Int32)) :
    on c (ops ++ ops') = on c ops ++ on c ops' := List.map_append

/-- A receive of a probe that does not wait for ever gives its link back. -/
theorem receiveId_ops (h : (receiveId timeout data id o).result ≠ .error .waiting) :
    ∃ ops, (receiveId timeout data id o).events.filterMap (probeOp answer) =
        on data.rpcClient (ops ++ [.destroyLink data.linkResp.lid, .destroy]) ∧
      Transfers data.linkResp.lid ops := by
  obtain ⟨ops, hevents, hops⟩ :=
    vxi11Receive_ops answer data id DeviceId.idLengthMax timeout o.replies
  refine ⟨ops, ?_, hops⟩
  rw [receiveId] at h ⊢
  rw [on_append, rpc_bind_seen]
  refine congrArg₂ _ hevents ?_
  cases hret : (vxi11Receive data id DeviceId.idLengthMax timeout o.replies).ret with
  | none =>
      rw [hret] at h
      exact absurd rfl h
  | some length =>
      rw [need_some, pure_bind]
      split
      · exact linkError_ops _ _
      · rw [rpc_bind_seen, finishId_quiet]
        exact List.append_nil _

theorem life_of_transfers (client : Option Client) {lid : Int32} {ops : List (Op Int32)}
    (hops : Transfers lid ops) :
    ∃ life, Life life ∧
      on client [.create, .createLink (some lid)] ++ (on client [.write lid] ++
        on client (ops ++ [.destroyLink lid, .destroy])) = on client life := by
  have htransfers : Transfers lid (.write lid :: ops) :=
    List.forall_mem_cons.mpr ⟨.inl rfl, hops⟩
  refine ⟨_, .linked lid _ htransfers, ?_⟩
  simp only [← on_append, List.cons_append, List.nil_append]

theorem probeOps_life (hjoin : o.connect.timedjoin = 0)
    (h : (getDeviceId timeout id o).result ≠ .error .waiting) :
    probeOps timeout id o = [] ∨
      ∃ client life, Life life ∧ probeOps timeout id o = on (some client) life := by
  have hlinked := vxi11Connect_linked o.data none timeout hjoin
  rw [probeOps]
  rw [getDeviceId] at h ⊢
  generalize vxi11Connect o.data none timeout o.connect = connected at hlinked h ⊢
  obtain ⟨device, data, events⟩ := connected
  simp only [rpc_bind_seen] at hlinked h ⊢
  change Linked _ (_, _, events.filterMap fun e => probeOp _ (.rpc e)) at hlinked
  generalize events.filterMap (fun e => probeOp (answerOf o.connect.link) (.rpc e)) = ops
    at hlinked ⊢
  cases hlinked with
  | unmade => exact .inl rfl
  | refused client => exact .inr ⟨client, _, .refused, List.append_nil _⟩
  | linked client =>
      refine .inr ⟨client, ?_⟩
      simp only [lt_irrefl, if_false, rpc_bind_seen] at h ⊢
      rw [show (fun e => probeOp (answerOf o.connect.link) (.rpc e)) =
        linkOp (answerOf o.connect.link) from rfl, vxi11Send_ops]
      split
      · have hnone : Transfers o.connect.link.linkResp.lid [] := List.forall_mem_nil _
        rw [linkError_ops]
        exact life_of_transfers (some client) hnone
      · rename_i hlength
        rw [if_neg hlength] at h
        obtain ⟨ops, hevents, hops⟩ := receiveId_ops h
        rw [hevents]
        exact life_of_transfers (some client) hops

end Probe

end LibLxi.LinkOps

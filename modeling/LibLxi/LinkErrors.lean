import LibLxi.Backends
import LibLxi.ClientInvariant
import LibLxi.ReadLoop

namespace LibLxi.LinkErrors

open Application Backends ClientInvariant Lxi Machine Memory Platform ReadLoop
open SessionInvariant Vxi11

structure CallsSucceed (o : Vxi11.ConnectOutcome) : Prop where
  clockGettime : o.clockGettime = 0
  pthreadCreate : o.pthreadCreate = 0
  timedjoin : o.timedjoin = 0
  clntCreate : o.link.clntCreate ≠ none
  status : o.link.status = .success

/-- vxi11_connect succeeds without a look at the error of the reply. -/
theorem vxi11Connect_eq_zero {data : Vxi11Data} {name : Option String} {timeout : Int}
    {o : Vxi11.ConnectOutcome} : (vxi11Connect data name timeout o).1 = 0 ↔ CallsSucceed o := by
  have hlink : (_vxi11Connect data name o.link).1 = 0 ↔
      o.link.clntCreate ≠ none ∧ o.link.status = .success := by
    rw [_vxi11Connect]
    cases o.link.clntCreate with
    | none => simp
    | some client =>
        by_cases hstatus : o.link.status = .success <;> simp [hstatus]
  have hfailed : ¬ (-1 : Int) = 0 := by decide
  by_cases hclock : o.clockGettime = 0
  · by_cases hcreate : o.pthreadCreate = 0
    · by_cases hjoin : o.timedjoin = 0
      · rw [vxi11Connect_joined hclock hcreate hjoin]
        exact hlink.trans
          ⟨fun h => ⟨hclock, hcreate, hjoin, h.1, h.2⟩, fun h => ⟨h.clntCreate, h.status⟩⟩
      · rw [vxi11Connect_timedOut hclock hcreate hjoin]
        exact iff_of_false hfailed fun h => hjoin h.timedjoin
    · rw [vxi11Connect_uncreated hclock hcreate]
      exact iff_of_false hfailed fun h => hcreate h.pthreadCreate
  · rw [vxi11Connect_unclocked hclock]
    exact iff_of_false hfailed fun h => hclock h.clockGettime

theorem vxi11Send_of_failure {data : Vxi11Data} {message : Cells UInt8} {length : Nat}
    {timeout : Int} {reply : WriteReply} (h : reply.status ≠ .success) :
    (vxi11Send data message length timeout reply).1 = -1 := by
  simp [vxi11Send, h]

theorem vxi11Send_of_success {data : Vxi11Data} {message : Cells UInt8} {length : Nat}
    {timeout : Int} {reply : WriteReply} (h : reply.status = .success) :
    (vxi11Send data message length timeout reply).1 = toInt reply.resp.size.toNat := by
  simp [vxi11Send, h]

theorem receiveLoop_turn {client : Option Client} {parms : DeviceReadParms}
    {length responseLength offset : Int} {message : Cells UInt8} {reply : ReadReply}
    {replies : List ReadReply} {received : Received} {r : Int}
    (h : receiveLoop client parms length responseLength offset message (reply :: replies) = received)
    (hret : received.ret = some r) (hr : 0 ≤ r) :
    Answered reply ∧ ((placed received.events).length = 1 ∨
      ∃ responseLength' offset' message',
        let next := receiveLoop client parms length responseLength' offset' message' replies
        next.ret = some r ∧ (placed received.events).length = (placed next.events).length + 1) := by
  subst h
  by_cases hstatus : reply.status = .success
  · by_cases herror : reply.resp.error = 0
    · refine ⟨⟨hstatus, herror⟩, ?_⟩
      rw [receiveLoop] at hret ⊢
      simp only [hstatus, herror, ne_eq, not_true_eq_false, if_false] at hret ⊢
      split at hret
      · simp at hret
        omega
      · rename_i hsmall
        simp only [hsmall, if_false, placed_turn, List.length_cons] at hret ⊢
        split at hret
        · exact .inl (by simp [*, placed])
        · split at hret
          · exact .inr ⟨_, _, _, hret, by simp [*]⟩
          · exact .inl (by simp [*, placed])
    · simp [receiveLoop, hstatus, herror] at hret
      omega
  · simp [receiveLoop, hstatus] at hret
    omega

theorem receiveLoop_answered {client : Option Client} {parms : DeviceReadParms}
    {length responseLength offset : Int} {message : Cells UInt8} {replies : List ReadReply}
    {received : Received} {r : Int}
    (h : receiveLoop client parms length responseLength offset message replies = received)
    (hret : received.ret = some r) (hr : 0 ≤ r) :
    ∀ reply ∈ replies.take (placed received.events).length, Answered reply := by
  induction replies generalizing responseLength offset message received with
  | nil => simp
  | cons reply replies ih =>
      obtain ⟨hans, hlast | ⟨responseLength', offset', message', hnext, hlen⟩⟩ :=
        receiveLoop_turn h hret hr
      · simpa [hlast] using hans
      · rw [hlen, List.take_succ_cons, List.forall_mem_cons]
        exact ⟨hans, ih rfl hnext⟩

section Calls

variable {s s' : State World} {i : Nat} {b : Block}

theorem lxiConnect_vxi11_iff (s : State World) (port timeout : Int) (name : Option String)
    (tcp : Tcp.ConnectOutcome) (o : Vxi11.ConnectOutcome) :
    (∃ r s', lxiConnect (connectEffect port name timeout tcp o) .vxi11 s = some (r, s') ∧ 0 ≤ r) ↔
      freeSession s.session ≠ none ∧ CallsSucceed o := by
  rw [← vxi11Connect_eq_zero]
  exact lxiConnect_handle_iff rfl rfl

theorem lxiSend_vxi11 (hlive : Live s i ⟨.vxi11, b⟩) (message : Cells UInt8) (length : Length)
    (timeout : Int) (tcp : Tcp.SendOutcome) (reply : WriteReply) :
    ∃ s', lxiSend (sendEffect message length timeout tcp reply) i s =
      some (if reply.status = .success ∧ reply.resp.size.toNat < 2 ^ 31 then
        (reply.resp.size.toNat : Int) else lxiError, s') := by
  obtain ⟨w, heffect⟩ : ∃ w,
      sendEffect message length timeout tcp reply (some .vxi11) (some b) s.world =
        some ((vxi11Send (s.world.vxi11 b) message length.val timeout reply).1, w) := ⟨_, rfl⟩
  rw [lxiSend_live hlive, heffect, Option.map_some]
  refine ⟨called s .send ⟨.vxi11, b⟩ w, congrArg (fun r => some (r, _)) ?_⟩
  by_cases hstatus : reply.status = .success
  · rw [vxi11Send_of_success hstatus]
    have hlt := reply.resp.size.toNat_lt
    by_cases hsize : reply.resp.size.toNat < 2 ^ 31
    · rw [if_pos ⟨hstatus, hsize⟩, toInt_eq_self (by omega) (by omega), transferResult,
        if_neg (by omega)]
    · rw [if_neg fun h => hsize h.2, transferResult, if_pos (toInt_neg (by omega) (by omega))]
  · rw [vxi11Send_of_failure hstatus, if_neg fun h => hstatus h.1, transferResult,
      if_pos (by decide)]

def readsMade (w : World) : Nat := (placed (w.events.filterMap Sum.getRight?)).length

theorem readsMade_rpcEvents (w : World) (message : Cells UInt8) (events : List Vxi11.Event) :
    readsMade ({ w with message }.rpcEvents events) = readsMade w + (placed events).length := by
  have hevents :
      (events.map Sum.inr : List (Tcp.Event ⊕ Vxi11.Event)).filterMap Sum.getRight? = events := by
    simp [List.filterMap_map, Function.comp_def]
  rw [readsMade, World.rpcEvents, List.filterMap_append, hevents, placed, List.filterMap_append,
    List.length_append]
  rfl

theorem lxiReceive_vxi11 (hlive : Live s i ⟨.vxi11, b⟩) {buffer : Cells UInt8} {length : Length}
    {timeout : Int} {tcp : Tcp.ReceiveOutcome} {replies : List ReadReply} {r : Int}
    (h : lxiReceive (receiveEffect buffer length timeout tcp replies) i s = some (r, s'))
    (hr : 0 ≤ r) :
    ∀ reply ∈ replies.take (readsMade s'.world - readsMade s.world), Answered reply := by
  rw [lxiReceive_live hlive] at h
  obtain ⟨⟨n, w⟩, heffect, hx⟩ := Option.map_eq_some_iff.mp h
  obtain ⟨rfl, rfl⟩ := Prod.mk.inj hx
  obtain ⟨m, hret, hw⟩ := Option.map_eq_some_iff.mp heffect
  obtain ⟨rfl, rfl⟩ := Prod.mk.inj hw
  have hm : 0 ≤ m := by
    rw [transferResult] at hr
    split at hr
    · exact absurd hr not_issued_error
    · exact hr
  simp only [called, readsMade_rpcEvents, Nat.add_sub_cancel_left]
  exact receiveLoop_answered rfl hret hm

end Calls

def VxiSession (s : State World) (device : Int) : Prop :=
  ∃ (i : Nat) (b : Block), device = i ∧ Live s i ⟨.vxi11, b⟩

def Reported (c : Client (State World)) (call : Call) : Prop :=
  ∀ r s', perform c.lib call = some (r, s') → 0 ≤ r →
    match call with
    | .connect protocol _ _ _ _ o =>
        protocol = .vxi11 →
          o.link.clntCreate ≠ none ∧ o.link.status = .success ∧ o.link.linkResp.error = 0
    | .send device _ length _ _ reply =>
        VxiSession c.lib device →
          reply.status = .success ∧ reply.resp.error = 0 ∧ r = reply.resp.size.toNat ∧ r ≤ length.val
    | .receive device _ _ _ _ replies =>
        VxiSession c.lib device →
          ∀ reply ∈ replies.take (readsMade s'.world - readsMade c.lib.world), Answered reply
    | .disconnect _ => True

/-- The device neither refuses a link or a write in a reply that RPC delivers,
nor claims to have taken more than it was sent. -/
def Accepted (c : Client (State World)) : Call → Prop
  | .connect protocol _ _ _ _ o =>
      protocol = .vxi11 → freeSession c.lib.session ≠ none → CallsSucceed o →
        o.link.linkResp.error = 0
  | .send device _ length _ _ reply =>
      VxiSession c.lib device → reply.status = .success → reply.resp.size.toNat < 2 ^ 31 →
        reply.resp.error = 0 ∧ reply.resp.size.toNat ≤ length.val
  | _ => True

theorem reported_iff_accepted (c : Client (State World)) (call : Call) :
    Reported c call ↔ Accepted c call := by
  cases call with
  | connect protocol port name timeout tcp o =>
      have hhandle := lxiConnect_vxi11_iff c.lib port timeout name tcp o
      constructor
      · rintro h rfl hfree hcalls
        obtain ⟨r, s', hconnect, hr⟩ := hhandle.mpr ⟨hfree, hcalls⟩
        exact (h r s' hconnect hr rfl).2.2
      · rintro h r s' hconnect hr rfl
        obtain ⟨hfree, hcalls⟩ := hhandle.mp ⟨r, s', hconnect, hr⟩
        exact ⟨hcalls.clntCreate, hcalls.status, h rfl hfree hcalls⟩
  | send device message length timeout tcp reply =>
      constructor
      · rintro h ⟨i, b, rfl, hlive⟩ hstatus hsize
        obtain ⟨s', hsend⟩ := lxiSend_vxi11 hlive message length timeout tcp reply
        rw [if_pos ⟨hstatus, hsize⟩] at hsend
        obtain ⟨-, herror, -, hle⟩ := h _ s' hsend (Int.natCast_nonneg _) ⟨i, b, rfl, hlive⟩
        exact ⟨herror, by exact_mod_cast hle⟩
      · rintro h r s' hsend hr ⟨i, b, rfl, hlive⟩
        obtain ⟨s'', hsize⟩ := lxiSend_vxi11 hlive message length timeout tcp reply
        obtain ⟨rfl, -⟩ := Prod.mk.inj (Option.some.inj (hsend.symm.trans hsize))
        split at hr
        · rename_i hs
          obtain ⟨herror, hle⟩ := h ⟨i, b, rfl, hlive⟩ hs.1 hs.2
          rw [if_pos hs]
          exact ⟨hs.1, herror, rfl, by exact_mod_cast hle⟩
        · exact absurd hr not_issued_error
  | receive device buffer length timeout tcp replies =>
      refine iff_of_true (fun r s' h hr => ?_) trivial
      rintro ⟨i, b, rfl, hlive⟩
      exact lxiReceive_vxi11 hlive h hr
  | disconnect device => exact iff_of_true (fun _ _ _ _ => trivial) trivial

/-- In every run of an application, VXI-11 device errors are never reported as
success if and only if the device accepts in every call. -/
theorem link_errors_reported_iff (session : Nat → Session) (w : World) (calls : List Call) :
    Along step Reported ⟨initial session w, [], []⟩ calls ↔
      Along step Accepted ⟨initial session w, [], []⟩ calls :=
  along_congr reported_iff_accepted _ calls

def refusal : Vxi11.ConnectOutcome where
  clockGettime := 0
  now := ⟨0, 0⟩
  pthreadCreate := 0
  timedjoin := 0
  done := 2
  link := ⟨some 1, .success, ⟨3, 0, 0, 0⟩⟩

theorem link_refusal_unreported :
    ¬ Along step Reported ⟨initial default (quiet []), [], []⟩
      [.connect .vxi11 0 none 1000 default refusal] := by
  rintro ⟨h, -⟩
  have hfree : freeSession (initial default (quiet [])).session ≠ none := fun hnone => by
    have hfull := freeSession_none.mp hnone 0 (by decide)
    rw [(initial_free default (quiet []) (by decide)).1] at hfull
    cases hfull
  have hcalls : CallsSucceed refusal := by constructor <;> simp [refusal]
  obtain ⟨r, s', hconnect, hr⟩ :=
    (lxiConnect_vxi11_iff _ 0 1000 none default refusal).mpr ⟨hfree, hcalls⟩
  exact absurd (h r s' hconnect hr rfl).2.2 (by decide)

end LibLxi.LinkErrors

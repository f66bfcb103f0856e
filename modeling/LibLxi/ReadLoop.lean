import LibLxi.Spans
import LibLxi.Vxi11

namespace LibLxi.ReadLoop

open Memory Platform Spans Vxi11

def Answered (reply : ReadReply) : Prop := reply.status = .success ∧ reply.resp.error = 0

instance (reply : ReadReply) : Decidable (Answered reply) := inferInstanceAs (Decidable (_ ∧ _))

theorem requestSize_toNat {length pos : Nat} (hlength : length < 2 ^ 31) (hpos : pos ≤ length) :
    (UInt32.ofInt ((length : Int) - pos)).toNat = length - pos := by
  have hcast : (length : Int) - pos = ((length - pos : Nat) : Int) := by omega
  rw [hcast, UInt32.ofInt]
  simp
  omega

theorem grow_eq {length pos n : Nat} (hlength : length < 2 ^ 31) (hfits : pos + n ≤ length) :
    grow pos n = (pos + n : Nat) := by
  rw [grow]
  split
  · rw [toInt_eq_self (by omega) (by omega)]
    push_cast
    rfl
  · omega

/-- One turn of the loop on data that fits: both counters stay equal, and any
reason but zero ends the call. -/
theorem receiveLoop_fits {length pos : Nat} (hlength : length < 2 ^ 31) {reply : ReadReply}
    (hans : Answered reply) (hfits : pos + reply.dataLen ≤ length) (client : Option Client)
    (parms : DeviceReadParms) (message : Cells UInt8) (replies : List ReadReply) :
    receiveLoop client parms length pos pos message (reply :: replies) =
      let message := store message pos reply.resp.data.bytes
      let pos' := pos + reply.dataLen
      let next : Received :=
        if reply.resp.reason = 0 then receiveLoop client parms length pos' pos' message replies
        else ⟨some pos', message, []⟩
      { next with
        events := requested client parms length pos reply.dataLen :: counted pos pos reply.dataLen ++
          next.events } := by
  have hgrow := grow_eq hlength hfits
  have hsmall : ¬ (((pos + reply.dataLen : Nat) : Int) > length) := by omega
  rw [receiveLoop]
  simp only [hans.1, hans.2, hgrow, hsmall, ne_eq, not_true_eq_false, if_false, and_false]
  by_cases h0 : reply.resp.reason = 0
  · simp only [h0, if_true]
    rfl
  · simp only [h0, if_false, ite_self]

theorem receiveLoop_refused {length pos : Nat} {reply : ReadReply} (hans : ¬ Answered reply)
    (responseLength : Int) (client : Option Client) (parms : DeviceReadParms) (message : Cells UInt8)
    (replies : List ReadReply) :
    ∃ errors : List Message,
      receiveLoop client parms length responseLength pos message (reply :: replies) =
        ⟨some (-1), store message pos reply.resp.data.bytes,
          requested client parms length pos reply.dataLen :: errors.map .error⟩ := by
  by_cases hstatus : reply.status = .success
  · have herror : reply.resp.error ≠ 0 := fun h => hans ⟨hstatus, h⟩
    refine ⟨[readError reply.resp.error], ?_⟩
    simp [receiveLoop, hstatus, herror, requested]
  · refine ⟨[], ?_⟩
    simp [receiveLoop, hstatus, requested]

theorem requested_mem (length pos : Nat) (responseLength : Int) (client : Option Client)
    (parms : DeviceReadParms) (message : Cells UInt8) (reply : ReadReply)
    (replies : List ReadReply) :
    requested client parms length pos reply.dataLen ∈
      (receiveLoop client parms length responseLength pos message (reply :: replies)).events := by
  simp only [receiveLoop]
  split_ifs <;> exact List.mem_cons_self

inductive Reads (client : Option Client) (parms : DeviceReadParms) : Event → Prop
  | request (requestSize : UInt32) (dataVal : Int) (dataLen : Nat) :
      Reads client parms (.deviceRead client { parms with requestSize } dataVal dataLen)
  | count (before : Int) (amount : Nat) (after : Int) :
      Reads client parms (.add before amount after)
  | error (message : Message) : Reads client parms (.error message)

theorem counted_reads (client : Option Client) (parms : DeviceReadParms)
    (responseLength offset : Int) (n : Nat) :
    ∀ e ∈ counted responseLength offset n, Reads client parms e := by
  rw [counted]
  split
  · exact List.forall_mem_cons.mpr ⟨.count _ _ _, List.forall_mem_singleton.mpr (.count _ _ _)⟩
  · exact List.forall_mem_nil _

theorem receiveLoop_reads {client : Option Client} {parms : DeviceReadParms}
    {length responseLength offset : Int} {message : Cells UInt8} {replies : List ReadReply} :
    ∀ e ∈ (receiveLoop client parms length responseLength offset message replies).events,
      Reads client parms e := by
  induction replies generalizing responseLength offset message with
  | nil => exact List.forall_mem_nil _
  | cons reply replies ih =>
      have hrequest : Reads client parms (requested client parms length offset reply.dataLen) :=
        .request _ _ _
      have hturn {events : List Event} (h : ∀ e ∈ events, Reads client parms e) :
          ∀ e ∈ requested client parms length offset reply.dataLen ::
            counted responseLength offset reply.dataLen ++ events, Reads client parms e :=
        List.forall_mem_cons.mpr
          ⟨hrequest, List.forall_mem_append.mpr ⟨counted_reads _ _ _ _ _, h⟩⟩
      rw [receiveLoop]
      split_ifs
      · exact List.forall_mem_singleton.mpr hrequest
      · exact List.forall_mem_cons.mpr ⟨hrequest, List.forall_mem_singleton.mpr (.error _)⟩
      · refine List.forall_mem_cons.mpr ⟨hrequest, List.forall_mem_cons.mpr ⟨.count _ _ _, ?_⟩⟩
        exact List.forall_mem_singleton.mpr (.error _)
      · exact hturn (List.forall_mem_nil _)
      · exact hturn ih
      · exact hturn (List.forall_mem_nil _)

def placed (events : List Event) : Layout :=
  events.filterMap fun
    | .deviceRead _ _ dataVal dataLen => some (dataVal, dataLen)
    | _ => none

theorem placed_turn (client : Option Client) (parms : DeviceReadParms)
    (length responseLength offset : Int) (n : Nat) (events : List Event) :
    placed (requested client parms length offset n :: counted responseLength offset n ++ events) =
      (offset, n) :: placed events := by
  rw [counted]
  split <;> simp [placed, requested]

theorem placed_refused (client : Option Client) (parms : DeviceReadParms) (length pos n : Nat)
    (errors : List Message) :
    placed (requested client parms length pos n :: errors.map .error) = [((pos : Int), n)] := by
  simp [placed, requested]

end LibLxi.ReadLoop

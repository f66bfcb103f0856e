import LibLxi.Machine
import LibLxi.ReadLoop

namespace LibLxi.Reassembly

open Machine Memory Platform ReadLoop Spans Vxi11

def sizes (replies : List ReadReply) : List Nat := replies.map ReadReply.dataLen

def output (replies : List ReadReply) : List UInt8 :=
  replies.flatMap fun reply => reply.resp.data.bytes

theorem output_length (replies : List ReadReply) : (output replies).length = (sizes replies).sum := by
  induction replies with
  | nil => rfl
  | cons reply replies ih =>
      rw [output, List.flatMap_cons, List.length_append, sizes, List.map_cons, List.sum_cons]
      exact congrArg _ ih

def EndsAtReason (replies : List ReadReply) : Prop :=
  ∃ chunks last, replies = chunks ++ [last] ∧ (∀ reply ∈ chunks, reply.resp.reason = 0) ∧
    last.resp.reason ≠ 0

theorem EndsAtReason.cons {reply : ReadReply} {replies : List ReadReply} (h : EndsAtReason replies)
    (h0 : reply.resp.reason = 0) : EndsAtReason (reply :: replies) := by
  obtain ⟨chunks, last, rfl, hchunks, hlast⟩ := h
  exact ⟨reply :: chunks, last, rfl, List.forall_mem_cons.mpr ⟨h0, hchunks⟩, hlast⟩

def WithinRequest : Event → Prop
  | .deviceRead _ parms _ dataLen => dataLen ≤ parms.requestSize.toNat
  | _ => True

instance : DecidablePred WithinRequest := fun e => by
  cases e <;> simp only [WithinRequest] <;> infer_instance

def Obeys (events : List Event) : Prop := ∀ e ∈ events, WithinRequest e

instance (events : List Event) : Decidable (Obeys events) := List.decidableBAll ..

theorem Obeys.of_append_right {es fs : List Event} (h : Obeys (es ++ fs)) : Obeys fs :=
  fun e hmem => h e (List.mem_append_right _ hmem)

/-- What a call on a device that obeys its requests has done when it returns,
from position pos of its buffer on. -/
structure Collected (length pos : Nat) (message : Cells UInt8) (consumed : List ReadReply)
    (received : Received) : Prop where
  ends : EndsAtReason consumed
  ret : received.ret = some ((pos + (sizes consumed).sum : Nat) : Int)
  fits : pos + (sizes consumed).sum ≤ length
  placed_eq : placed received.events = running pos (sizes consumed)
  message_eq : received.message = storeSpans message (output consumed) (running pos (sizes consumed))

section Collect

variable {length pos : Nat} {client : Option Client} {parms : DeviceReadParms}
  {message : Cells UInt8} {reply : ReadReply}

theorem fits_of_obeys {replies : List ReadReply} (hlength : length < 2 ^ 31) (hpos : pos ≤ length)
    (hobeys : Obeys (receiveLoop client parms length pos pos message (reply :: replies)).events) :
    pos + reply.dataLen ≤ length := by
  have hle : reply.dataLen ≤ (UInt32.ofInt ((length : Int) - pos)).toNat :=
    hobeys _ (requested_mem length pos pos client parms message reply replies)
  rw [requestSize_toNat hlength hpos] at hle
  omega

/-- A turn of the loop in front of what the rest of the call has done. -/
theorem Collected.turn {consumed : List ReadReply} {next : Received}
    (h0 : reply.resp.reason = 0)
    (hnext : Collected length (pos + reply.dataLen) (store message pos reply.resp.data.bytes)
      consumed next) :
    Collected length pos message (reply :: consumed)
      { next with
        events := requested client parms length pos reply.dataLen ::
          counted pos pos reply.dataLen ++ next.events } := by
  have hsum : (sizes (reply :: consumed)).sum = reply.dataLen + (sizes consumed).sum := rfl
  have hrunning : running pos (sizes (reply :: consumed)) =
      (↑pos, reply.dataLen) :: running (pos + reply.dataLen : Nat) (sizes consumed) := by
    push_cast
    rfl
  exact {
    ends := hnext.ends.cons h0
    ret := by rw [hsum, ← Nat.add_assoc]; exact hnext.ret
    fits := by rw [hsum, ← Nat.add_assoc]; exact hnext.fits
    placed_eq := by rw [hrunning, placed_turn, hnext.placed_eq]
    message_eq := by
      have houtput : output (reply :: consumed) = reply.resp.data.bytes ++ output consumed := rfl
      rw [hrunning, storeSpans, houtput, ReadReply.dataLen, List.take_left, List.drop_left]
      exact hnext.message_eq }

theorem collected_last (hreason : reply.resp.reason ≠ 0) (hfits : pos + reply.dataLen ≤ length) :
    Collected length pos message [reply]
      ⟨some ((pos + reply.dataLen : Nat) : Int), store message pos reply.resp.data.bytes,
        requested client parms length pos reply.dataLen :: counted pos pos reply.dataLen ++ []⟩ where
  ends := ⟨[], reply, rfl, by simp, hreason⟩
  ret := by simp [sizes]
  fits := by simpa [sizes] using hfits
  placed_eq := by rw [placed_turn]; rfl
  message_eq := by simp [sizes, output, running, storeSpans, ReadReply.dataLen]

theorem receiveLoop_collects (hlength : length < 2 ^ 31) (hpos : pos ≤ length)
    {replies : List ReadReply} (hans : ∀ reply ∈ replies, Answered reply) {received : Received}
    {r : Int} (h : receiveLoop client parms length pos pos message replies = received)
    (hret : received.ret = some r) (hobeys : Obeys received.events) :
    ∃ consumed rest, replies = consumed ++ rest ∧
      Collected length pos message consumed received := by
  induction replies generalizing pos message received with
  | nil =>
      subst h
      simp [receiveLoop] at hret
  | cons reply replies ih =>
      obtain ⟨hreply, hans⟩ := List.forall_mem_cons.mp hans
      have hfits : pos + reply.dataLen ≤ length := fits_of_obeys hlength hpos (h ▸ hobeys)
      rw [receiveLoop_fits hlength hreply hfits] at h
      by_cases h0 : reply.resp.reason = 0
      · simp only [h0, if_true] at h
        subst h
        obtain ⟨consumed, rest, rfl, hnext⟩ := ih hfits hans rfl hret hobeys.of_append_right
        exact ⟨reply :: consumed, rest, rfl, hnext.turn h0⟩
      · simp only [h0, if_false] at h
        subst h
        exact ⟨[reply], replies, rfl, collected_last h0 hfits⟩

end Collect

structure Call where
  length : Length
  timeout : Int
  buffer : Cells UInt8

/-- One vxi11_receive call on the replies the device has still to give. Every
device_read takes the next one. -/
def receiveStep (data : Vxi11Data) (replies : List ReadReply) (call : Call) :
    Option (Received × List ReadReply) :=
  let received := vxi11Receive data call.buffer call.length.val call.timeout replies
  received.ret.map fun _ => (received, replies.drop (placed received.events).length)

def returned (received : Received) : List UInt8 :=
  read received.message 0 (received.ret.getD 0).toNat

/-- A call returned on the first reply with a reason, with all the bytes the
device gave up and nothing stored outside its buffer. -/
structure Served (call : Call) (consumed : List ReadReply) (received : Received) : Prop where
  ends : EndsAtReason consumed
  ret : received.ret = some ((output consumed).length : Int)
  fits : (output consumed).length ≤ call.length.val
  returned_eq : returned received = output consumed
  stores : ∀ s ∈ placed received.events, 0 ≤ s.1 ∧ s.1 + s.2 ≤ call.length.val
  outside : ∀ i, i < 0 ∨ call.length.val ≤ i → received.message i = call.buffer i

theorem Collected.served {call : Call} {consumed : List ReadReply} {received : Received}
    (h : Collected call.length.val 0 call.buffer consumed received) :
    Served call consumed received := by
  have hlen := output_length consumed
  have hfits : (sizes consumed).sum ≤ call.length.val := by simpa using h.fits
  have hret : received.ret = some ((output consumed).length : Int) := by
    rw [h.ret, hlen, Nat.zero_add]
  have hin : ∀ s ∈ running 0 (sizes consumed), 0 ≤ s.1 ∧ s.1 + s.2 ≤ call.length.val := by
    intro s hs
    obtain ⟨hl, hu⟩ := running_bounds hs
    exact ⟨hl, by omega⟩
  exact {
    ends := h.ends
    ret := hret
    fits := hlen ▸ hfits
    returned_eq := by
      have hread := read_storeSpans_running call.buffer 0 (sizes consumed) (output consumed)
        (le_of_eq hlen.symm)
      rw [← hlen, List.take_length] at hread
      rw [returned, hret, h.message_eq]
      exact hread
    stores := by
      rw [h.placed_eq]
      exact hin
    outside := by
      intro i hi
      rw [h.message_eq]
      apply storeSpans_outside
      intro s hs
      have hs := hin s hs
      omega }

/-- Call after call takes its replies from the front of what the device gives. -/
def Reassembled : List ReadReply → List Call → List Received → List ReadReply → Prop
  | replies, [], [], rest => replies = rest
  | replies, call :: calls, received :: outs, rest =>
      ∃ consumed left, replies = consumed ++ left ∧ Served call consumed received ∧
        Reassembled left calls outs rest
  | _, _, _, _ => False

theorem receiveStep_served {data : Vxi11Data} {replies left : List ReadReply} {call : Call}
    {received : Received} (hans : ∀ reply ∈ replies, Answered reply)
    (h : receiveStep data replies call = some (received, left)) (hobeys : Obeys received.events) :
    ∃ consumed, replies = consumed ++ left ∧ Served call consumed received := by
  obtain ⟨r, hret, heq⟩ := Option.map_eq_some_iff.mp h
  obtain ⟨hreceived, rfl⟩ := Prod.mk.inj heq
  rw [hreceived] at hret ⊢
  obtain ⟨consumed, rest, rfl, hcollected⟩ :=
    receiveLoop_collects call.length.isInt (Nat.zero_le _) hans hreceived hret hobeys
  have hcount : (placed received.events).length = consumed.length := by
    rw [hcollected.placed_eq, running_length, sizes, List.length_map]
  exact ⟨consumed, by rw [hcount, List.drop_left], hcollected.served⟩

/-- For every device that answers each read with data of at most the requested
size, every sequence of vxi11_receive calls that return hands over the device's
output, message by message. -/
theorem receive_reassembles {data : Vxi11Data} {replies rest : List ReadReply} {calls : List Call}
    {outs : List Received} (hans : ∀ reply ∈ replies, Answered reply)
    (hrun : outputs (receiveStep data) replies calls = some (outs, rest))
    (hobeys : ∀ received ∈ outs, Obeys received.events) :
    Reassembled replies calls outs rest ∧ outs.flatMap returned ++ output rest = output replies := by
  induction calls generalizing replies outs with
  | nil =>
      cases hrun
      exact ⟨rfl, rfl⟩
  | cons call calls ih =>
      obtain ⟨received, left, outs, hstep, hrest, rfl⟩ := outputs_cons_eq_some hrun
      obtain ⟨hreceived, hobeys⟩ := List.forall_mem_cons.mp hobeys
      obtain ⟨consumed, rfl, hserved⟩ := receiveStep_served hans hstep hreceived
      have hans' : ∀ reply ∈ left, Answered reply :=
        fun reply hm => hans reply (List.mem_append_right _ hm)
      obtain ⟨hcalls, houtput⟩ := ih hans' hrest hobeys
      refine ⟨⟨consumed, left, rfl, hserved, hcalls⟩, ?_⟩
      rw [List.flatMap_cons, List.append_assoc, houtput, hserved.returned_eq, output, output, output,
        List.flatMap_append]

def device : List ReadReply :=
  [⟨.success, ⟨0, 0x01, ⟨[1, 2], by decide⟩⟩⟩, ⟨.success, ⟨0, 0, ⟨[], by decide⟩⟩⟩,
    ⟨.success, ⟨0, 0x04, ⟨[3], by decide⟩⟩⟩]

theorem receive_reassembles_device :
    ∃ outs rest, outputs (receiveStep ⟨some 1, ⟨0, 7, 0, 1024⟩⟩) device
        [⟨⟨2, by decide⟩, 1000, fun _ => 0⟩, ⟨⟨5, by decide⟩, 1000, fun _ => 0⟩] = some (outs, rest) ∧
      Reassembled device
        [⟨⟨2, by decide⟩, 1000, fun _ => 0⟩, ⟨⟨5, by decide⟩, 1000, fun _ => 0⟩] outs rest ∧
      outs.flatMap returned ++ output rest = [1, 2, 3] := by
  exact ⟨_, _, rfl, receive_reassembles (by decide) rfl (by decide)⟩

end LibLxi.Reassembly

import LibLxi.ReadLoop

namespace LibLxi.ReadOverrun

open Memory Platform ReadLoop Vxi11

/-- The data of every reply that the loop asks for fits into what the replies
before it have left of the buffer. -/
def Fits : Nat → List ReadReply → Prop
  | _, [] => True
  | room, reply :: replies =>
      reply.dataLen ≤ room ∧
        (Answered reply → reply.resp.reason = 0 → Fits (room - reply.dataLen) replies)

def CountsExactly : Event → Prop
  | .add before amount after => after = before + amount ∧ 0 ≤ after
  | _ => True

def delivered (events : List Event) : Nat := ((placed events).map Prod.snd).sum

/-- What vxi11_receive owes its caller against any device. -/
structure Contained (length : Nat) (received : Received) : Prop where
  stores : ∀ s ∈ placed received.events, 0 < s.2 → 0 ≤ s.1 ∧ s.1 + s.2 ≤ length
  counters : ∀ e ∈ received.events, CountsExactly e
  tooSmall : ∀ v, received.ret = some v → length < delivered received.events → v = -1

section Loop

variable {length pos : Nat} {replies : List ReadReply} (client : Option Client)
  (parms : DeviceReadParms) (message : Cells UInt8)

def StoresWithin (length : Nat) (events : List Event) : Prop :=
  ∀ s ∈ placed events, 0 < s.2 → 0 ≤ s.1 ∧ s.1 + s.2 ≤ length

theorem storesWithin_turn {n : Nat} {events : List Event} :
    StoresWithin length (requested client parms length pos n :: counted pos pos n ++ events) ↔
      (0 < n → pos + n ≤ length) ∧ StoresWithin length events := by
  rw [StoresWithin, placed_turn, List.forall_mem_cons]
  apply and_congr_left
  intro _
  apply forall_congr'
  intro _
  dsimp only
  omega

theorem fits_of_storesWithin (hlength : length < 2 ^ 31) (hpos : pos ≤ length)
    (h : StoresWithin length (receiveLoop client parms length pos pos message replies).events) :
    Fits (length - pos) replies := by
  induction replies generalizing pos message with
  | nil => trivial
  | cons reply replies ih =>
      -- the reply's data is stored whatever the loop makes of it afterwards
      have hmem := requested_mem length pos pos client parms message reply replies
      have hs := h (pos, reply.dataLen) (List.mem_filterMap.mpr ⟨_, hmem, rfl⟩)
      have hfits : pos + reply.dataLen ≤ length := by
        by_cases hzero : 0 < reply.dataLen
        · have hend := (hs hzero).2
          dsimp only at hend
          omega
        · omega
      refine ⟨by omega, fun hans h0 => ?_⟩
      rw [receiveLoop_fits hlength hans hfits] at h
      simp only [h0, if_true] at h
      have hroom : length - pos - reply.dataLen = length - (pos + reply.dataLen) := by omega
      rw [hroom]
      exact ih _ hfits ((storesWithin_turn client parms).mp h).2

structure WithinRoom (length pos : Nat) (events : List Event) : Prop where
  stores : StoresWithin length events
  counters : ∀ e ∈ events, CountsExactly e
  sum : delivered events ≤ length - pos

theorem WithinRoom.nil : WithinRoom length pos [] :=
  ⟨by simp [StoresWithin, placed], by simp, Nat.zero_le _⟩

theorem countsExactly_counted {n : Nat} (hlength : length < 2 ^ 31) (hfits : pos + n ≤ length) :
    ∀ e ∈ counted pos pos n, CountsExactly e := by
  have hgrow := grow_eq hlength hfits
  rw [counted]
  split
  · simp only [List.forall_mem_cons, CountsExactly, hgrow]
    simp
    omega
  · simp

theorem WithinRoom.turn {n : Nat} {events : List Event} (hlength : length < 2 ^ 31)
    (h : WithinRoom length (pos + n) events)
    (hfits : pos + n ≤ length) :
    WithinRoom length pos (requested client parms length pos n :: counted pos pos n ++ events) where
  stores := (storesWithin_turn client parms).mpr ⟨fun _ => hfits, h.stores⟩
  counters e he := by
    rcases List.mem_cons.mp he with rfl | he
    · trivial
    · exact (List.mem_append.mp he).elim (countsExactly_counted hlength hfits e) (h.counters e)
  sum := by
    have hsum := h.sum
    have hturn : delivered (requested client parms length pos n :: counted pos pos n ++ events) =
        n + delivered events := by
      rw [delivered, placed_turn, List.map_cons, List.sum_cons]
      rfl
    omega

theorem WithinRoom.refused {n : Nat} (errors : List Message) (hfits : pos + n ≤ length) :
    WithinRoom length pos (requested client parms length pos n :: errors.map .error) where
  stores := by
    simp only [StoresWithin, placed_refused, List.forall_mem_singleton]
    omega
  counters := by simp [requested, CountsExactly]
  sum := by
    simp only [delivered, placed_refused, List.map_cons, List.map_nil, List.sum_singleton]
    omega

theorem receiveLoop_withinRoom (hlength : length < 2 ^ 31) (hpos : pos ≤ length)
    (h : Fits (length - pos) replies) :
    WithinRoom length pos (receiveLoop client parms length pos pos message replies).events := by
  induction replies generalizing pos message with
  | nil => exact .nil
  | cons reply replies ih =>
      obtain ⟨hroom, hrest⟩ := h
      have hfits : pos + reply.dataLen ≤ length := by omega
      by_cases hans : Answered reply
      · rw [receiveLoop_fits hlength hans hfits]
        refine WithinRoom.turn client parms hlength ?_ hfits
        by_cases h0 : reply.resp.reason = 0
        · simp only [h0, if_true]
          exact ih _ hfits (by rw [← Nat.sub_sub]; exact hrest hans h0)
        · simp only [h0, if_false]
          exact .nil
      · obtain ⟨errors, h⟩ := receiveLoop_refused hans pos client parms message replies
        rw [h]
        exact .refused client parms errors hfits

end Loop

/-- Against any device vxi11_receive stays within its buffer, counts right and
refuses too much data, if and only if every reply it asks for fits into what is
left of the buffer. -/
theorem contained_iff_fits (data : Vxi11Data) (message : Cells UInt8) (length : Length)
    (timeout : Int) (replies : List ReadReply) :
    Contained length.val (vxi11Receive data message length.val timeout replies) ↔
      Fits length.val replies := by
  constructor
  · intro h
    exact fits_of_storesWithin _ _ message length.isInt (Nat.zero_le _) h.stores
  · intro h
    have hroom :
        WithinRoom length.val 0 (vxi11Receive data message length.val timeout replies).events :=
      receiveLoop_withinRoom _ _ message length.isInt (Nat.zero_le _) h
    exact ⟨hroom.stores, hroom.counters, fun v _ hv => absurd hv (Nat.not_lt.mpr hroom.sum)⟩

def twoBytes : ReadReply := ⟨.success, ⟨0, receiveEndBit, ⟨[0x31, 0x0a], by decide⟩⟩⟩

theorem receive_overruns : ¬ Contained 1 (vxi11Receive default (fun _ => 0) 1 1000 [twoBytes]) := by
  intro h
  exact absurd (h.stores (0, 2) (by decide) (by decide)) (by decide)

end LibLxi.ReadOverrun

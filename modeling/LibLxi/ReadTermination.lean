import LibLxi.ReadOverrun
import Mathlib.Data.Stream.Init

namespace LibLxi.ReadTermination

open Memory Platform ReadLoop ReadOverrun Vxi11

def Continues (reply : ReadReply) : Prop := Answered reply ∧ reply.resp.reason = 0

instance instDecidableContinues (reply : ReadReply) : Decidable (Continues reply) :=
  inferInstanceAs (Decidable (_ ∧ _))

/-- A valid message of length zero that is not the last one. -/
def Idle (reply : ReadReply) : Prop := Continues reply ∧ reply.dataLen = 0

instance instDecidableIdle (reply : ReadReply) : Decidable (Idle reply) :=
  inferInstanceAs (Decidable (_ ∧ _))

section Loop

variable {length pos : Nat} {replies : List ReadReply} (client : Option Client)
  (parms : DeviceReadParms) (message : Cells UInt8)

theorem receiveLoop_waits_iff (hlength : length < 2 ^ 31) (hpos : pos ≤ length)
    (h : Fits (length - pos) replies) :
    (receiveLoop client parms length pos pos message replies).ret = none ↔
      ∀ reply ∈ replies, Continues reply := by
  induction replies generalizing pos message with
  | nil => simp [receiveLoop]
  | cons reply replies ih =>
      obtain ⟨hroom, hrest⟩ := h
      rw [List.forall_mem_cons]
      by_cases hans : Answered reply
      · rw [receiveLoop_fits hlength hans (by omega)]
        by_cases h0 : reply.resp.reason = 0
        · have hnext := hrest hans h0
          rw [Nat.sub_sub] at hnext
          simp only [h0, if_true]
          rw [ih _ (by omega) hnext]
          exact (and_iff_right ⟨hans, h0⟩).symm
        · simp only [h0, if_false]
          exact iff_of_false (by simp) fun hall => h0 hall.1.2
      · obtain ⟨errors, hrefused⟩ := receiveLoop_refused hans pos client parms message replies
        rw [hrefused]
        exact iff_of_false (by simp) fun hall => hans hall.1.1

theorem length_le_of_continues {room : Nat} (h : Fits room replies)
    (hall : ∀ reply ∈ replies, Continues reply) :
    replies.length ≤ room + replies.countP (Idle ·) := by
  induction replies generalizing room with
  | nil => simp
  | cons reply replies ih =>
      obtain ⟨hroom, hrest⟩ := h
      obtain ⟨hreply, hall⟩ := List.forall_mem_cons.mp hall
      have hnext := ih (hrest hreply.1 hreply.2) hall
      rw [List.length_cons, List.countP_cons]
      by_cases hidle : Idle reply
      · simp only [hidle, decide_true, if_true]
        omega
      · have hdata : reply.dataLen ≠ 0 := fun hzero => hidle ⟨hreply, hzero⟩
        omega

end Loop

theorem vxi11Receive_waits_iff (data : Vxi11Data) (message : Cells UInt8) (length : Length)
    (timeout : Int) {replies : List ReadReply} (h : Fits length.val replies) :
    (vxi11Receive data message length.val timeout replies).ret = none ↔
      ∀ reply ∈ replies, Continues reply :=
  receiveLoop_waits_iff _ _ message length.isInt (Nat.zero_le _) h

/-- As long as it neither fails nor ends the message, the device sends at most k
idle replies. -/
def IdlesAtMost (k : Nat) (stream : Stream' ReadReply) : Prop :=
  ∀ n, (∀ reply ∈ stream.take n, Continues reply) → (stream.take n).countP (Idle ·) ≤ k

theorem countP_idle_le (stream : Stream' ReadReply) (n : Nat) :
    (stream.take n).countP (Idle ·) ≤ n :=
  List.countP_le_length.trans (Stream'.length_take n stream).le

theorem continues_of_le {stream : Stream' ReadReply} {n m : Nat} (hle : n ≤ m)
    (h : ∀ reply ∈ stream.take m, Continues reply) : ∀ reply ∈ stream.take n, Continues reply :=
  fun reply hreply => h reply (((Stream'.take_prefix _ _ _).mpr hle).subset hreply)

section Stream

variable (data : Vxi11Data) (length : Length) (timeout : Int)

def EndsWithin (bound : Nat) (stream : Stream' ReadReply) : Prop :=
  ∀ message, (vxi11Receive data message length.val timeout (stream.take bound)).ret ≠ none

theorem endsWithin_of_idlesAtMost {stream : Stream' ReadReply} {k : Nat}
    (hfits : ∀ n, Fits length.val (stream.take n)) (hidle : IdlesAtMost k stream) :
    EndsWithin data length timeout (length.val + k + 1) stream := by
  intro message hwaits
  rw [vxi11Receive_waits_iff _ _ _ _ (hfits _)] at hwaits
  have hlen := length_le_of_continues (hfits _) hwaits
  have hk := hidle _ hwaits
  rw [Stream'.length_take] at hlen
  omega

theorem idlesAtMost_of_endsWithin {stream : Stream' ReadReply} {bound : Nat}
    (hfits : ∀ n, Fits length.val (stream.take n))
    (hends : EndsWithin data length timeout bound stream) : IdlesAtMost bound stream := by
  intro n hall
  by_contra hmany
  have hn : bound ≤ n := by
    have hle := countP_idle_le stream n
    omega
  apply hends fun _ => 0
  rw [vxi11Receive_waits_iff _ _ _ _ (hfits bound)]
  exact continues_of_le hn hall

end Stream

def IdlesForever (stream : Stream' ReadReply) : Prop := ∀ k, ¬ IdlesAtMost k stream

theorem continues_of_idlesForever {stream : Stream' ReadReply} (h : IdlesForever stream) (n : Nat) :
    ∀ reply ∈ stream.take n, Continues reply := by
  have hmany := h n
  rw [IdlesAtMost] at hmany
  push Not at hmany
  obtain ⟨m, hall, hcount⟩ := hmany
  have hle := countP_idle_le stream m
  exact continues_of_le (by omega) hall

def oneByte (reason : Int32) : ReadReply := ⟨.success, ⟨0, reason, ⟨[0x31], by decide⟩⟩⟩

def idle : ReadReply := ⟨.success, ⟨0, 0, ⟨[], empty_isUInt⟩⟩⟩

section Cons

variable {reply : ReadReply} {stream : Stream' ReadReply}

theorem fits_cons {room : Nat} (hroom : reply.dataLen ≤ room)
    (h : Answered reply → reply.resp.reason = 0 →
      ∀ n, Fits (room - reply.dataLen) (stream.take n)) (n : Nat) :
    Fits room ((Stream'.cons reply stream).take n) := by
  cases n with
  | zero => trivial
  | succ n => exact ⟨hroom, fun hans h0 => h hans h0 n⟩

theorem idlesAtMost_cons {k k' : Nat} (hk : k + (if Idle reply then 1 else 0) ≤ k')
    (h : IdlesAtMost k stream) : IdlesAtMost k' (Stream'.cons reply stream) := by
  intro n hall
  cases n with
  | zero => exact Nat.zero_le _
  | succ n =>
      have htail := h n (List.forall_mem_cons.mp hall).2
      change (reply :: stream.take n).countP _ ≤ k'
      rw [List.countP_cons]
      simp only [decide_eq_true_eq]
      omega

theorem idlesAtMost_of_not_continues (h : ¬ Continues reply) :
    IdlesAtMost 0 (Stream'.cons reply stream) := by
  intro n hall
  cases n with
  | zero => exact Nat.zero_le _
  | succ n => exact absurd (hall reply List.mem_cons_self) h

theorem idlesForever_cons (hreply : Continues reply) (h : IdlesForever stream) :
    IdlesForever (Stream'.cons reply stream) := by
  intro k hk
  apply h k
  intro n hall
  have hcons := hk (n + 1) (List.forall_mem_cons.mpr ⟨hreply, hall⟩)
  change (reply :: stream.take n).countP _ ≤ k at hcons
  rw [List.countP_cons] at hcons
  omega

end Cons

theorem fits_idle (room n : Nat) : Fits room ((Stream'.const idle).take n) := by
  induction n with
  | zero => trivial
  | succ n ih => exact ⟨Nat.zero_le _, fun _ _ => ih⟩

theorem eq_idle {n : Nat} {reply : ReadReply} (h : reply ∈ (Stream'.const idle).take n) :
    reply = idle := by
  induction n with
  | zero => cases h
  | succ n ih =>
      rcases List.mem_cons.mp h with rfl | h
      · rfl
      · exact ih h

theorem idlesForever_idle : IdlesForever (Stream'.const idle) := by
  intro k hk
  have hle := hk (k + 1) fun reply hreply => ?_
  · rw [List.countP_eq_length.mpr, Stream'.length_take] at hle
    · omega
    · intro reply hreply
      rw [eq_idle hreply]
      decide
  · rw [eq_idle hreply]
    decide

def ending : Stream' ReadReply := Stream'.const (oneByte receiveEndBit)

theorem ending_eq : ending = Stream'.cons (oneByte receiveEndBit) ending := Stream'.const_eq _

theorem fits_ending {room : Nat} (hroom : 1 ≤ room) (n : Nat) : Fits room (ending.take n) := by
  rw [ending_eq]
  exact fits_cons hroom (fun _ h => absurd h (by decide)) n

def hesitating : Stream' ReadReply :=
  Stream'.cons (oneByte 0) (Stream'.cons idle (Stream'.cons idle ending))

theorem fits_hesitating : ∀ n, Fits 16 (hesitating.take n) :=
  fits_cons (by decide) fun _ _ => fits_cons (by decide) fun _ _ =>
    fits_cons (by decide) fun _ _ => fits_ending (by decide)

theorem idles_hesitating : IdlesAtMost 2 hesitating := by
  have hending : IdlesAtMost 0 ending := by
    rw [ending_eq]
    exact idlesAtMost_of_not_continues (by decide)
  have hidle : IdlesAtMost 1 (Stream'.cons idle ending) := idlesAtMost_cons (by decide) hending
  have hidles : IdlesAtMost 2 (Stream'.cons idle (Stream'.cons idle ending)) :=
    idlesAtMost_cons (by decide) hidle
  exact idlesAtMost_cons (by decide) hidles

def filledThenIdle : Stream' ReadReply := Stream'.cons (oneByte 0) (Stream'.const idle)

theorem fits_filledThenIdle {room : Nat} (hroom : 1 ≤ room) :
    ∀ n, Fits room (filledThenIdle.take n) :=
  fits_cons hroom fun _ _ => fits_idle _

theorem idlesForever_filledThenIdle : IdlesForever filledThenIdle :=
  idlesForever_cons (by decide) idlesForever_idle

end LibLxi.ReadTermination

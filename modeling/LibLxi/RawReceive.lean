import LibLxi.RawPieces
import LibLxi.Spans

namespace LibLxi.RawReceive

open Backends Lxi Machine Memory Platform RawPieces SessionInvariant Spans Tcp

/-- The kernel's side of one receive loop: a result is a size up to what was
asked for and is there, zero only for a request of size zero or at the end of
the stream, or an error. A zero and an error are the last result. -/
def Delivers : Nat → List UInt8 → List Transfer → Prop
  | _, _, [] => False
  | _, _, .error _ :: rest => rest = []
  | size, pending, .count n :: rest =>
      n ≤ size ∧ n ≤ pending.length ∧
        if n = 0 then (size = 0 ∨ pending = []) ∧ rest = []
        else Delivers (size - n) (pending.drop n) rest

theorem Delivers.sum_le {size : Nat} {pending : List UInt8} {results : List Transfer}
    (h : Delivers size pending results) :
    (pieceSizes results).sum ≤ size ∧ (pieceSizes results).sum ≤ pending.length := by
  induction results generalizing size pending with
  | nil => exact h.elim
  | cons t results ih =>
      cases t with
      | error e =>
          cases h
          exact ⟨Nat.zero_le _, Nat.zero_le _⟩
      | count n =>
          obtain ⟨hn, hp, h⟩ := h
          by_cases h0 : n = 0
          · rw [if_pos h0] at h
            subst h0
            rw [h.2]
            exact ⟨Nat.zero_le _, Nat.zero_le _⟩
          · rw [if_neg h0] at h
            obtain ⟨hsize, hpending⟩ := ih h
            rw [pieceSizes_count (by omega), List.sum_cons]
            rw [List.length_drop] at hpending
            constructor <;> omega

/-- What a receive loop does with what the kernel delivers: it counts the bytes
right, but places the pieces one behind the start of the last one. -/
theorem receiveLoop_eq {size : Nat} {pending : List UInt8} {results : List Transfer}
    (h : Delivers size pending results) (fd : Int) (dontWait : Bool) (n bytesReceived : Int)
    (message : Cells UInt8) :
    let received := receiveLoop fd dontWait n size bytesReceived message pending results
    received.ret = some (bytesReceived + (pieceSizes results).sum) ∧
      received.pending = pending.drop (pieceSizes results).sum ∧
      received.message = storeSpans message pending (lagging n (pieceSizes results)) := by
  induction results generalizing size pending n bytesReceived message with
  | nil => exact h.elim
  | cons t results ih =>
      cases t with
      | error e =>
          have hnil : results = [] := h
          simp [receiveLoop, pieceSizes, lagging, storeSpans, hnil]
      | count k =>
          obtain ⟨hk, hp, h⟩ := h
          by_cases h0 : k = 0
          · subst h0
            rw [if_pos rfl] at h
            simp [receiveLoop, pieceSizes, h.2, lagging, storeSpans]
          · rw [if_neg h0] at h
            have hpos : 0 < k := Nat.pos_of_ne_zero h0
            obtain ⟨hr, hq, hm⟩ := ih h k (bytesReceived + k) (store message n (pending.take k))
            have hsize : ((size - k : Nat) : Int) = size - k := by omega
            rw [hsize] at hr hq hm
            simp only [receiveLoop, if_pos hpos, pieceSizes_count hpos, List.sum_cons, lagging,
              storeSpans, hr, hq, hm, List.drop_drop, and_true]
            push_cast
            rw [add_assoc]

structure ReceiveCall where
  length : Length
  timeout : Int
  outcome : ReceiveOutcome

namespace ReceiveCall

variable (c : ReceiveCall)

def Readable : Prop := c.outcome.select ≠ -1 ∧ c.outcome.select ≠ 0

instance : Decidable c.Readable := inferInstanceAs (Decidable (_ ∧ _))

def sizes : List Nat := if c.Readable then pieceSizes c.outcome.results else []

def ret : Int := if c.Readable then c.sizes.sum else -1

theorem sizes_pos : ∀ n ∈ c.sizes, 0 < n := by
  rw [sizes]
  split
  · exact pieceSizes_pos _
  · simp

end ReceiveCall

def DeliversCalls : List UInt8 → List ReceiveCall → Prop
  | _, [] => True
  | stream, c :: calls =>
      (c.Readable → Delivers c.length.val stream c.outcome.results) ∧
        DeliversCalls (stream.drop c.sizes.sum) calls

def receiveStep (device : Int) (s : State World) (call : ReceiveCall × Cells UInt8) :
    Option ((Int × Cells UInt8) × State World) :=
  let (c, buffer) := call
  (lxiReceive (receiveEffect buffer c.length c.timeout c.outcome []) device s).map fun x =>
    ((x.1, x.2.world.message), x.2)

def piece (out : Int × Cells UInt8) : List UInt8 :=
  if 0 ≤ out.1 then read out.2 0 out.1.toNat else []

def Intact : List UInt8 → List (Int × Cells UInt8) → Prop
  | _, [] => True
  | stream, out :: outs => ∃ rest, piece out ++ rest = stream ∧ Intact rest outs

theorem intact_cons_take {stream : List UInt8} {out : Int × Cells UInt8}
    {outs : List (Int × Cells UInt8)} {n : Nat} (hlen : (piece out).length = n) :
    Intact stream (out :: outs) ↔ piece out = stream.take n ∧ Intact (stream.drop n) outs := by
  constructor
  · rintro ⟨rest, rfl, hrest⟩
    exact ⟨(List.take_left' hlen).symm, by rwa [List.drop_left' hlen]⟩
  · rintro ⟨hpiece, hrest⟩
    exact ⟨stream.drop n, by rw [hpiece, List.take_append_drop], hrest⟩

theorem Intact.flatMap_prefix {stream : List UInt8} {outs : List (Int × Cells UInt8)}
    (h : Intact stream outs) : outs.flatMap piece <+: stream := by
  induction outs generalizing stream with
  | nil => exact List.nil_prefix
  | cons out outs ih =>
      obtain ⟨rest, rfl, hrest⟩ := h
      rw [List.flatMap_cons]
      exact (List.prefix_append_right_inj _).mpr (ih hrest)

theorem tcpReceive_eq {c : ReceiveCall} {stream : List UInt8}
    (h : c.Readable → Delivers c.length.val stream c.outcome.results) (data : TcpData)
    (buffer : Cells UInt8) (dontWait : Bool) :
    let received := tcpReceive_ data buffer c.length.val c.timeout stream dontWait c.outcome
    received.ret = some c.ret ∧ received.pending = stream.drop c.sizes.sum ∧
      received.message = storeSpans buffer stream (lagging 0 c.sizes) := by
  by_cases hc : c.Readable
  · obtain ⟨hr, hp, hm⟩ := receiveLoop_eq (h hc) data.serverSocket dontWait 0 0 buffer
    simp only [tcpReceive_, if_neg hc.1, if_pos hc.2, hr, hp, hm, ReceiveCall.ret,
      ReceiveCall.sizes, if_pos hc, zero_add, and_self]
  · simp only [tcpReceive_, ReceiveCall.ret, ReceiveCall.sizes, if_neg hc, lagging, storeSpans]
    rw [ReceiveCall.Readable] at hc
    split
    · simp
    · rw [if_neg (by tauto)]
      simp

section Receive

variable {s : State World} {i : Nat} {b : Block}

theorem receiveStep_live {c : ReceiveCall} (hlive : Live s i ⟨.tcp, b⟩)
    (h : c.Readable → Delivers c.length.val (undelivered s.world b) c.outcome.results)
    (buffer : Cells UInt8) :
    ∃ s', receiveStep i s (c, buffer) =
        some ((c.ret, storeSpans buffer (undelivered s.world b) (lagging 0 c.sizes)), s') ∧
      Live s' i ⟨.tcp, b⟩ ∧ undelivered s'.world b = (undelivered s.world b).drop c.sizes.sum := by
  obtain ⟨hr, hp, hm⟩ := tcpReceive_eq h (s.world.tcp b) buffer true
  have hret : transferResult c.ret = c.ret := by
    by_cases hc : c.Readable
    · rw [ReceiveCall.ret, if_pos hc]
      exact if_neg (by omega)
    · rw [ReceiveCall.ret, if_neg hc]
      rfl
  let received :=
    tcpReceive (s.world.tcp b) buffer c.length.val c.timeout (undelivered s.world b) c.outcome
  let w := s.world.received (s.world.tcp b).serverSocket received
  have hmessage : w.message = storeSpans buffer (undelivered s.world b) (lagging 0 c.sizes) := hm
  have hpending : undelivered w b = (undelivered s.world b).drop c.sizes.sum :=
    (Function.update_self _ _ _).trans hp
  refine ⟨called s .receive ⟨.tcp, b⟩ w, ?_, hlive, hpending⟩
  have heffect : receiveEffect buffer c.length c.timeout c.outcome [] (some .tcp) (some b) s.world =
      some (c.ret, w) := by
    simp only [receiveEffect]
    exact congrArg (Option.map fun ret => (ret, w)) hr
  simp only [receiveStep, lxiReceive_live hlive, heffect, Option.map_some, hret]
  rw [called, hmessage]

theorem piece_ret (c : ReceiveCall) (buffer : Cells UInt8) :
    piece (c.ret, buffer) = read buffer 0 c.sizes.sum := by
  by_cases hc : c.Readable
  · have hret : c.ret = c.sizes.sum := if_pos hc
    rw [piece, hret, if_pos (Int.natCast_nonneg _), Int.toNat_natCast]
  · have hret : c.ret = -1 := if_neg hc
    have hsizes : c.sizes = [] := if_neg hc
    rw [piece, hret, hsizes]
    rfl

theorem piece_length (c : ReceiveCall) (buffer : Cells UInt8) :
    (piece (c.ret, buffer)).length = c.sizes.sum := by rw [piece_ret, read_length]

theorem piece_intact_iff {c : ReceiveCall} {stream : List UInt8}
    (hsum : c.sizes.sum ≤ stream.length) :
    (∀ buffer, piece (c.ret, storeSpans buffer stream (lagging 0 c.sizes)) =
        stream.take c.sizes.sum) ↔
      c.sizes.length ≤ 2 := by
  rw [← read_storeSpans_lagging_iff c.sizes_pos hsum]
  apply forall_congr'
  intro buffer
  rw [piece_ret]

def Reads (s : State World) (i : Nat) (b : Block) (calls : List (ReceiveCall × Cells UInt8)) :
    Prop :=
  ∃ outs s', outputs (receiveStep i) s calls = some (outs, s') ∧
    Intact (undelivered s.world b) outs

theorem reads_cons {s' : State World} {c : ReceiveCall} {buffer : Cells UInt8}
    {calls : List (ReceiveCall × Cells UInt8)} {message : Cells UInt8}
    (h : receiveStep i s (c, buffer) = some ((c.ret, message), s'))
    (hrest : undelivered s'.world b = (undelivered s.world b).drop c.sizes.sum) :
    Reads s i b ((c, buffer) :: calls) ↔
      piece (c.ret, message) = (undelivered s.world b).take c.sizes.sum ∧ Reads s' i b calls := by
  rw [Reads, Reads, outputs_cons h, hrest]
  constructor
  · rintro ⟨outs, t, hout, hint⟩
    obtain ⟨⟨outs', t'⟩, hout', heq⟩ := Option.map_eq_some_iff.mp hout
    cases heq
    obtain ⟨hpiece, hint⟩ := (intact_cons_take (piece_length c _)).mp hint
    exact ⟨hpiece, outs', t', hout', hint⟩
  · rintro ⟨hpiece, outs, t, hout, hint⟩
    refine ⟨_, t, by rw [hout, Option.map_some], ?_⟩
    exact (intact_cons_take (piece_length c _)).mpr ⟨hpiece, hint⟩

theorem reads_iff {calls : List ReceiveCall} (hlive : Live s i ⟨.tcp, b⟩)
    (h : DeliversCalls (undelivered s.world b) calls) :
    (∀ buffers : List (Cells UInt8), buffers.length = calls.length →
      Reads s i b (calls.zip buffers)) ↔ ∀ c ∈ calls, c.sizes.length ≤ 2 := by
  induction calls generalizing s with
  | nil => simp [Reads, outputs, Intact]
  | cons c calls ih =>
      have hsum : c.sizes.sum ≤ (undelivered s.world b).length := by
        rw [ReceiveCall.sizes]
        split
        · exact (h.1 ‹_›).sum_le.2
        · exact Nat.zero_le _
      -- what the later calls return does not depend on the first buffer
      rw [List.forall_mem_cons, ← piece_intact_iff hsum]
      constructor
      · intro hall
        constructor
        · intro buffer
          obtain ⟨s', hstep, -, hrest⟩ := receiveStep_live hlive h.1 buffer
          have hreads := hall (buffer :: List.replicate calls.length buffer) (by simp)
          exact ((reads_cons hstep hrest).mp hreads).1
        · obtain ⟨s', hstep, hlive', hrest⟩ := receiveStep_live hlive h.1 fun _ => 0
          apply (ih hlive' (hrest ▸ h.2)).mp
          intro buffers hlen
          have hreads := hall ((fun _ => 0) :: buffers) (by simp [hlen])
          exact ((reads_cons hstep hrest).mp hreads).2
      · rintro ⟨hhead, htail⟩ buffers hlen
        obtain ⟨buffer, buffers, rfl⟩ := List.exists_cons_of_length_eq_add_one hlen
        obtain ⟨s', hstep, hlive', hrest⟩ := receiveStep_live hlive h.1 buffer
        refine (reads_cons hstep hrest).mpr ⟨hhead buffer, ?_⟩
        exact (ih hlive' (hrest ▸ h.2)).mpr htail buffers (by simpa using hlen)

/-- Every sequence of lxi_receive calls hands over the stream as it is, whatever
their buffers held, if and only if no call receives more than two pieces. -/
theorem receive_intact_iff_two_pieces {calls : List ReceiveCall} (hlive : Live s i ⟨.tcp, b⟩)
    (h : DeliversCalls (undelivered s.world b) calls) :
    (∀ buffers : List (Cells UInt8), buffers.length = calls.length →
      ∃ outs s', outputs (receiveStep i) s (calls.zip buffers) = some (outs, s') ∧
        Intact (undelivered s.world b) outs ∧
        outs.flatMap piece <+: undelivered s.world b) ↔
      ∀ c ∈ calls, c.sizes.length ≤ 2 := by
  rw [← reads_iff hlive h]
  constructor
  · intro hall buffers hlen
    obtain ⟨outs, s', hout, hint, -⟩ := hall buffers hlen
    exact ⟨outs, s', hout, hint⟩
  · intro hall buffers hlen
    obtain ⟨outs, s', hout, hint⟩ := hall buffers hlen
    exact ⟨outs, s', hout, hint, hint.flatMap_prefix⟩

def threeBytes (sizes : List Nat) : ReceiveCall where
  length := ⟨3, by decide⟩
  timeout := 1000
  outcome := ⟨1, sizes.map .count ++ [.count 0]⟩

theorem receive_intact_two_pieces :
    DeliversCalls [1, 2, 3] [threeBytes [2, 1]] ∧
      ∀ buffers : List (Cells UInt8), buffers.length = 1 →
        ∃ outs s', outputs (receiveStep 0) (rawSession [1, 2, 3])
            ([threeBytes [2, 1]].zip buffers) = some (outs, s') ∧
          Intact [1, 2, 3] outs ∧ outs.flatMap piece <+: [1, 2, 3] := by
  have hdelivers : DeliversCalls [1, 2, 3] [threeBytes [2, 1]] := by
    simp [DeliversCalls, Delivers, threeBytes]
  refine ⟨hdelivers, ?_⟩
  exact (receive_intact_iff_two_pieces (rawSession_live [1, 2, 3]) hdelivers).mpr (by decide)

theorem receive_scrambles_three_pieces :
    DeliversCalls [1, 2, 3] [threeBytes [1, 1, 1]] ∧
      (receiveStep 0 (rawSession [1, 2, 3]) (threeBytes [1, 1, 1], fun _ => 0)).map
          (fun x => (x.1.1, read x.1.2 0 3)) = some (3, [1, 3, 0]) ∧
      ¬ ∃ outs s', outputs (receiveStep 0) (rawSession [1, 2, 3])
          [(threeBytes [1, 1, 1], fun _ => 0)] = some (outs, s') ∧
        Intact [1, 2, 3] outs := by
  have hdelivers : DeliversCalls [1, 2, 3] [threeBytes [1, 1, 1]] := by
    simp [DeliversCalls, Delivers, threeBytes]
  refine ⟨hdelivers, by decide, ?_⟩
  intro hreads
  obtain ⟨s', hstep, -, hrest⟩ := receiveStep_live (rawSession_live _) hdelivers.1 fun _ => 0
  have hpiece := ((reads_cons hstep hrest).mp hreads).1
  revert hpiece
  decide

end Receive

end LibLxi.RawReceive

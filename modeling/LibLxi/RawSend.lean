import LibLxi.RawPieces
import LibLxi.Spans

namespace LibLxi.RawSend

open Backends Lxi Memory Platform RawPieces SessionInvariant Spans Tcp

/-- The kernel's side of one send loop: a result is a positive size up to what
was passed, or an error. The last result is an error or completes the message. -/
def Accepts : Nat → List Transfer → Prop
  | _, [] => False
  | _, .error _ :: rest => rest = []
  | size, .count n :: rest =>
      0 < n ∧ n ≤ size ∧ if n = size then rest = [] else Accepts (size - n) rest

/-- What a send loop does with what the kernel accepts: unless an error ends it,
it counts the message right, but takes the pieces one behind the start of the
last one. -/
theorem sendLoop_eq {size : Nat} {results : List Transfer} (h : Accepts size results) (fd : Int)
    (message : Cells UInt8) (n bytesSent : Int) :
    let sent := sendLoop fd message n size bytesSent results
    sent.ret = some (-1) ∧ (∃ e, .error e ∈ results) ∨
      sent.ret = some (bytesSent + size) ∧ (∀ e, .error e ∉ results) ∧
        (pieceSizes results).sum = size ∧
        sent.handed = readSpans message (lagging n (pieceSizes results)) := by
  induction results generalizing size n bytesSent with
  | nil => exact h.elim
  | cons t results ih =>
      cases t with
      | error e => exact .inl ⟨rfl, e, by simp⟩
      | count k =>
          obtain ⟨hpos, hk, h⟩ := h
          by_cases hlast : k = size
          · rw [if_pos hlast] at h
            subst h hlast
            have hone : pieceSizes [.count k] = [k] := pieceSizes_count hpos []
            rw [hone]
            exact .inr ⟨by simp [sendLoop], by simp, by simp, by simp [sendLoop, lagging, readSpans]⟩
          · rw [if_neg hlast] at h
            have hmore : (size : Int) - k > 0 := by omega
            have hsize : ((size - k : Nat) : Int) = size - k := by omega
            have hrest := ih h k (bytesSent + k)
            rw [hsize] at hrest
            simp only [sendLoop, if_pos hmore, pieceSizes_count hpos, List.sum_cons, lagging,
              readSpans_cons]
            rcases hrest with ⟨hr, e, he⟩ | ⟨hr, he, hsum, hhanded⟩
            · exact .inl ⟨hr, e, List.mem_cons_of_mem _ he⟩
            · refine .inr ⟨?_, ?_, ?_, ?_⟩
              · rw [hr]
                congr 1
                omega
              · simpa using he
              · omega
              · rw [hhanded]

section Send

variable {s : State World} {i : Nat} {b : Block}

def Unfailing (o : SendOutcome) : Prop := o.select ≠ -1 ∧ o.select ≠ 0 ∧ ∀ e, .error e ∉ o.results

theorem tcpSend_eq {length : Length} {o : SendOutcome}
    (h : o.select ≠ -1 → o.select ≠ 0 → Accepts length.val o.results) (data : TcpData)
    (message : Cells UInt8) (timeout : Int) :
    let sent := tcpSend data message length.val timeout o
    sent.ret = some (-1) ∧ ¬ Unfailing o ∨
      sent.ret = some (length.val : Int) ∧ Unfailing o ∧ (pieceSizes o.results).sum = length.val ∧
        sent.handed = readSpans message (lagging 0 (pieceSizes o.results)) := by
  by_cases hfail : o.select = -1
  · exact .inl ⟨by simp [tcpSend, hfail], fun hu => hu.1 hfail⟩
  · by_cases htimeout : o.select = 0
    · exact .inl ⟨by simp [tcpSend, htimeout], fun hu => hu.2.1 htimeout⟩
    · simp only [tcpSend, if_neg hfail, if_pos htimeout]
      rcases sendLoop_eq (h hfail htimeout) data.serverSocket message 0 0 with
        ⟨hr, e, he⟩ | ⟨hr, he, hsum, hhanded⟩
      · exact .inl ⟨hr, fun hu => hu.2.2 e he⟩
      · exact .inr ⟨by rw [hr, zero_add], ⟨hfail, htimeout, he⟩, hsum, hhanded⟩

/-- lxi_send on a RAW session returns the length with the message handed over,
whatever it holds, if and only if a send that no error ends takes at most two
pieces. -/
theorem send_intact_iff_two_pieces {length : Length} {o : SendOutcome} (hlive : Live s i ⟨.tcp, b⟩)
    (h : o.select ≠ -1 → o.select ≠ 0 → Accepts length.val o.results) (timeout : Int)
    (reply : Vxi11.WriteReply) :
    (∀ message : Cells UInt8,
      ∃ r s', lxiSend (sendEffect message length timeout o reply) i s = some (r, s') ∧
        (0 ≤ r → r = length.val ∧
          handedOver s'.world b = handedOver s.world b ++ read message 0 length.val)) ↔
      (Unfailing o → (pieceSizes o.results).length ≤ 2) := by
  have hsend (message : Cells UInt8) :
      (∃ r s', lxiSend (sendEffect message length timeout o reply) i s = some (r, s') ∧
        (0 ≤ r → r = length.val ∧
          handedOver s'.world b = handedOver s.world b ++ read message 0 length.val)) ↔
      (Unfailing o → readSpans message (lagging 0 (pieceSizes o.results)) =
        read message 0 (pieceSizes o.results).sum) := by
    rw [lxiSend_live hlive]
    simp only [sendEffect]
    rcases tcpSend_eq h (s.world.tcp b) message timeout with ⟨hr, hfail⟩ | ⟨hr, hu, hsum, hhanded⟩
    · simp [hr, hfail, transferResult, lxiError]
    · simp only [hr, hu, hsum, Option.map_some]
      have hret : transferResult (length.val : Int) = length.val := if_neg (by omega)
      simp [hret, called, handedOver, World.sent, World.tcpEvents, hhanded]
  simp only [hsend]
  exact forall_comm.trans (forall_congr' fun _ => readSpans_lagging_iff (pieceSizes_pos o.results))

def threeWrites (sizes : List Nat) : SendOutcome where
  select := 1
  errno := .again
  results := sizes.map .count

theorem send_intact_two_pieces :
    Accepts 3 (threeWrites [1, 2]).results ∧
      ∀ message : Cells UInt8,
        ∃ r s', lxiSend (sendEffect message ⟨3, by decide⟩ 1000 (threeWrites [1, 2]) default) 0
            (rawSession []) = some (r, s') ∧
          (0 ≤ r → r = 3 ∧ handedOver s'.world 0 = [] ++ read message 0 3) := by
  let length : Length := ⟨3, by decide⟩
  have haccepts : Accepts length.val (threeWrites [1, 2]).results := by
    simp [length, Accepts, threeWrites]
  refine ⟨haccepts, ?_⟩
  exact (send_intact_iff_two_pieces (rawSession_live []) (fun _ _ => haccepts) 1000 default).mpr
    fun _ => by decide

theorem send_scrambles_three_pieces :
    Accepts 3 (threeWrites [1, 1, 1]).results ∧
      ¬ ∃ r s', lxiSend (sendEffect (fun i => UInt8.ofInt i) ⟨3, by decide⟩ 1000
          (threeWrites [1, 1, 1]) default) 0 (rawSession []) = some (r, s') ∧
        (0 ≤ r → r = 3 ∧ handedOver s'.world 0 = [] ++ read (fun i => UInt8.ofInt i) 0 3) := by
  refine ⟨by simp [Accepts, threeWrites], ?_⟩
  rintro ⟨r, s', hsend, hr⟩
  have hsent := congrArg (Option.map fun x => (x.1, handedOver x.2.world 0)) hsend
  obtain ⟨rfl, hhanded⟩ : 3 = r ∧ [0, 1, 1] = handedOver s'.world 0 := by
    rw [← Prod.mk.injEq, ← Option.some.injEq]
    exact hsent
  revert hr
  rw [← hhanded]
  decide

end Send

end LibLxi.RawSend

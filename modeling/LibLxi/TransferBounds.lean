import LibLxi.Tcp

namespace LibLxi.TransferBounds

open Memory Platform Tcp

def span : Event → Option (Int × Int)
  | .send _ pos size | .recv _ pos size _ => some (pos, size)
  | _ => none

def spans (events : List Event) : List (Int × Int) := events.filterMap span

def Inside (length : Nat) (s : Int × Int) : Prop := 0 ≤ s.1 ∧ 0 ≤ s.2 ∧ s.1 + s.2 ≤ length

/-- The results of send calls: an error, or a count up to the size that is
positive if the size is. Only the calls of the loop are looked at. -/
def SendsUpTo : Nat → List Transfer → Prop
  | _, [] | _, .error _ :: _ => True
  | size, .count n :: rest =>
      n ≤ size ∧ (0 < size → 0 < n) ∧ (n < size → SendsUpTo (size - n) rest)

def ReceivesUpTo : Nat → List Transfer → Prop
  | _, [] | _, .error _ :: _ => True
  | size, .count n :: rest => n ≤ size ∧ (0 < n → ReceivesUpTo (size - n) rest)

def amount : Transfer → Nat
  | .count n => n
  | .error _ => 0

def total (results : List Transfer) : Nat := (results.map amount).sum

section Send

variable {message : Cells UInt8} {length size : Nat} {results : List Transfer}

/-- What a send loop does with size bytes to go, in a buffer of the given
length, when the results of its calls are these. -/
structure SendsWithin (message : Cells UInt8) (length size : Nat) (bytesSent : Int)
    (results : List Transfer) (sent : Sent) : Prop where
  reads : ∀ s ∈ spans sent.events, Inside length s
  calls : (spans sent.events).length ≤ max 1 size
  ret : ∀ r, sent.ret = some r → r = bytesSent + size ∨ r = -1
  returns : max 1 size ≤ results.length → sent.ret ≠ none

theorem SendsWithin.turn {fd n bytesSent : Int} {k : Nat} {sent : Sent} (handed : List UInt8)
    (hinside : Inside length (n, size)) (hpos : 0 < k) (hmore : k < size)
    (hnext : SendsWithin message length (size - k) (bytesSent + k) results sent) :
    SendsWithin message length size bytesSent (.count k :: results)
      ⟨sent.ret, handed, .send fd n size :: sent.events⟩ := by
  refine ⟨?_, ?_, ?_, ?_⟩
  · simp only [spans, List.filterMap_cons, span, List.forall_mem_cons]
    exact ⟨hinside, hnext.reads⟩
  · have hcalls := hnext.calls
    simp only [spans, List.filterMap_cons, span, List.length_cons] at hcalls ⊢
    omega
  · intro r hr
    have hret := hnext.ret r hr
    omega
  · intro hlen
    rw [List.length_cons] at hlen
    exact hnext.returns (by omega)

/-- The last piece and what is to go never pass the end together: a piece starts
at the size of the piece before it, which the rest has lost. -/
theorem sendLoop_within (fd : Int) {n : Nat} (bytesSent : Int) (hroom : n + size ≤ length)
    (h : SendsUpTo size results) :
    SendsWithin message length size bytesSent results
      (sendLoop fd message n size bytesSent results) := by
  induction results generalizing size n bytesSent with
  | nil => exact ⟨by simp [sendLoop, spans], by simp [sendLoop, spans], by simp [sendLoop], by simp⟩
  | cons t results ih =>
      have hinside : Inside length ((n : Int), (size : Int)) := by
        refine ⟨?_, ?_, ?_⟩ <;> dsimp only <;> omega
      cases t with
      | error e =>
          refine ⟨?_, ?_, ?_, ?_⟩ <;> simp [sendLoop, spans, span, hinside]
      | count k =>
          obtain ⟨hk, hpos, h⟩ := h
          by_cases hmore : (size : Int) - k > 0
          · have hsize : (size : Int) - k = (size - k : Nat) := by omega
            have hnext := ih (bytesSent + k) (by omega : k + (size - k) ≤ length) (h (by omega))
            rw [sendLoop, if_pos hmore, hsize]
            exact hnext.turn _ hinside (by omega) (by omega)
          · simp only [sendLoop, if_neg hmore]
            refine ⟨?_, ?_, ?_, ?_⟩
            · simpa [spans, span] using hinside
            · simp [spans, span]
            · simp
              omega
            · simp

theorem sendLoop_congr (fd : Int) {message' : Cells UInt8}
    (hsame : ∀ i : Int, 0 ≤ i → i < length → message i = message' i) {n : Nat} (bytesSent : Int)
    (hroom : n + size ≤ length) (h : SendsUpTo size results) :
    sendLoop fd message n size bytesSent results =
      sendLoop fd message' n size bytesSent results := by
  induction results generalizing size n bytesSent with
  | nil => rfl
  | cons t results ih =>
      cases t with
      | error e => rfl
      | count k =>
          obtain ⟨hk, hpos, h⟩ := h
          have hread : read message n k = read message' n k :=
            read_congr fun i hl hu => hsame i (by omega) (by omega)
          by_cases hmore : (size : Int) - k > 0
          · have hsize : (size : Int) - k = (size - k : Nat) := by omega
            have hnext := ih (bytesSent + k) (by omega : k + (size - k) ≤ length) (h (by omega))
            rw [sendLoop, sendLoop, if_pos hmore, if_pos hmore, hsize, hread, hnext]
          · rw [sendLoop, sendLoop, if_neg hmore, if_neg hmore, hread]

end Send

section Receive

variable {message : Cells UInt8} {pending : List UInt8} {length size : Nat} {results : List Transfer}

structure ReceivesWithin (message : Cells UInt8) (length size : Nat) (bytesReceived : Int)
    (results : List Transfer) (received : Received) : Prop where
  writes : ∀ s ∈ spans received.events, Inside length s
  frame : ∀ i : Int, i < 0 ∨ length ≤ i → received.message i = message i
  calls : (spans received.events).length ≤ size + 1
  ret : ∀ r, received.ret = some r →
    r = bytesReceived + total (results.take (spans received.events).length) ∧
      total (results.take (spans received.events).length) ≤ size
  returns : size + 1 ≤ results.length → received.ret ≠ none

theorem ReceivesWithin.turn {fd n bytesReceived : Int} {dontWait : Bool} {k : Nat}
    {stored : Cells UInt8} {received : Received} (hinside : Inside length (n, size)) (hpos : 0 < k)
    (hk : k ≤ size) (hframe : ∀ i : Int, i < 0 ∨ length ≤ i → stored i = message i)
    (hnext : ReceivesWithin stored length (size - k) (bytesReceived + k) results received) :
    ReceivesWithin message length size bytesReceived (.count k :: results)
      { received with events := .recv fd n size dontWait :: received.events } := by
  refine ⟨?_, ?_, ?_, ?_, ?_⟩
  · simp only [spans, List.filterMap_cons, span, List.forall_mem_cons]
    exact ⟨hinside, hnext.writes⟩
  · intro i hi
    rw [hnext.frame i hi, hframe i hi]
  · have hcalls := hnext.calls
    simp only [spans, List.filterMap_cons, span, List.length_cons] at hcalls ⊢
    omega
  · intro r hr
    have hret := hnext.ret r hr
    simp only [spans, List.filterMap_cons, span, List.length_cons, List.take_succ_cons,
      total, List.map_cons, List.sum_cons, amount] at hret ⊢
    omega
  · intro hlen
    rw [List.length_cons] at hlen
    exact hnext.returns (by omega)

theorem receiveLoop_within (fd : Int) (dontWait : Bool) {n : Nat} (bytesReceived : Int)
    (hroom : n + size ≤ length) (h : ReceivesUpTo size results) :
    ReceivesWithin message length size bytesReceived results
      (receiveLoop fd dontWait n size bytesReceived message pending results) := by
  induction results generalizing size n bytesReceived message pending with
  | nil =>
      refine ⟨?_, ?_, ?_, ?_, ?_⟩ <;> simp [receiveLoop, spans]
  | cons t results ih =>
      have hinside : Inside length ((n : Int), (size : Int)) := by
        refine ⟨?_, ?_, ?_⟩ <;> dsimp only <;> omega
      cases t with
      | error e =>
          refine ⟨?_, ?_, ?_, ?_, ?_⟩ <;>
            simp [receiveLoop, spans, span, hinside, total, amount]
      | count k =>
          obtain ⟨hk, h⟩ := h
          have hframe : ∀ i : Int, i < 0 ∨ length ≤ i →
              store message n (pending.take k) i = message i := by
            intro i hi
            have hlen : (pending.take k).length ≤ k := List.length_take_le _ _
            exact store_outside _ _ _ (by omega)
          by_cases hmore : k > 0
          · have hsize : (size : Int) - k = (size - k : Nat) := by omega
            have hnext : ReceivesWithin (store message n (pending.take k)) length (size - k)
                (bytesReceived + k) results
                (receiveLoop fd dontWait k (size - k : Nat) (bytesReceived + k)
                  (store message n (pending.take k)) (pending.drop k) results) :=
              ih (bytesReceived + k) (by omega) (h hmore)
            rw [receiveLoop, if_pos hmore, hsize]
            exact hnext.turn hinside hmore hk hframe
          · simp only [receiveLoop, if_neg hmore]
            refine ⟨?_, hframe, ?_, ?_, ?_⟩
            · simpa [spans, span] using hinside
            · simp [spans, span]
            · simp [spans, span, total, amount]
              omega
            · simp

end Receive

structure SendBounded (data : TcpData) (message : Cells UInt8) (length : Nat) (timeout : Int)
    (o : SendOutcome) : Prop where
  reads : ∀ s ∈ spans (tcpSend data message length timeout o).events, Inside length s
  handed : ∀ message' : Cells UInt8, (∀ i : Int, 0 ≤ i → i < length → message i = message' i) →
    (tcpSend data message' length timeout o).handed = (tcpSend data message length timeout o).handed
  calls : (spans (tcpSend data message length timeout o).events).length ≤ max 1 length
  ret : ∀ r, (tcpSend data message length timeout o).ret = some r → r = length ∨ r = -1
  returns : max 1 length ≤ o.results.length → (tcpSend data message length timeout o).ret ≠ none

structure ReceiveBounded (message : Cells UInt8) (length : Nat) (o : ReceiveOutcome)
    (received : Received) : Prop where
  writes : ∀ s ∈ spans received.events, Inside length s
  frame : ∀ i : Int, i < 0 ∨ length ≤ i → received.message i = message i
  calls : (spans received.events).length ≤ length + 1
  ret : ∀ r, received.ret = some r →
    if o.select = -1 ∨ o.select = 0 then r = -1
    else r = total (o.results.take (spans received.events).length) ∧ 0 ≤ r ∧ r ≤ length
  returns : length + 1 ≤ o.results.length → received.ret ≠ none

theorem spans_waited (fd : Int) (nfds : Int) (tv : Timeval) (events : List Event) :
    spans ([.fdSet fd, .select nfds tv] ++ events) = spans events := rfl

theorem tcpSend_bounded (data : TcpData) (message : Cells UInt8) (length : Nat) (timeout : Int)
    {o : SendOutcome} (h : o.select ≠ -1 → o.select ≠ 0 → SendsUpTo length o.results) :
    SendBounded data message length timeout o := by
  by_cases hfail : o.select = -1
  · constructor <;> simp [tcpSend, hfail, spans, List.filterMap_cons, span]
  · by_cases htimeout : o.select = 0
    · constructor <;> simp [tcpSend, htimeout, spans, List.filterMap_cons, span]
    · have hsent (message : Cells UInt8) : tcpSend data message length timeout o =
          { sendLoop data.serverSocket message 0 length 0 o.results with
            events := [.fdSet data.serverSocket,
              .select (data.serverSocket + 1) (timevalOf timeout)] ++
                (sendLoop data.serverSocket message 0 length 0 o.results).events } := by
        rw [tcpSend, if_neg hfail, if_pos htimeout]
      have hsends := h hfail htimeout
      have hroom : 0 + length ≤ length := by omega
      have hwithin : SendsWithin message length length 0 o.results
          (sendLoop data.serverSocket message 0 length 0 o.results) :=
        sendLoop_within data.serverSocket 0 hroom hsends
      constructor
      · rw [hsent, spans_waited]
        exact hwithin.reads
      · intro message' hsame
        have hloop : (sendLoop data.serverSocket message' 0 length 0 o.results).handed =
            (sendLoop data.serverSocket message 0 length 0 o.results).handed :=
          congrArg Sent.handed (sendLoop_congr data.serverSocket hsame 0 hroom hsends).symm
        rw [hsent, hsent]
        exact hloop
      · rw [hsent, spans_waited]
        exact hwithin.calls
      · rw [hsent]
        intro r hr
        have hret := hwithin.ret r hr
        omega
      · rw [hsent]
        exact hwithin.returns

theorem tcpReceive_bounded (data : TcpData) (message : Cells UInt8) (length : Nat) (timeout : Int)
    (pending : List UInt8) (dontWait : Bool) {o : ReceiveOutcome}
    (h : o.select ≠ -1 → o.select ≠ 0 → ReceivesUpTo length o.results) :
    ReceiveBounded message length o
      (tcpReceive_ data message length timeout pending dontWait o) := by
  by_cases hfail : o.select = -1
  · constructor <;> simp [tcpReceive_, hfail, spans, List.filterMap_cons, span]
  · by_cases htimeout : o.select = 0
    · constructor <;> simp [tcpReceive_, htimeout, spans, List.filterMap_cons, span]
    · have hroom : 0 + length ≤ length := by omega
      have hwithin : ReceivesWithin message length length 0 o.results
          (receiveLoop data.serverSocket dontWait 0 length 0 message pending o.results) :=
        receiveLoop_within data.serverSocket dontWait 0 hroom (h hfail htimeout)
      simp only [tcpReceive_, if_neg hfail, if_pos htimeout]
      constructor
      · rw [spans_waited]
        exact hwithin.writes
      · exact hwithin.frame
      · rw [spans_waited]
        exact hwithin.calls
      · rw [spans_waited]
        intro r hr
        rw [if_neg (by simp [hfail, htimeout])]
        have hret := hwithin.ret r hr
        omega
      · exact hwithin.returns

/-- On every sequence of results that the calls may give, both transfer loops
stay inside the caller's buffer and end. -/
theorem transfers_bounded (data : TcpData) (message : Cells UInt8) (length : Length)
    (timeout : Int) :
    (∀ o : SendOutcome, (o.select ≠ -1 → o.select ≠ 0 → SendsUpTo length.val o.results) →
        SendBounded data message length.val timeout o) ∧
      ∀ (pending : List UInt8) (dontWait : Bool) (o : ReceiveOutcome),
        (o.select ≠ -1 → o.select ≠ 0 → ReceivesUpTo length.val o.results) →
          ReceiveBounded message length.val o
            (tcpReceive_ data message length.val timeout pending dontWait o) := by
  constructor
  · intro o h
    exact tcpSend_bounded data message length.val timeout h
  · intro pending dontWait o h
    exact tcpReceive_bounded data message length.val timeout pending dontWait h

theorem transfers_bounded_pieces :
    SendBounded ⟨3⟩ (fun _ => 7) 5 1000 ⟨1, .again, [.count 1, .count 3, .count 1]⟩ ∧
      ReceiveBounded (fun _ => 0) 5 ⟨1, [.count 2, .count 3, .count 0]⟩
        (tcpReceive_ ⟨3⟩ (fun _ => 0) (5 : Nat) 1000 [1, 2, 3, 4, 5] false
          ⟨1, [.count 2, .count 3, .count 0]⟩) := by
  have h := transfers_bounded ⟨3⟩ (fun _ => 7) ⟨5, by decide⟩ 1000
  have h' := transfers_bounded ⟨3⟩ (fun _ => 0) ⟨5, by decide⟩ 1000
  constructor
  · exact h.1 _ fun _ _ => by simp [SendsUpTo]
  · exact h'.2 _ _ _ fun _ _ => by simp [ReceivesUpTo]

end LibLxi.TransferBounds

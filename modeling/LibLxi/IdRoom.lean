import LibLxi.ReadOverrun
import LibLxi.XmlFallback

namespace LibLxi.IdRoom

open DeviceId IdBounds Memory ProbeExits Tracing XmlFallback
open ReadLoop (Answered placed)
open ReadOverrun (Fits StoresWithin)

def replyText (timeout : Int) (o : ProbeOutcome) (n : Nat) : List UInt8 :=
  read (idReply timeout (fun _ => 0) o).message 0 n

def Asked (timeout : Int) (o : ProbeOutcome) : Prop :=
  0 ≤ (Vxi11.vxi11Connect o.data none timeout o.connect).1 ∧ 0 ≤ sentLength timeout o

/-- A host for which id has room: its reply leaves a byte for the zero and is not
a lone newline, and what its document identifies it with is not longer. -/
structure Roomy (timeout : Int) (o : ProbeOutcome) : Prop where
  replies : Asked timeout o → Fits idLengthMax o.replies
  text : ∀ n : Nat, Replies timeout o n → n < idLengthMax ∧ replyText timeout o n ≠ [newline]
  values : Replies timeout o 0 → Transfers timeout o →
    ∀ text, cString (httpReceived timeout o).message 0 o.mapped = some text → xmlDecl <:+: text →
      ∀ doc, o.doc = some doc → (joined (pieces doc)).length < idLengthMax

section Text

variable {client : Option Vxi11.Client} {parms : Vxi11.DeviceReadParms} {length pos n : Nat}
  {replies : List Vxi11.ReadReply} {m m' : Cells UInt8}

/-- What a receive returns depends on its buffer only in front of its data. -/
theorem receiveLoop_text (hlength : length < 2 ^ 31) (hpos : pos ≤ length)
    (hfits : Fits (length - pos) replies) (h : read m 0 pos = read m' 0 pos)
    (hret : (Vxi11.receiveLoop client parms length pos pos m replies).ret = some (n : Int)) :
    read (Vxi11.receiveLoop client parms length pos pos m replies).message 0 n =
      read (Vxi11.receiveLoop client parms length pos pos m' replies).message 0 n := by
  induction replies generalizing pos m m' with
  | nil => cases hret
  | cons reply replies ih =>
      obtain ⟨hroom, hrest⟩ := hfits
      have hreply : pos + reply.dataLen ≤ length := by omega
      by_cases hans : Answered reply
      · have hstored : read (store m pos reply.resp.data.bytes) 0 (pos + reply.dataLen) =
            read (store m' pos reply.resp.data.bytes) 0 (pos + reply.dataLen) := by
          rw [Vxi11.ReadReply.dataLen, read_store_behind, read_store_behind, h]
        rw [ReadLoop.receiveLoop_fits hlength hans hreply] at hret ⊢
        rw [ReadLoop.receiveLoop_fits hlength hans hreply]
        by_cases h0 : reply.resp.reason = 0
        · simp only [h0, if_true] at hret ⊢
          exact ih hreply (by rw [← Nat.sub_sub]; exact hrest hans h0) hstored hret
        · simp only [h0, if_false, Option.some.injEq, Nat.cast_inj] at hret ⊢
          rw [← hret]
          exact hstored
      · have hfailed : (Vxi11.receiveLoop client parms length pos pos m (reply :: replies)).ret =
            some (-1) := by
          obtain ⟨errors, hrefused⟩ := ReadLoop.receiveLoop_refused hans pos client parms m replies
          rw [hrefused]
        rw [hfailed, Option.some.injEq] at hret
        omega

end Text

theorem rpc_inside_iff (events : List Vxi11.Event) :
    (∀ e ∈ events.map Event.rpc, Inside e) ↔ StoresWithin idLengthMax events := by
  rw [List.forall_mem_map]
  constructor
  · rintro h s hs
    obtain ⟨e, he, hplaced⟩ := List.mem_filterMap.mp hs
    cases e <;> cases hplaced
    exact h _ he
  · intro h e he
    cases e with
    | deviceRead client parms dataVal dataLen =>
        exact h (dataVal, dataLen) (List.mem_filterMap.mpr ⟨_, he, rfl⟩)
    | _ => trivial

section Calls

variable {α : Type} {events : List Vxi11.Event} {k : Unit → Probe α}

theorem unread_inside (h : ∀ e ∈ events, Inside (.rpc e)) :
    Only Inside (rpc events >>= k) ↔ Only Inside (k ()) :=
  only_emits_bind.trans (and_iff_right (List.forall_mem_map.mpr h))

theorem connect_inside (data : Vxi11.Vxi11Data) (timeout : Int) (o : Vxi11.ConnectOutcome) :
    ∀ e ∈ (Vxi11.vxi11Connect data none timeout o).2.2, Inside (.rpc e) := by
  have hlink : ∀ e ∈ (Vxi11._vxi11Connect data none o.link).2.2, Inside (.rpc e) := by
    rw [Vxi11._vxi11Connect]
    split
    · simp [Inside, Within]
    · split_ifs <;> simp [Inside, Within]
  rw [Vxi11.vxi11Connect]
  split_ifs
  · exact List.forall_mem_singleton.mpr trivial
  · exact List.forall_mem_singleton.mpr trivial
  · exact List.forall_mem_cons.mpr ⟨trivial, fun e he => hlink e (List.mem_of_mem_take he)⟩
  · exact List.forall_mem_cons.mpr ⟨trivial, hlink⟩

theorem send_inside (data : Vxi11.Vxi11Data) (message : Cells UInt8) (length : Nat) (timeout : Int)
    (reply : Vxi11.WriteReply) :
    ∀ e ∈ (Vxi11.vxi11Send data message length timeout reply).2, Inside (.rpc e) := by
  rw [Vxi11.vxi11Send]
  split_ifs <;> exact List.forall_mem_singleton.mpr trivial

theorem disconnect_inside (data : Vxi11.Vxi11Data) :
    ∀ e ∈ (Vxi11.vxi11Disconnect data).2, Inside (.rpc e) :=
  List.forall_mem_cons.mpr ⟨trivial, List.forall_mem_singleton.mpr trivial⟩

theorem linkError_inside (data : Vxi11.Vxi11Data) (id : Cells UInt8) :
    Only Inside (linkError data id) :=
  (unread_inside (disconnect_inside data)).mpr (only_pure _)

end Calls

variable {timeout : Int} {id : Cells UInt8} {o : ProbeOutcome}

theorem idReply_inside_iff (timeout : Int) (id : Cells UInt8) (o : ProbeOutcome) :
    (∀ e ∈ (idReply timeout id o).events.map Event.rpc, Inside e) ↔ Fits idLengthMax o.replies := by
  have hlength : idLengthMax < 2 ^ 31 := by decide
  rw [rpc_inside_iff]
  constructor
  · intro h
    exact ReadOverrun.fits_of_storesWithin _ _ id hlength (Nat.zero_le _) h
  · intro h
    exact (ReadOverrun.receiveLoop_withinRoom _ _ id hlength (Nat.zero_le _) h).stores

theorem replyText_eq {n : Nat} (hfits : Fits idLengthMax o.replies) (h : Replies timeout o n)
    (id : Cells UInt8) : read (idReply timeout id o).message 0 n = replyText timeout o n :=
  receiveLoop_text (by decide) (Nat.zero_le _) hfits rfl (h.received_id id)

def rpcCall : Event → Option Vxi11.Event
  | .rpc e => some e
  | _ => none

theorem inside_iff_within {n : Nat} (hn : 0 < n) :
    Only Inside (finishId timeout n id o) ↔ Only Within (finishId timeout n id o) := by
  have hquiet : Quiet rpcCall (finishId timeout n id o) :=
    ProbeEvents.finishId_quiet_of_pos (fun _ _ => rfl) (fun _ => rfl) timeout
      (Int.natCast_pos.mpr hn) id o
  refine forall₂_congr fun e he => ?_
  cases e with
  | rpc e => cases List.filterMap_eq_nil_iff.mp hquiet _ he
  | _ => exact Iff.rfl

theorem finishId_inside_iff (timeout : Int) (n : Nat) (id : Cells UInt8) (o : ProbeOutcome) :
    Only Inside (finishId timeout n id o) ↔
      (n < idLengthMax ∧ read id 0 n ≠ [newline]) ∧
        (n = 0 → Transfers timeout o →
          ∀ text, cString (httpReceived timeout o).message 0 o.mapped = some text →
            xmlDecl <:+: text → ∀ doc, o.doc = some doc →
              (joined (pieces doc)).length < idLengthMax) := by
  rcases Nat.eq_zero_or_pos n with rfl | hn
  · have hstore : Inside (.storeId (0 : Nat) [0]) := by
      simp [Inside, Within, idLengthMax]
    have hempty : 0 < idLengthMax ∧ read id 0 0 ≠ [newline] := ⟨Nat.succ_pos _, by simp⟩
    rw [and_iff_right hempty, forall_prop_of_true rfl, finishId, ProbeEvents.storeId_bind, Only,
      List.forall_mem_cons, and_iff_right hstore]
    exact httpFallback_inside_iff timeout _ o
  · rw [inside_iff_within hn, and_iff_left fun h => absurd h hn.ne']
    exact ⟨fun h => fits_of_within hn h, fun h => (bounded_of_fits hn h.1 h.2).within⟩

theorem roomy_unreplied (h : ∀ n : Nat, ¬ Replies timeout o n) :
    Roomy timeout o ↔ (Asked timeout o → Fits idLengthMax o.replies) := by
  constructor
  · intro hroomy
    exact hroomy.replies
  · intro hfits
    exact ⟨hfits, fun n hn => absurd hn (h n), fun h0 => absurd h0 (h 0)⟩

theorem roomy_replies {n : Nat} (h : Replies timeout o n) :
    Roomy timeout o ↔ Fits idLengthMax o.replies ∧
      (n < idLengthMax ∧ replyText timeout o n ≠ [newline]) ∧
        (n = 0 → Transfers timeout o →
          ∀ text, cString (httpReceived timeout o).message 0 o.mapped = some text →
            xmlDecl <:+: text → ∀ doc, o.doc = some doc →
              (joined (pieces doc)).length < idLengthMax) := by
  constructor
  · intro hroomy
    refine ⟨hroomy.replies ⟨h.connected, h.sent⟩, hroomy.text n h, ?_⟩
    rintro rfl
    exact hroomy.values h
  · rintro ⟨hfits, htext, hvalues⟩
    have hone {k : Nat} (hk : Replies timeout o k) : k = n := by
      have hret := hk.received.symm.trans h.received
      rw [Option.some.injEq, Nat.cast_inj] at hret
      exact hret
    refine ⟨fun _ => hfits, fun k hk => ?_, fun h0 => hvalues (hone h0).symm⟩
    rw [hone hk]
    exact htext

theorem receiveId_inside_iff (hasked : Asked timeout o) (id : Cells UInt8) :
    Only Inside (receiveId timeout (linkData timeout o) id o) ↔ Roomy timeout o := by
  have hreceive : receiveId timeout (linkData timeout o) id o = (do
      rpc (idReply timeout id o).events
      let length ← need .waiting (idReply timeout id o).ret
      if length < 0 then linkError (linkData timeout o) (idReply timeout id o).message
      else
        rpc (Vxi11.vxi11Disconnect (linkData timeout o)).2
        finishId timeout length (idReply timeout id o).message o) := rfl
  rw [hreceive, rpc, only_emits_bind, idReply_inside_iff]
  cases hret : (idReply timeout id o).ret with
  | none =>
      rw [need_none_bind, and_iff_left (only_stop _), roomy_unreplied, forall_prop_of_true hasked]
      intro n h
      cases (h.received_id id).symm.trans hret
  | some length =>
      rw [need_some, pure_bind]
      split_ifs with hfailed
      · rw [and_iff_left (linkError_inside _ _), roomy_unreplied, forall_prop_of_true hasked]
        intro n h
        cases (h.received_id id).symm.trans hret
        omega
      · obtain ⟨n, rfl⟩ := Int.eq_ofNat_of_zero_le (Int.not_lt.mp hfailed)
        have hreplies : Replies timeout o n :=
          ⟨hasked.1, hasked.2, (idReply_ret timeout _ id o).trans hret⟩
        rw [unread_inside (disconnect_inside _), roomy_replies hreplies]
        refine and_congr_right fun hfits => ?_
        rw [← replyText_eq hfits hreplies id]
        exact finishId_inside_iff timeout n _ o

/-- A probe keeps to id if and only if the host it probes leaves it room. -/
theorem getDeviceId_inside_iff (timeout : Int) (id : Cells UInt8) (o : ProbeOutcome) :
    Only Inside (getDeviceId timeout id o) ↔ Roomy timeout o := by
  rw [getDeviceId]
  simp only
  rw [unread_inside (connect_inside _ _ _)]
  split_ifs with hconnected hsent
  · refine iff_of_true (only_pure _) ?_
    rw [roomy_unreplied fun n h => absurd h.connected (Int.not_le.mpr hconnected)]
    exact fun h => absurd h.1 (Int.not_le.mpr hconnected)
  · rw [unread_inside (send_inside _ _ _ _ _)]
    refine iff_of_true (linkError_inside _ id) ?_
    rw [roomy_unreplied fun n h => absurd h.sent (Int.not_le.mpr hsent)]
    exact fun h => absurd h.2 (Int.not_le.mpr hsent)
  · rw [unread_inside (send_inside _ _ _ _ _)]
    exact receiveId_inside_iff ⟨Int.not_lt.mp hconnected, Int.not_lt.mp hsent⟩ id

end LibLxi.IdRoom

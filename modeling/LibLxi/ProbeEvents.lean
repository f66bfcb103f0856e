import LibLxi.DeviceId

namespace LibLxi.ProbeEvents

open DeviceId Memory Tracing

variable {β : Type}

/-- An observer who notices nothing of what a probe does besides its calls of
the RPC library and of the TCP backend. -/
structure Blind (f : Event → Option β) : Prop where
  readId : ∀ index, f (.readId index) = none
  storeId : ∀ index bs, f (.storeId index bs) = none
  freopen : ∀ path, f (.freopen path) = none
  scan : ∀ cells, f (.scan cells) = none
  recover : ∀ buffer, f (.recover buffer) = none

theorem storeId_bind {α : Type} {id : Cells UInt8} {index : Int} {bs : List UInt8}
    {k : Cells UInt8 → Probe α} :
    (storeId id index bs >>= k) =
      ⟨.storeId index bs :: (k (store id index bs)).events, (k (store id index bs)).result⟩ := rfl

variable {f : Event → Option β}

theorem getDeviceId_events (timeout : Int) (id : Cells UInt8) (o : ProbeOutcome) :
    (getDeviceId timeout id o).events ≠ [] := by
  have hconnect : (Vxi11.vxi11Connect o.data none timeout o.connect).2.2 ≠ [] := by
    rw [Vxi11.vxi11Connect]
    split_ifs <;> simp
  obtain ⟨e, he⟩ := List.exists_mem_of_ne_nil _ hconnect
  rw [getDeviceId]
  exact List.ne_nil_of_mem (mem_bind_left (List.mem_map_of_mem he))

theorem getElementValue_quiet (doc : XmlDoc) (element : String) :
    Quiet f (getElementValue doc element) :=
  (quiet_need _ _).bind fun _ => quiet_pure _

section Stores

variable (hstore : ∀ index bs, f (.storeId index bs) = none)

include hstore

theorem storeId_quiet (id : Cells UInt8) (index : Int) (bs : List UInt8) :
    Quiet f (storeId id index bs) :=
  (quiet_emit (hstore _ _)).bind fun _ => quiet_pure _

theorem strcat_quiet (value : Option (List UInt8)) (id : Nat × Cells UInt8) :
    Quiet f (strcat value id) :=
  (quiet_need _ _).bind fun _ => (storeId_quiet hstore _ _ _).bind fun _ => quiet_pure _

theorem element_quiet {doc : XmlDoc} {element : String} {id : Nat × Cells UInt8}
    {α : Type} {k : Nat × Cells UInt8 → Probe α} (hk : ∀ id, Quiet f (k id)) :
    Quiet f (getElementValue doc element >>= fun value => strcat value id >>= k) :=
  (getElementValue_quiet _ _).bind fun _ => (strcat_quiet hstore _ _).bind hk

theorem assembleId_quiet (doc : XmlDoc) (id : Cells UInt8) : Quiet f (assembleId doc id) := by
  apply (storeId_quiet hstore _ _ _).bind
  intro _
  apply element_quiet hstore
  intro _
  apply (strcat_quiet hstore _ _).bind
  intro _
  apply element_quiet hstore
  intro _
  apply (strcat_quiet hstore _ _).bind
  intro _
  apply element_quiet hstore
  intro _
  apply (strcat_quiet hstore _ _).bind
  intro _
  apply element_quiet hstore
  intro _
  exact quiet_pure _

variable (hread : ∀ index, f (.readId index) = none)

include hread

theorem strip_quiet (c : UInt8) (length : Int) (id : Cells UInt8) :
    Quiet f (strip c length id) := by
  apply (quiet_emit (hread _)).bind
  intro _
  apply quiet_ite
  · exact (storeId_quiet hstore _ _ _).bind fun _ => quiet_pure _
  · exact quiet_pure _

theorem finishId_quiet_of_pos (timeout : Int) {length : Int} (hlength : 0 < length)
    (id : Cells UInt8) (o : ProbeOutcome) : Quiet f (finishId timeout length id o) := by
  rw [finishId]
  apply (storeId_quiet hstore _ _ _).bind
  intro _
  rw [if_pos hlength]
  exact (strip_quiet hstore hread _ _ _).bind fun _ =>
    (strip_quiet hstore hread _ _ _).bind fun _ => quiet_pure _

end Stores

theorem findXml_quiet (hf : Blind f) (response : Cells UInt8) (mapped : Nat) :
    Quiet f (findXml response mapped) := by
  rw [findXml]
  cases cString response 0 mapped with
  | none => exact (quiet_emit (hf.scan _)).bind fun _ => quiet_stop _
  | some text => exact (quiet_emit (hf.scan _)).bind fun _ => quiet_pure _

theorem xmlError_quiet (hf : Blind f) (id : Cells UInt8) : Quiet f (xmlError id) :=
  (quiet_emit (hf.freopen _)).bind fun _ => quiet_pure _

/-- Of the fallback only the HTTP exchange is noticed. -/
theorem httpFallback_seen (hf : Blind f) (timeout : Int) (id : Cells UInt8) (o : ProbeOutcome) :
    (httpFallback timeout id o).events.filterMap f =
      (fetchXml timeout o).events.filterMap f := by
  rw [httpFallback, emit_bind, List.filterMap_cons, hf.freopen]
  apply filterMap_bind
  intro response
  apply (findXml_quiet hf _ _).bind
  intro xml
  cases xml with
  | none => exact xmlError_quiet hf id
  | some xml =>
      apply (quiet_emit (hf.recover _)).bind
      intro _
      cases o.doc with
      | none => exact xmlError_quiet hf id
      | some doc => exact (assembleId_quiet hf.storeId _ _).bind fun _ => quiet_pure _

theorem storeId_bind_seen (hf : Blind f) {id : Cells UInt8} {index : Int} {bs : List UInt8}
    {α : Type} {k : Cells UInt8 → Probe α} :
    (storeId id index bs >>= k).events.filterMap f =
      (k (store id index bs)).events.filterMap f := by
  rw [storeId_bind, List.filterMap_cons, hf.storeId]

theorem finishId_seen (hf : Blind f) (timeout length : Int) (id : Cells UInt8) (o : ProbeOutcome) :
    (finishId timeout length id o).events.filterMap f =
      if length > 0 then [] else (fetchXml timeout o).events.filterMap f := by
  split_ifs with hlength
  · exact finishId_quiet_of_pos hf.storeId hf.readId timeout hlength id o
  · rw [finishId, storeId_bind_seen hf, if_neg hlength]
    exact httpFallback_seen hf _ _ _

theorem rpc_bind_seen {α : Type} {events : List Vxi11.Event} {k : Unit → Probe α} :
    (rpc events >>= k).events.filterMap f =
      events.filterMap (fun e => f (.rpc e)) ++ (k ()).events.filterMap f := by
  rw [rpc, emits_bind, List.filterMap_append, List.filterMap_map]
  rfl

theorem tcp_bind_seen {α : Type} {events : List Tcp.Event} {k : Unit → Probe α} :
    (tcp events >>= k).events.filterMap f =
      events.filterMap (fun e => f (.tcp e)) ++ (k ()).events.filterMap f := by
  rw [tcp, emits_bind, List.filterMap_append, List.filterMap_map]
  rfl

theorem getDeviceId_seen (hf : Blind f) (hrpc : ∀ e, f (.rpc e) = none) (timeout : Int)
    (id : Cells UInt8) (o : ProbeOutcome) :
    (getDeviceId timeout id o).events.filterMap f = [] ∨
      (getDeviceId timeout id o).events.filterMap f = (fetchXml timeout o).events.filterMap f := by
  have hnone (events : List Vxi11.Event) : events.filterMap (fun e => f (.rpc e)) = [] := by
    simp [hrpc]
  have hlink (data : Vxi11.Vxi11Data) (id : Cells UInt8) : Quiet f (linkError data id) := by
    rw [Quiet, linkError, rpc_bind_seen, hnone]
    rfl
  rw [getDeviceId]
  simp only
  rw [rpc_bind_seen, hnone, List.nil_append]
  split_ifs
  · exact .inl rfl
  · rw [rpc_bind_seen, hnone, List.nil_append]
    exact .inl (hlink _ _)
  rw [rpc_bind_seen, hnone, List.nil_append, receiveId, rpc_bind_seen, hnone, List.nil_append]
  rcases (quiet_need _ _).filterMap_bind with h | ⟨length, -, h⟩
  · exact .inl h
  rw [h]
  split_ifs
  · exact .inl (hlink _ _)
  rw [rpc_bind_seen, hnone, List.nil_append, finishId_seen hf]
  split_ifs
  · exact .inl rfl
  · exact .inr rfl

end LibLxi.ProbeEvents

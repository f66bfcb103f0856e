import LibLxi.IdRoom
import LibLxi.InterfaceSearch

namespace LibLxi.DiscoverAnswers

open DeviceId (ProbeOutcome getDeviceId idLengthMax)
open IdBounds (Inside)
open IdRoom (Roomy getDeviceId_inside_iff)
open ProbeEvents (getDeviceId_events)
open Discover Info InterfaceSearch Memory ProbeExits Tracing

/-- What an application and the answering hosts see of a search. -/
def visible : Event → Option (DeviceId.Event ⊕ Callback)
  | .probe e => some (.inl e)
  | .callback c => some (.inr c)
  | _ => none

def due (info : LxiInfo) (d : Datagram) (found : Int × Cells UInt8) : List Callback :=
  if found.1 = 0 ∧ info.device then [.device (inetNtoa d.sender) found.2] else []

/-- The sender of every datagram is probed in order without an access outside of
id, and each probe that returns is followed by the callback due for it. Only the
last probe may fail to return. -/
def Handled (info : LxiInfo) (timeout : Int) :
    Cells UInt8 → List Datagram → List (DeviceId.Event ⊕ Callback) → Prop
  | _, [], seen => seen = []
  | id, d :: ds, seen =>
      ∃ rest, seen = (getDeviceId timeout id d.probe).events.map .inl ++ rest ∧
        Only Inside (getDeviceId timeout id d.probe) ∧
        match (getDeviceId timeout id d.probe).result with
        | .error _ => ds = [] ∧ rest = []
        | .ok found => ∃ rest', rest = (due info d found).map .inr ++ rest' ∧
            Handled info timeout found.2 ds rest'

def Returns (timeout : Int) (o : ProbeOutcome) : Prop :=
  ∃ id found, (getDeviceId timeout id o).result = .ok found

theorem returns_iff {timeout : Int} {o : ProbeOutcome} (id : Cells UInt8) :
    Returns timeout o ↔ ∃ found, (getDeviceId timeout id o).result = .ok found := by
  constructor
  · rintro ⟨id', h⟩
    rw [← fate_eq_none, getDeviceId_fate timeout id id', fate_eq_none]
    exact h
  · rintro ⟨found, h⟩
    exact ⟨id, found, h⟩

/-- No datagram is empty, id has room for what every sender replies, and every
probe but the last one returns. -/
def Answerable (timeout : Int) (ds : List Datagram) : Prop :=
  (∀ d ∈ ds, 0 < d.size ∧ Roomy timeout d.probe) ∧ ∀ d ∈ ds.dropLast, Returns timeout d.probe

section Loop

variable {info : LxiInfo} {timeout fd : Int} {id : Cells UInt8} {d : Datagram} {ds : List Datagram}

def seen (info : LxiInfo) (timeout fd : Int) (id : Cells UInt8) (ds : List Datagram) :
    List (DeviceId.Event ⊕ Callback) :=
  (receiveLoop info timeout fd id ds).events.filterMap visible

theorem seen_empty (hsize : ¬ 0 < d.size) : seen info timeout fd id (d :: ds) = [] := by
  rw [seen, receiveLoop, if_neg (mt count_pos.mp hsize)]
  rfl

theorem filterMap_probe (events : List DeviceId.Event) :
    (events.map Event.probe).filterMap visible = events.map .inl := by
  simp [List.filterMap_map, Function.comp_def, visible]

theorem notify_visible (found : Int × Cells UInt8) :
    (notify (found.1 == 0 && info.device) (.device (inetNtoa d.sender) found.2)).events.filterMap
        visible = (due info d found).map .inr := by
  rw [notify, due]
  by_cases h : found.1 = 0 ∧ info.device
  · rw [if_pos (by simpa using h), if_pos h]
    rfl
  · rw [if_neg (by simpa using h), if_neg h]
    rfl

theorem seen_unreturned (hsize : 0 < d.size) {r : DeviceId.Stop}
    (h : (getDeviceId timeout id d.probe).result = .error r) :
    seen info timeout fd id (d :: ds) =
      (getDeviceId timeout id d.probe).events.map .inl := by
  rw [seen, receiveLoop_unreturned (count_pos.mpr hsize) h]
  exact filterMap_probe _

theorem seen_returned (hsize : 0 < d.size) {found : Int × Cells UInt8}
    (h : (getDeviceId timeout id d.probe).result = .ok found) :
    seen info timeout fd id (d :: ds) =
      (getDeviceId timeout id d.probe).events.map .inl ++
        ((due info d found).map .inr ++ seen info timeout fd found.2 ds) := by
  rw [seen, receiveLoop_returned (count_pos.mpr hsize) h]
  simp only [List.filterMap_cons, visible, List.filterMap_append, filterMap_probe, notify_visible]
  rfl

theorem handled_unreturned_iff {r : DeviceId.Stop}
    (h : (getDeviceId timeout id d.probe).result = .error r) :
    Handled info timeout id (d :: ds) ((getDeviceId timeout id d.probe).events.map .inl) ↔
      Roomy timeout d.probe ∧ ds = [] := by
  rw [Handled, h, getDeviceId_inside_iff]
  constructor
  · rintro ⟨rest, -, hroomy, hlast, -⟩
    exact ⟨hroomy, hlast⟩
  · rintro ⟨hroomy, hlast⟩
    exact ⟨[], (List.append_nil _).symm, hroomy, hlast, rfl⟩

theorem handled_returned_iff {found : Int × Cells UInt8}
    (h : (getDeviceId timeout id d.probe).result = .ok found)
    {rest : List (DeviceId.Event ⊕ Callback)} :
    Handled info timeout id (d :: ds) ((getDeviceId timeout id d.probe).events.map .inl ++
        ((due info d found).map .inr ++ rest)) ↔
      Roomy timeout d.probe ∧ Handled info timeout found.2 ds rest := by
  rw [Handled, h, getDeviceId_inside_iff]
  constructor
  · rintro ⟨rest', hrest, hroomy, rest'', hcalls, hhandled⟩
    rw [← List.append_cancel_left hrest] at hcalls
    rw [List.append_cancel_left hcalls]
    exact ⟨hroomy, hhandled⟩
  · rintro ⟨hroomy, hhandled⟩
    exact ⟨_, rfl, hroomy, rest, rfl, hhandled⟩

theorem answerable_singleton :
    Answerable timeout [d] ↔ 0 < d.size ∧ Roomy timeout d.probe := by simp [Answerable]

theorem answerable_cons (hds : ds ≠ []) :
    Answerable timeout (d :: ds) ↔
      (0 < d.size ∧ Roomy timeout d.probe) ∧ Returns timeout d.probe ∧ Answerable timeout ds := by
  rw [Answerable, Answerable, List.dropLast_cons_of_ne_nil hds, List.forall_mem_cons,
    List.forall_mem_cons]
  tauto

theorem seen_handled_iff :
    Handled info timeout id ds (seen info timeout fd id ds) ↔ Answerable timeout ds := by
  induction ds generalizing id with
  | nil => exact iff_of_true rfl ⟨by simp, by simp⟩
  | cons d ds ih =>
      by_cases hsize : 0 < d.size
      · cases h : (getDeviceId timeout id d.probe).result with
        | error r =>
            rw [seen_unreturned hsize h, handled_unreturned_iff h]
            constructor
            · rintro ⟨hroomy, rfl⟩
              exact answerable_singleton.mpr ⟨hsize, hroomy⟩
            · intro hds
              refine ⟨(hds.1 d List.mem_cons_self).2, ?_⟩
              by_contra hlast
              obtain ⟨-, hreturns, -⟩ := (answerable_cons hlast).mp hds
              obtain ⟨found, hfound⟩ := (returns_iff id).mp hreturns
              cases h.symm.trans hfound
        | ok found =>
            rw [seen_returned hsize h, handled_returned_iff h, ih]
            by_cases hlast : ds = []
            · subst hlast
              have hnone : Answerable timeout [] := ⟨by simp, by simp⟩
              rw [answerable_singleton, and_iff_left hnone, and_iff_right hsize]
            · rw [answerable_cons hlast]
              have hreturns : Returns timeout d.probe := ⟨id, found, h⟩
              rw [and_iff_right hsize, and_iff_right hreturns]
      · rw [seen_empty hsize]
        refine iff_of_false ?_ fun hds => hsize (hds.1 d List.mem_cons_self).1
        rintro ⟨rest, hseen, -⟩
        have hnone : (getDeviceId timeout id d.probe).events.map Sum.inl = [] :=
          (List.append_eq_nil_iff.mp hseen.symm).1
        exact getDeviceId_events timeout id d.probe (List.map_eq_nil_iff.mp hnone)

end Loop

def answered (sizes : List Nat) : Ifaddrs where
  name := some "eth0"
  addr := some Tcp.afInet
  broadaddr := some 0xff01a8c0
  search := ⟨3, 0, 0, fun _ => 0, sizes.map fun size =>
    ⟨size, 0x0a01a8c0, instrument ⟨[0x41, 0x0a], by decide⟩⟩⟩

theorem answered_prepared (sizes : List Nat) : Prepared (answered sizes) := by
  refine ⟨?_, ?_, ?_⟩ <;> simp [answered]

theorem instrument_returns : Returns 1000 (instrument ⟨[0x41, 0x0a], by decide⟩) :=
  ⟨fun _ => 0, _, rfl⟩

theorem instrument_roomy : Roomy 1000 (instrument ⟨[0x41, 0x0a], by decide⟩) := by
  have hret : (ProbeExits.idReply 1000 (fun _ => 0) (instrument ⟨[0x41, 0x0a], by decide⟩)).ret =
      some ((2 : Nat) : Int) := rfl
  refine ⟨fun _ => ⟨by decide, fun _ h => absurd h (by decide)⟩, fun n h => ?_, fun h => ?_⟩
  · have hn := hret.symm.trans h.received
    rw [Option.some.injEq, Nat.cast_inj] at hn
    subst hn
    exact ⟨by decide, by decide⟩
  · cases hret.symm.trans h.received

end LibLxi.DiscoverAnswers

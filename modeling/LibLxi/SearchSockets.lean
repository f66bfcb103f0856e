import LibLxi.DiscoverCalls
import LibLxi.Machine
import LibLxi.ProbeEvents
import LibLxi.RawSockets
import LibLxi.TracedUses

namespace LibLxi.SearchSockets

open DeviceId (ProbeOutcome fetchXml getDeviceId)
open Discover hiding receiveLoop
open Descriptors DiscoverCalls Info InterfaceSearch Machine ProbeEvents TracedUses Tracing
open RawSockets hiding step uses
open Tcp hiding Event

def probeUse : DeviceId.Event → Option (Use Int)
  | .tcp e => tcpUse e
  | _ => none

def use : Event → Option (Use Int)
  | .socket fd => if fd = -1 then none else some (.opened fd)
  | .probe e => probeUse e
  | _ => none

def uses (events : List Event) : List (Use Int) := events.filterMap use

def Valid (fd : Int) : Prop := 0 ≤ fd

theorem tcp_bind_uses {α : Type} {events : List Tcp.Event} {k : Unit → DeviceId.Probe α} :
    (DeviceId.tcp events >>= k).events.filterMap probeUse =
      events.filterMap tcpUse ++ (k ()).events.filterMap probeUse := tcp_bind_seen

theorem fetchXml_uses (timeout : Int) (o : ProbeOutcome) :
    ∃ rest : List (Use Int), (rest = [] ∨ rest = [.closed o.tcpConnect.socket]) ∧
      (fetchXml timeout o).events.filterMap probeUse =
        (tcpConnect DeviceId.portHttp timeout o.tcpConnect).2.2.filterMap tcpUse ++ rest := by
  rw [fetchXml]
  simp only
  rw [tcp_bind_uses]
  refine ⟨_, ?_, rfl⟩
  rw [tcp_bind_uses, (tcpSend_observed _ _ _ _ _).1, List.nil_append]
  rcases (quiet_need _ _).filterMap_bind with h | ⟨_, -, h⟩
  · exact .inl h
  rw [h, tcp_bind_uses, tcpReceiveWait, (tcpReceive_observed _ _ _ _ _ _ _).1, List.nil_append]
  rcases (quiet_need _ _).filterMap_bind with h | ⟨_, -, h⟩
  · exact .inl h
  refine .inr (h.trans ?_)
  rw [tcp_bind_uses, tcpConnect_data]
  rfl

theorem fetchXml_tidy (timeout : Int) (o : ProbeOutcome) :
    ClosesOwn Valid ∅ ((fetchXml timeout o).events.filterMap probeUse) := by
  obtain ⟨rest, hrest, huses⟩ := fetchXml_uses timeout o
  rw [huses]
  by_cases h0 : o.tcpConnect.socket < 0
  · rw [(tcpConnect_uses_of_neg _ _ h0).2, List.nil_append]
    rcases hrest with rfl | rfl
    · exact trivial
    · exact ⟨fun hvalid => absurd hvalid (Int.not_le.mpr h0), trivial⟩
  · rcases tcpConnect_uses DeviceId.portHttp timeout (Int.not_lt.mp h0) with ⟨-, -, h⟩ | ⟨-, h⟩
    · rw [h]
      rcases hrest with rfl | rfl <;> simp [ClosesOwn]
    · rw [h]
      split_ifs <;> rcases hrest with rfl | rfl <;> simp [ClosesOwn]

/-- Of the valid descriptors the traced part closes only its own. -/
def Tidy {E R α : Type} (f : E → Option (Use Int)) (t : Trace E R α) : Prop :=
  ClosesOwn Valid ∅ (t.events.filterMap f)

section Tidy

variable {E R α β : Type} {f : E → Option (Use Int)}

theorem tidy_of_quiet {t : Trace E R α} (h : Quiet f t) : Tidy f t := closesOwn_of_quiet h

theorem Tidy.bind {t : Trace E R α} {k : α → Trace E R β} (ht : Tidy f t)
    (hk : ∀ a, Tidy f (k a)) : Tidy f (t >>= k) :=
  closesOwn_bind ht hk

end Tidy

theorem getDeviceId_tidy (timeout : Int) (id : Memory.Cells UInt8) (o : ProbeOutcome) :
    Tidy probeUse (getDeviceId timeout id o) := by
  have hblind : Blind probeUse :=
    ⟨fun _ => rfl, fun _ _ => rfl, fun _ => rfl, fun _ => rfl, fun _ => rfl⟩
  rcases getDeviceId_seen hblind (fun _ => rfl) timeout id o with h | h
  · exact tidy_of_quiet h
  · rw [Tidy, h]
    exact fetchXml_tidy timeout o

theorem receiveLoop_tidy (info : LxiInfo) (timeout fd : Int) (id : Memory.Cells UInt8)
    (ds : List Datagram) : Tidy use (Discover.receiveLoop info timeout fd id ds) := by
  induction ds generalizing id with
  | nil => exact tidy_of_quiet rfl
  | cons d ds ih =>
      rw [Discover.receiveLoop]
      apply (tidy_of_quiet (quiet_emit rfl)).bind
      intro _
      split_ifs
      · have hprobe : Tidy use
            (within .probe .probe (getDeviceId timeout id d.probe) : Search _) := by
          rw [Tidy, events_within, List.filterMap_map]
          exact getDeviceId_tidy timeout id d.probe
        apply hprobe.bind
        intro found
        have hnotify : Quiet use (notify (found.1 == 0 && info.device)
            (.device (inetNtoa d.sender) found.2)) := quiet_ite (quiet_emit rfl) (quiet_pure _)
        exact (tidy_of_quiet hnotify).bind fun _ => ih _
      · exact tidy_of_quiet (quiet_pure _)

/-- A search opens one datagram socket, if at all, and closes nothing but its
probes' own sockets. -/
theorem search_uses {info : LxiInfo} {timeout : Int} {e : Ifaddrs} {s : Int}
    (h : (search info timeout e).result = .ok s) :
    e.search.socket = -1 ∧ uses (search info timeout e).events = [] ∨
      e.search.socket ≠ -1 ∧ ∃ rest, ClosesOwn Valid ∅ (uses rest) ∧
        (search info timeout e).events = .socket e.search.socket :: rest := by
  by_cases hp : Prepared e
  · refine .inr ⟨hp.1, ?_⟩
    cases hb : e.broadaddr with
    | none => cases (search_dangles hp hb).symm.trans h
    | some address =>
        rw [search_prepared hp hb, emit_bind]
        refine ⟨_, ?_, rfl⟩
        have hloop : Tidy use (Discover.receiveLoop info timeout e.search.socket e.search.id
            e.search.datagrams >>= fun _ => emit (.searched 0) >>= fun _ => pure (0 : Int)) :=
          (receiveLoop_tidy _ _ _ _ _).bind fun _ => tidy_of_quiet rfl
        exact hloop
  · obtain ⟨setup, hsetup, hsearch⟩ := search_unprepared info timeout hp
    have hquiet : uses (setup ++ [.searched (-1)]) = [] := by
      rw [uses, List.filterMap_append,
        filterMap_setup (fun x hx => by cases x <;> first | rfl | cases hx) hsetup]
      rfl
    rw [hsearch]
    by_cases hsocket : e.search.socket = -1
    · refine .inl ⟨hsocket, ?_⟩
      rw [hsocket]
      exact hquiet
    · refine .inr ⟨hsocket, _, ?_, rfl⟩
      rw [hquiet]
      exact trivial

structure Discovery where
  backend : Option MdnsBackend
  outcome : DiscoverOutcome
  call : Call
  isVxi11 : call.type = .vxi11

def Discovery.events (d : Discovery) : List Event := (perform d.backend d.outcome d.call).events

def step (s : Finset Int) (d : Discovery) : Option (Finset Int) :=
  match (perform d.backend d.outcome d.call).result with
  | .ok _ => some (openAfter s (uses d.events))
  | .error _ => none

/-- Each datagram socket that the discovery opened has been closed once when it
returns, and as many descriptors are open as before. -/
structure Releases (s : Finset Int) (d : Discovery) : Prop where
  closed : ∀ t, step s d = some t → ∀ before fd after,
    d.events = before ++ .socket fd :: after → fd ≠ -1 → closesOf fd (uses after) = 1
  card : ∀ t, step s d = some t → t.card = s.card

/-- If the discovery returns, it got no datagram socket. -/
def OpensNone (s : Finset Int) (d : Discovery) : Prop :=
  (step s d).isSome → d.outcome.getifaddrs = 0 →
    ∀ e ∈ d.outcome.entries, d.call.Selects e → e.search.socket = -1

/-- socket() returns no descriptor that is still open. -/
def FreshSockets (s : Finset Int) (d : Discovery) : Prop := Fresh Valid s (uses d.events)

theorem step_eq_some {s t : Finset Int} {d : Discovery} (h : step s d = some t) :
    Performed d.backend d.outcome d.call ∧ t = openAfter s (uses d.events) := by
  rw [step] at h
  cases hresult : (perform d.backend d.outcome d.call).result with
  | error r =>
      rw [hresult] at h
      cases h
  | ok ret =>
      rw [hresult] at h
      exact ⟨(performed d.isVxi11 hresult).2, (Option.some.inj h).symm⟩

theorem uses_append (before after : List Event) :
    uses (before ++ after) = uses before ++ uses after :=
  List.filterMap_append

theorem uses_cons_of_none {e : Event} (h : use e = none) (events : List Event) :
    uses (e :: events) = uses events :=
  List.filterMap_cons_none h

theorem uses_cons_socket {fd : Int} (h : fd ≠ -1) (events : List Event) :
    uses (.socket fd :: events) = .opened fd :: uses events :=
  List.filterMap_cons_some (if_neg h)

theorem uses_callbacks (calls : List Callback) : uses (calls.map .callback) = [] := by
  simp [uses, List.filterMap_map, Function.comp_def, use]

theorem turn_closesOwn {c : Call} {e : Ifaddrs} (h : Turned c e) :
    ClosesOwn Valid ∅ (uses (c.turn e).events) := by
  cases h with
  | searched status calls selects result events =>
      rw [events, uses_append, uses_callbacks, List.nil_append]
      rcases search_uses result with ⟨-, huses⟩ | ⟨hsocket, rest, hrest, hevents⟩
      · rw [huses]
        exact trivial
      · rw [hevents, uses_cons_socket hsocket]
        exact hrest.mono (Finset.empty_subset _)
  | skipped selects events =>
      rw [events]
      exact trivial

theorem turn_uses_nil {c : Call} {e : Ifaddrs} (h : Turned c e)
    (hnone : c.Selects e → e.search.socket = -1) : uses (c.turn e).events = [] := by
  cases h with
  | searched status calls selects result events =>
      rw [events, uses_append, uses_callbacks, List.nil_append]
      rcases search_uses result with ⟨-, huses⟩ | ⟨hsocket, -⟩
      · exact huses
      · exact absurd (hnone selects) hsocket
  | skipped selects events =>
      rw [events]
      rfl

theorem uses_flatMap (entries : List Ifaddrs) (turn : Ifaddrs → List Event) :
    uses (entries.flatMap turn) = entries.flatMap fun e => uses (turn e) := by
  induction entries with
  | nil => rfl
  | cons e es ih => rw [List.flatMap_cons, uses_append, ih, List.flatMap_cons]

theorem turns_closesOwn {c : Call} {entries : List Ifaddrs} (h : ∀ e ∈ entries, Turned c e) :
    ClosesOwn Valid ∅ (uses (entries.flatMap fun e => (c.turn e).events)) := by
  induction entries with
  | nil => exact trivial
  | cons e es ih =>
      rw [List.forall_mem_cons] at h
      rw [List.flatMap_cons, uses_append]
      exact (turn_closesOwn h.1).append (ih h.2)

theorem uses_eq_nil {s t : Finset Int} {d : Discovery} (hnone : OpensNone s d)
    (h : step s d = some t) : uses d.events = [] := by
  have hsome : (step s d).isSome := by
    rw [h]
    rfl
  cases (step_eq_some h).1 with
  | unlisted listed events =>
      rw [Discovery.events, events]
      rfl
  | listed listed turned events =>
      rw [Discovery.events, events, List.cons_append, uses_cons_of_none rfl, uses_append,
        uses_flatMap]
      have hturns : d.outcome.entries.flatMap (fun e => uses (d.call.turn e).events) = [] := by
        rw [List.flatMap_eq_nil_iff]
        intro e he
        exact turn_uses_nil (turned e he) (hnone hsome listed e he)
      rw [hturns]
      rfl

theorem releases_of_opensNone {s : Finset Int} {d : Discovery} (hnone : OpensNone s d) :
    Releases s d where
  closed t h before fd after hevents hfd := by
    have huses := uses_eq_nil hnone h
    rw [hevents, uses_append, uses_cons_socket hfd] at huses
    exact absurd huses (by simp)
  card t h := by
    rw [(step_eq_some h).2, uses_eq_nil hnone h, openAfter_nil]

theorem opensNone_of_releases {s : Finset Int} {d : Discovery} (hfresh : FreshSockets s d)
    (h : Releases s d) : OpensNone s d := by
  intro hsome hget e he hsel
  by_contra hsocket
  obtain ⟨t, ht⟩ := Option.isSome_iff_exists.mp hsome
  cases (step_eq_some ht).1 with
  | unlisted listed events => exact listed hget
  | listed listed turned events =>
      obtain ⟨before, after, hentries⟩ := List.append_of_mem he
      cases turned e he with
      | skipped selects events => exact selects hsel
      | searched status calls selects result hturn =>
          rcases search_uses result with ⟨hsocket', -⟩ | ⟨-, rest, hrest, hevents⟩
          · exact hsocket hsocket'
          · have hsplit : d.events = (.getifaddrs d.outcome.getifaddrs ::
                before.flatMap (fun e => (d.call.turn e).events) ++ calls.map .callback) ++
                .socket e.search.socket :: (rest ++
                (after.flatMap (fun e => (d.call.turn e).events) ++ [.freeifaddrs])) := by
              rw [Discovery.events, events, hentries]
              simp [hturn, hevents]
            have hafter : ClosesOwn Valid ∅ (uses (rest ++
                (after.flatMap (fun e => (d.call.turn e).events) ++ [.freeifaddrs]))) := by
              rw [uses_append, uses_append]
              refine hrest.append ((turns_closesOwn fun e he => turned e ?_).append trivial)
              rw [hentries]
              exact List.mem_append_right _ (List.mem_cons_of_mem _ he)
            rw [FreshSockets, hsplit, uses_append, uses_cons_socket hsocket, fresh_append] at hfresh
            obtain ⟨-, hvalid, -⟩ := hfresh
            have hzero := closesOf_eq_zero hafter hvalid (Finset.notMem_empty _)
            have hone := h.closed t ht _ _ _ hsplit hsocket
            omega

/-- Any number of discoveries release their datagram sockets if and only if
those that return have got none. -/
theorem discovery_releases_iff (s : Finset Int) {ds : List Discovery}
    (hfresh : Along step FreshSockets s ds) :
    Along step Releases s ds ↔ Along step OpensNone s ds := by
  apply along_congr_under (I := fun _ => True) (fun _ _ _ _ _ _ _ => trivial) ?_ trivial hfresh
  intro s d _ hfresh
  exact ⟨opensNone_of_releases hfresh, releases_of_opensNone⟩

def searching (fd : Int) : Discovery where
  backend := none
  outcome := ⟨0, [⟨some "eth0", some afInet, some 0xff01a8c0, { unanswered with socket := fd }⟩], 0⟩
  call := .discover ⟨true, true, false⟩ 1000 .vxi11
  isVxi11 := rfl

theorem discovery_releases_refused :
    Along step Releases {0, 1, 2} [searching (-1), searching (-1)] := by
  have hnone (s : Finset Int) : OpensNone s (searching (-1)) := by
    intro _ _ e he _
    rw [List.mem_singleton.mp he]
  refine (discovery_releases_iff {0, 1, 2} ?_).mpr ?_
  · exact ⟨trivial, fun _ _ => ⟨trivial, fun _ _ => trivial⟩⟩
  · exact ⟨hnone _, fun _ _ => ⟨hnone _, fun _ _ => trivial⟩⟩

theorem discovery_leaks :
    Along step FreshSockets {0, 1, 2} [searching 3] ∧
      ¬ Along step Releases {0, 1, 2} [searching 3] := by
  have hfresh : FreshSockets {0, 1, 2} (searching 3) :=
    ⟨(by decide : (0 : Int) ≤ 3), (by decide : (3 : Int) ∉ ({0, 1, 2} : Finset Int)), trivial⟩
  refine ⟨⟨hfresh, fun _ _ => trivial⟩, ?_⟩
  rintro ⟨h, -⟩
  have hsocket := opensNone_of_releases hfresh h rfl rfl _ List.mem_cons_self ⟨rfl, by simp⟩
  exact absurd hsocket (by decide)

end LibLxi.SearchSockets

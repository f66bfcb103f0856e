import LibLxi.DiscoverCalls

namespace LibLxi.DiscoveryStatus

open Lxi (lxiOk lxiError)
open Discover DiscoverCalls Info InterfaceSearch Tracing

def Succeeded (events : List Event) : DiscoverType → Prop
  | .vxi11 => .getifaddrs 0 ∈ events ∧ ∀ status, .searched status ∈ events → status = 0
  | .mdns => ∀ status, .browsed status ∈ events → status = 0
  | .unknown _ => False

/-- LXI_OK is returned only behind a success, and LXI_ERROR otherwise. -/
def Reported (ret : Int) (events : List Event) (type : DiscoverType) : Prop :=
  ret = lxiOk ∧ Succeeded events type ∨ ret = lxiError ∧ ¬ Succeeded events type

def NothingFails (backend : Option MdnsBackend) (o : DiscoverOutcome) (c : Call) : Prop :=
  match c.type with
  | .vxi11 => o.getifaddrs = 0 ∧ ∀ e ∈ o.entries, c.Selects e → Prepared e
  | .mdns => backend ≠ none → o.mdns = 0
  | .unknown _ => True

def status : Event → Option Int
  | .searched status => some status
  | _ => none

theorem mem_status {events : List Event} {s : Int} :
    .searched s ∈ events ↔ s ∈ events.filterMap status := by
  rw [List.mem_filterMap]
  constructor
  · exact fun h => ⟨_, h, rfl⟩
  · rintro ⟨e, he, hs⟩
    cases e with
    | searched s' =>
        cases hs
        exact he
    | _ => cases hs

theorem receiveLoop_quiet {info : LxiInfo} {timeout fd : Int} {id : Memory.Cells UInt8}
    {ds : List Datagram} : Quiet status (receiveLoop info timeout fd id ds) := by
  induction ds generalizing id with
  | nil => rfl
  | cons d ds ih =>
      rw [receiveLoop]
      apply (quiet_emit rfl).bind
      intro _
      apply quiet_ite
      · apply (quiet_within fun _ => rfl).bind
        intro found
        have hnotify : Quiet status (notify (found.1 == 0 && info.device)
            (.device (inetNtoa d.sender) found.2)) := quiet_ite (quiet_emit rfl) (quiet_pure _)
        exact hnotify.bind fun _ => ih
      · exact quiet_pure _

variable {info : LxiInfo} {timeout : Int} {e : Ifaddrs} {s : Int}

theorem search_status (h : (search info timeout e).result = .ok s) :
    (search info timeout e).events.filterMap status = [s] ∧ (s = 0 ↔ Prepared e) := by
  by_cases hp : Prepared e
  · cases hb : e.broadaddr with
    | none => cases (search_dangles hp hb).symm.trans h
    | some address =>
        rw [search_prepared hp hb] at h ⊢
        have hquiet : Quiet status (receiveLoop info timeout e.search.socket e.search.id
            e.search.datagrams) := receiveLoop_quiet
        simp only [emit_bind, List.filterMap_cons, status] at h ⊢
        obtain ⟨u, -, hs, hevents⟩ := bind_returns h
        rw [hevents, List.filterMap_append, hquiet, ← Except.ok.inj hs]
        simp [status, hp]
  · obtain ⟨setup, hsetup, hsearch⟩ := search_unprepared info timeout hp
    have hquiet : setup.filterMap status = [] :=
      filterMap_setup (fun x hx => by cases x <;> first | rfl | cases hx) hsetup
    rw [hsearch] at h ⊢
    cases h
    simp only [List.filterMap_cons, List.filterMap_append, hquiet, status]
    simp [hp]

theorem mem_turn {c : Call} (h : Turned c e) :
    .searched s ∈ (c.turn e).events ↔
      c.Selects e ∧ (search c.info c.timeout e).result = .ok s := by
  cases h with
  | searched status' calls selects result events =>
      rw [mem_status, events, List.filterMap_append, (search_status result).1, result]
      have hcalls : (calls.map Event.callback).filterMap status = [] := by
        simp [List.filterMap_map, Function.comp_def, status]
      simp [hcalls, selects, eq_comm]
  | skipped selects events => simp [events, selects]

theorem succeeded_vxi11 {backend : Option MdnsBackend} {o : DiscoverOutcome} {c : Call}
    (h : Performed backend o c) : Succeeded (perform backend o c).events .vxi11 ↔
      o.getifaddrs = 0 ∧ ∀ e ∈ o.entries, c.Selects e → Prepared e := by
  cases h with
  | unlisted listed events =>
      rw [Succeeded, events]
      simp [listed, eq_comm]
  | listed listed turned events =>
      have hmem (s : Int) : .searched s ∈ (perform backend o c).events ↔
          ∃ e ∈ o.entries, c.Selects e ∧ (search c.info c.timeout e).result = .ok s := by
        rw [events]
        simp only [List.cons_append, List.mem_cons, List.mem_append, List.mem_flatMap,
          List.not_mem_nil, reduceCtorEq, or_false, false_or]
        apply exists_congr
        intro e
        apply and_congr_right
        intro he
        exact mem_turn (turned e he)
      have hget : .getifaddrs 0 ∈ (perform backend o c).events := by
        rw [events, listed]
        exact List.mem_cons_self
      rw [Succeeded]
      simp only [hmem, hget, listed, true_and]
      constructor
      · intro hall e he hsel
        cases turned e he with
        | searched s calls selects result events =>
            exact (search_status result).2.mp (hall s ⟨e, he, hsel, result⟩)
        | skipped selects events => exact absurd hsel selects
      · rintro hall s ⟨e, he, hsel, hsearch⟩
        exact (search_status hsearch).2.mpr (hall e he hsel)

/-- A discovery that returns has told the truth about its success if and only
if nothing that it started failed, or its type is unknown. -/
theorem discovery_reports_iff (backend : Option MdnsBackend) (o : DiscoverOutcome) (c : Call)
    {ret : Int} (h : (perform backend o c).result = .ok ret) :
    Reported ret (perform backend o c).events c.type ↔ NothingFails backend o c := by
  rw [NothingFails]
  cases hc : c.type with
  | vxi11 =>
      obtain ⟨rfl, hperformed⟩ := performed hc h
      simp [Reported, succeeded_vxi11 hperformed, lxiOk, lxiError]
  | mdns =>
      rw [perform_mdns hc] at h ⊢
      cases backend with
      | none =>
          cases h
          simp [Reported, Succeeded, mdnsDiscover]
      | some backend =>
          have hevents : (mdnsDiscover (some backend) o >>= fun _ => pure lxiOk).events =
              [.browsed o.mdns] := rfl
          cases h
          simp only [hevents]
          simp [Reported, Succeeded, lxiOk, lxiError]
  | unknown value =>
      rw [perform_unknown hc] at h ⊢
      cases h
      simp [Reported, Succeeded]

theorem discovery_reports_ethernet :
    Reported lxiOk (perform none ethernet (.discover ⟨true, true, false⟩ 1000 .vxi11)).events
      .vxi11 := by
  refine (discovery_reports_iff none ethernet (.discover _ _ .vxi11) rfl).mpr ⟨rfl, ?_⟩
  intro e he _
  rw [List.mem_singleton.mp he]
  exact ⟨by decide, by decide, by decide⟩

def unlisted : DiscoverOutcome := ⟨-1, [], 0⟩

theorem discovery_hides_failure :
    (perform none unlisted (.discover ⟨true, true, false⟩ 1000 .vxi11)).result = .ok lxiOk ∧
      ¬ Reported lxiOk (perform none unlisted (.discover ⟨true, true, false⟩ 1000 .vxi11)).events
        .vxi11 := by
  refine ⟨rfl, ?_⟩
  have hevents : (perform none unlisted (.discover ⟨true, true, false⟩ 1000 .vxi11)).events =
      [.getifaddrs (-1)] := rfl
  rw [hevents]
  simp [Reported, Succeeded, lxiOk, lxiError]

end LibLxi.DiscoveryStatus

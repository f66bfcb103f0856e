import LibLxi.InterfaceSearch

namespace LibLxi.DiscoverCalls

open Tcp (afInet)
open Discover Info InterfaceSearch Lxi Tracing

inductive Call
  | discover (info : LxiInfo) (timeout : Int) (type : DiscoverType)
  | discoverIf (info : LxiInfo) (ifname : Option String) (timeout : Int) (type : DiscoverType)

def perform (backend : Option MdnsBackend) (o : DiscoverOutcome) : Call → Search Int
  | .discover info timeout type => lxiDiscover backend info timeout o type
  | .discoverIf info ifname timeout type => lxiDiscoverIf backend info ifname timeout o type

namespace Call

def info : Call → LxiInfo
  | .discover info _ _ => info
  | .discoverIf info _ _ _ => info

def timeout : Call → Int
  | .discover _ timeout _ => timeout
  | .discoverIf _ _ timeout _ => timeout

def type : Call → DiscoverType
  | .discover _ _ type => type
  | .discoverIf _ _ _ type => type

def ifname : Call → Option String
  | .discover _ _ _ => none
  | .discoverIf _ ifname _ _ => ifname

def Selects (c : Call) (e : Ifaddrs) : Prop :=
  match c.ifname with
  | none => e.addr = some afInet ∧ e.broadaddr ≠ none
  | some ifname => Selected ifname e

def turn (c : Call) (e : Ifaddrs) : Search Unit :=
  match c.ifname with
  | none => visit c.info c.timeout e
  | some ifname => do
      let _ ← visitIf c.info ifname c.timeout 0 e
      return ()

end Call

variable {backend : Option MdnsBackend} {o : DiscoverOutcome} {c : Call}

theorem visitIf_forget {info : LxiInfo} {ifname : String} {timeout status : Int} {e : Ifaddrs} :
    (visitIf info ifname timeout status e >>= fun _ => pure ()) =
      (visitIf info ifname timeout 0 e >>= fun _ => pure ()) := by
  rw [visitIf, visitIf]
  split_ifs
  · rw [bind_assoc, bind_assoc]
    apply bind_congr_ok
    intro name _
    split_ifs <;> rfl
  · rfl

theorem overInterfaces_forget {α β : Type} {a : α} {loop : List Ifaddrs → Search α}
    {loop' : List Ifaddrs → Search Unit} (k : Search β)
    (h : ∀ entries, (loop entries >>= fun _ => pure ()) = loop' entries) :
    (overInterfaces o a loop >>= fun _ => k) = (overInterfaces o () loop' >>= fun _ => k) := by
  rw [overInterfaces, overInterfaces, bind_assoc, bind_assoc]
  split_ifs
  · simp only [← h, bind_assoc, pure_bind]
  · rfl

theorem perform_vxi11 (backend : Option MdnsBackend) (o : DiscoverOutcome)
    (h : c.type = .vxi11) : perform backend o c = (do
      overInterfaces o () fun entries => entries.forM c.turn
      pure lxiOk) := by
  cases c with
  | discover info timeout type =>
      cases h
      exact bind_assoc _ _ _
  | discoverIf info ifname timeout type =>
      cases h
      cases ifname with
      | none => exact bind_assoc _ _ _
      | some ifname =>
          apply overInterfaces_forget
          intro entries
          apply foldlM_forget
          intro status e
          exact visitIf_forget

theorem perform_mdns (h : c.type = .mdns) : perform backend o c = (do
    let _ ← mdnsDiscover backend o
    pure lxiOk) := by
  cases c with
  | discover info timeout type =>
      cases h
      rfl
  | discoverIf info ifname timeout type =>
      cases h
      rfl

theorem perform_unknown {value : Nat} (h : c.type = .unknown value) :
    perform backend o c = unknownType value := by
  cases c with
  | discover info timeout type =>
      cases h
      rfl
  | discoverIf info ifname timeout type =>
      cases h
      rfl

theorem notify_events {set : Bool} {callback : Callback} :
    ∃ calls : List Callback, (notify set callback).events = calls.map .callback := by
  cases set with
  | false => exact ⟨[], rfl⟩
  | true => exact ⟨[callback], rfl⟩

theorem announce_events (info : LxiInfo) (address : UInt32) (name : Option String) :
    ∃ calls : List Callback, (announce info address name).events = calls.map .callback := by
  cases name with
  | none => exact ⟨[], rfl⟩
  | some name => exact notify_events

theorem announceIf_events (info : LxiInfo) (broadaddr : Option UInt32) (name : String) :
    ∃ calls : List Callback, (announceIf info broadaddr name).events = calls.map .callback := by
  rw [announceIf]
  split_ifs
  · cases broadaddr with
    | none => exact ⟨[], rfl⟩
    | some address => exact ⟨[.broadcast (inetNtoa address) name], rfl⟩
  · exact ⟨[], rfl⟩

inductive Turned (c : Call) (e : Ifaddrs) : Prop
  | searched (status : Int) (calls : List Callback) (selects : c.Selects e)
      (result : (search c.info c.timeout e).result = .ok status)
      (events : (c.turn e).events = calls.map .callback ++ (search c.info c.timeout e).events)
  | skipped (selects : ¬ c.Selects e) (events : (c.turn e).events = [])

theorem visit_turned {e : Ifaddrs} (hif : c.ifname = none) (h : (c.turn e).result = .ok ()) :
    Turned c e := by
  have hturn : c.turn e = visit c.info c.timeout e := by rw [Call.turn, hif]
  have hselects : c.Selects e ↔ e.addr = some afInet ∧ e.broadaddr ≠ none := by
    rw [Call.Selects, hif]
  rw [hturn] at h
  cases hb : e.broadaddr with
  | none =>
      refine .skipped (fun hsel => (hselects.mp hsel).2 hb) ?_
      rw [hturn, visit_missing hb]
      rfl
  | some address =>
      by_cases haddr : e.addr = some afInet
      · have hvisit : visit c.info c.timeout e = (do
            announce c.info address e.name
            let _ ← search c.info c.timeout e
            pure ()) := by
          rw [visit, hb]
          exact if_pos haddr
        rw [hvisit] at h
        obtain ⟨-, -, h, hevents⟩ := bind_returns h
        obtain ⟨status, hsearch, -, hevents'⟩ := bind_returns h
        obtain ⟨calls, hcalls⟩ := announce_events c.info address e.name
        refine .searched status calls (hselects.mpr ⟨haddr, by simp [hb]⟩) hsearch ?_
        rw [hturn, hvisit, hevents, hevents', hcalls, events_pure, List.append_nil]
      · refine .skipped (fun hsel => haddr (hselects.mp hsel).1) ?_
        rw [hturn, visit_other haddr]
        rfl

theorem visitIf_turned {e : Ifaddrs} {ifname : String} (hif : c.ifname = some ifname)
    (h : (c.turn e).result = .ok ()) : Turned c e := by
  have hturn : c.turn e = (do
      let _ ← visitIf c.info ifname c.timeout 0 e
      pure ()) := by rw [Call.turn, hif]
  have hselects : c.Selects e ↔ Selected ifname e := by rw [Call.Selects, hif]
  rw [hturn] at h
  by_cases hsel : Selected ifname e
  · rw [visitIf_selected hsel, bind_assoc] at h
    obtain ⟨-, -, h, hevents⟩ := bind_returns h
    obtain ⟨status, hsearch, -, hevents'⟩ := bind_returns h
    obtain ⟨calls, hcalls⟩ := announceIf_events c.info e.broadaddr ifname
    refine .searched status calls (hselects.mpr hsel) hsearch ?_
    rw [hturn, visitIf_selected hsel, bind_assoc, hevents, hevents', hcalls, events_pure,
      List.append_nil]
  · have hname : e.addr = some afInet → e.name ≠ none := by
      intro haddr hname
      rw [visitIf, if_pos haddr, hname] at h
      cases h
    refine .skipped (fun h => hsel (hselects.mp h)) ?_
    rw [hturn, visitIf_other hsel hname]
    rfl

theorem turned {e : Ifaddrs} (h : (c.turn e).result = .ok ()) : Turned c e := by
  cases hif : c.ifname with
  | none => exact visit_turned hif h
  | some ifname => exact visitIf_turned hif h

inductive Performed (backend : Option MdnsBackend) (o : DiscoverOutcome) (c : Call) : Prop
  | unlisted (listed : o.getifaddrs ≠ 0)
      (events : (perform backend o c).events = [.getifaddrs o.getifaddrs])
  | listed (listed : o.getifaddrs = 0) (turned : ∀ e ∈ o.entries, Turned c e)
      (events : (perform backend o c).events =
        .getifaddrs o.getifaddrs :: o.entries.flatMap (fun e => (c.turn e).events) ++ [.freeifaddrs])

theorem overInterfaces_returns {loop : List Ifaddrs → Search Unit}
    (h : (overInterfaces o () loop).result = .ok ()) :
    o.getifaddrs ≠ 0 ∧ (overInterfaces o () loop).events = [.getifaddrs o.getifaddrs] ∨
      o.getifaddrs = 0 ∧ (loop o.entries).result = .ok () ∧
        (overInterfaces o () loop).events =
          .getifaddrs o.getifaddrs :: (loop o.entries).events ++ [.freeifaddrs] := by
  rw [overInterfaces, emit_bind] at h ⊢
  by_cases hget : o.getifaddrs = 0
  · simp only [if_pos hget] at h ⊢
    obtain ⟨u, hloop, -, hevents⟩ := bind_returns h
    refine .inr ⟨hget, hloop, ?_⟩
    rw [hevents]
    rfl
  · simp only [if_neg hget]
    exact .inl ⟨hget, rfl⟩

theorem performed {ret : Int} (hc : c.type = .vxi11) (h : (perform backend o c).result = .ok ret) :
    ret = lxiOk ∧ Performed backend o c := by
  have hevents : (perform backend o c).events =
      (overInterfaces o () fun entries => entries.forM c.turn).events := by
    rw [perform_vxi11 backend o hc, events_bind_pure]
  rw [perform_vxi11 backend o hc] at h
  obtain ⟨u, hreturns, hret⟩ := result_bind_ok.mp h
  refine ⟨(Except.ok.inj hret).symm, ?_⟩
  rcases overInterfaces_returns hreturns with ⟨hget, hover⟩ | ⟨hget, hloop, hover⟩
  · exact .unlisted hget (hevents.trans hover)
  · obtain ⟨hturns, hflat⟩ := forM_returns hloop
    refine .listed hget (fun e he => turned (hturns e he)) (hevents.trans ?_)
    rw [hover, hflat]

end LibLxi.DiscoverCalls

import LibLxi.DiscoverCalls

namespace LibLxi.DiscoveryProbes

open DeviceId (Probe ProbeOutcome getDeviceId)
open Discover DiscoverCalls Info InterfaceSearch Memory Tracing

structure ProbeCall where
  timeout : Int
  id : Cells UInt8
  outcome : ProbeOutcome

def ProbeCall.trace (p : ProbeCall) : Probe (Int × Cells UInt8) :=
  getDeviceId p.timeout p.id p.outcome

/-- The probes of the do loop: one a datagram, until one is empty or a probe does
not return. -/
def loopProbes (timeout : Int) : Cells UInt8 → List Datagram → List ProbeCall
  | _, [] => []
  | id, d :: ds =>
      if d.count > 0 then
        ⟨timeout, id, d.probe⟩ ::
          match (getDeviceId timeout id d.probe).result with
          | .error _ => []
          | .ok found => loopProbes timeout found.2 ds
      else []

instance instDecidablePrepared (e : Ifaddrs) : Decidable (Prepared e) :=
  inferInstanceAs (Decidable (_ ∧ _))

def searchProbes (timeout : Int) (e : Ifaddrs) : List ProbeCall :=
  if Prepared e ∧ e.broadaddr ≠ none then loopProbes timeout e.search.id e.search.datagrams else []

instance instDecidableSelects (c : Call) (e : Ifaddrs) : Decidable (c.Selects e) :=
  match h : c.ifname with
  | none => decidable_of_iff (e.addr = some Tcp.afInet ∧ e.broadaddr ≠ none) (by rw [Call.Selects, h])
  | some ifname => decidable_of_iff (Selected ifname e) (by rw [Call.Selects, h])

def turnProbes (c : Call) (e : Ifaddrs) : List ProbeCall :=
  if c.Selects e then searchProbes c.timeout e else []

def probes (c : Call) (o : DiscoverOutcome) : List ProbeCall :=
  if c.type = .vxi11 ∧ o.getifaddrs = 0 then
    (upTo (fun e => (c.turn e).result.isOk) o.entries).flatMap (turnProbes c)
  else []

/-- What a discovery does that can print a message: a probe, or a search whose
socket does not become prepared. -/
inductive Step
  | probe (p : ProbeCall)
  | unprepared

def searchSteps (timeout : Int) (e : Ifaddrs) : List Step :=
  if Prepared e then (searchProbes timeout e).map .probe else [.unprepared]

/-- vxi11_discover_if calls back before it searches, through the broadcast
address that it does not look at. -/
def Announces (c : Call) (e : Ifaddrs) : Prop := c.info.broadcast → e.broadaddr ≠ none

instance instDecidableAnnounces (c : Call) (e : Ifaddrs) : Decidable (Announces c e) :=
  inferInstanceAs (Decidable (_ → _))

def turnSteps (c : Call) (e : Ifaddrs) : List Step :=
  if c.Selects e ∧ Announces c e then searchSteps c.timeout e else []

def steps (c : Call) (o : DiscoverOutcome) : List Step :=
  if c.type = .vxi11 ∧ o.getifaddrs = 0 then
    (upTo (fun e => (c.turn e).result.isOk) o.entries).flatMap (turnSteps c)
  else []

def Step.call : Step → Option ProbeCall
  | .probe p => some p
  | .unprepared => none

theorem searchSteps_calls (timeout : Int) (e : Ifaddrs) :
    (searchSteps timeout e).filterMap Step.call = searchProbes timeout e := by
  by_cases hp : Prepared e
  · rw [searchSteps, if_pos hp, List.filterMap_map]
    exact List.filterMap_some
  · rw [searchSteps, if_neg hp, searchProbes, if_neg fun h => hp h.1]
    rfl

theorem turnSteps_calls (c : Call) (e : Ifaddrs) :
    (turnSteps c e).filterMap Step.call = turnProbes c e := by
  rw [turnProbes, turnSteps]
  by_cases hsel : c.Selects e
  · by_cases hannounces : Announces c e
    · rw [if_pos ⟨hsel, hannounces⟩, if_pos hsel, searchSteps_calls]
    · have hb : e.broadaddr = none := by
        rw [Announces] at hannounces
        tauto
      rw [if_neg fun h => hannounces h.2, if_pos hsel, searchProbes, if_neg fun h => h.2 hb]
      rfl
  · rw [if_neg fun h => hsel h.1, if_neg hsel]
    rfl

theorem steps_calls (c : Call) (o : DiscoverOutcome) :
    (steps c o).filterMap Step.call = probes c o := by
  rw [steps, probes]
  split_ifs
  · rw [List.filterMap_flatMap]
    exact congrArg (List.flatMap · _) (funext (turnSteps_calls c))
  · rfl

def probeEvent : Event → Option DeviceId.Event
  | .probe e => some e
  | _ => none

/-- Neither a part of a probe nor a message. -/
def Plain : Event → Prop
  | .probe _ | .error _ => False
  | _ => True

inductive Step.Does : Step → List Event → Prop
  | probe (p : ProbeCall) : Step.Does (.probe p) (p.trace.events.map .probe)
  | unprepared (message : Platform.Message) : Step.Does .unprepared [.error message]

/-- The steps one behind the other, each with something plain before it. -/
inductive Spaced : List Step → List Event → Prop
  | done {gap : List Event} (hgap : ∀ e ∈ gap, Plain e) : Spaced [] gap
  | step {s : Step} {ss : List Step} {gap own rest : List Event} (hgap : ∀ e ∈ gap, Plain e)
      (hne : gap ≠ []) (hown : s.Does own) (hrest : Spaced ss rest) :
      Spaced (s :: ss) (gap ++ (own ++ rest))

theorem Spaced.plain_append {ss : List Step} {gap events : List Event} (hgap : ∀ e ∈ gap, Plain e)
    (h : Spaced ss events) : Spaced ss (gap ++ events) := by
  cases h with
  | done h => exact .done (List.forall_mem_append.mpr ⟨hgap, h⟩)
  | step hgap' hne hown hrest =>
      rw [← List.append_assoc]
      exact .step (List.forall_mem_append.mpr ⟨hgap, hgap'⟩)
        (List.append_ne_nil_of_right_ne_nil _ hne) hown hrest

theorem Spaced.plain_cons {ss : List Step} {e : Event} {events : List Event} (he : Plain e)
    (h : Spaced ss events) : Spaced ss (e :: events) :=
  h.plain_append (List.forall_mem_singleton.mpr he)

theorem Spaced.append {ss ss' : List Step} {events events' : List Event} (h : Spaced ss events)
    (h' : Spaced ss' events') : Spaced (ss ++ ss') (events ++ events') := by
  induction h with
  | done hgap => exact h'.plain_append hgap
  | step hgap hne hown _ ih =>
      rw [List.append_assoc, List.append_assoc]
      exact .step hgap hne hown ih

theorem Spaced.flatMap {α : Type} {f : α → List Step} {g : α → List Event}
    (h : ∀ a, Spaced (f a) (g a)) (as : List α) : Spaced (as.flatMap f) (as.flatMap g) := by
  induction as with
  | nil => exact .done (List.forall_mem_nil _)
  | cons a as ih => exact (h a).append ih

theorem Spaced.single {s : Step} {own : List Event} {e : Event} (he : Plain e) (hown : s.Does own) :
    Spaced [s] (e :: own) := by
  have h := Spaced.step (List.forall_mem_singleton.mpr he) (List.cons_ne_nil _ _) hown
    (.done (List.forall_mem_nil _))
  rwa [List.append_nil] at h

theorem plain_callbacks (calls : List Callback) : ∀ e ∈ calls.map Event.callback, Plain e := by
  rw [List.forall_mem_map]
  exact fun _ _ => trivial

theorem notify_plain (set : Bool) (c : Callback) : ∀ e ∈ (notify set c).events, Plain e := by
  have hnotify : ∃ calls : List Callback, (notify set c).events = calls.map .callback :=
    notify_events
  obtain ⟨calls, hcalls⟩ := hnotify
  rw [hcalls]
  exact plain_callbacks calls

theorem receiveLoop_spaced (info : LxiInfo) (timeout fd : Int) (id : Cells UInt8)
    (ds : List Datagram) :
    Spaced ((loopProbes timeout id ds).map .probe) (receiveLoop info timeout fd id ds).events := by
  induction ds generalizing id with
  | nil => exact .done (List.forall_mem_singleton.mpr trivial)
  | cons d ds ih =>
      rw [loopProbes]
      split_ifs with hcount
      · have hprobe : Spaced [.probe ⟨timeout, id, d.probe⟩] (.recvfrom fd d.count ::
            (getDeviceId timeout id d.probe).events.map .probe) :=
          .single trivial (.probe ⟨timeout, id, d.probe⟩)
        cases h : (getDeviceId timeout id d.probe).result with
        | error r =>
            rw [receiveLoop_unreturned hcount h]
            exact hprobe
        | ok found =>
            rw [receiveLoop_returned hcount h]
            exact hprobe.append ((ih found.2).plain_append (notify_plain _ _))
      · rw [receiveLoop, if_neg hcount]
        exact .done (List.forall_mem_singleton.mpr trivial)

theorem search_unprepared_spaced (info : LxiInfo) (timeout : Int) {e : Ifaddrs}
    (hp : ¬ Prepared e) : Spaced [.unprepared] (search info timeout e).events := by
  have hspaced (gap rest : List Event) (message : Platform.Message) (hgap : ∀ e ∈ gap, Plain e)
      (hne : gap ≠ []) (hrest : ∀ e ∈ rest, Plain e) :
      Spaced [.unprepared] (gap ++ ([.error message] ++ rest)) :=
    .step hgap hne (.unprepared message) (.done hrest)
  rw [search, discoverDevices]
  split_ifs
  · exact hspaced [_] [_] _ (by simp [Plain]) (by simp) (by simp [Plain])
  · exact hspaced [_, _] [_, _] _ (by simp [Plain]) (by simp) (by simp [Plain])
  · exact hspaced [_, _, _] [_, _] _ (by simp [Plain]) (by simp) (by simp [Plain])
  · exact absurd ⟨‹_›, ‹_›, ‹_›⟩ hp

theorem search_spaced (info : LxiInfo) (timeout : Int) (e : Ifaddrs) :
    Spaced (searchSteps timeout e) (search info timeout e).events := by
  by_cases hp : Prepared e
  · rw [searchSteps, if_pos hp, searchProbes]
    cases hb : e.broadaddr with
    | none =>
        rw [if_neg fun h => h.2 rfl, search, discoverDevices, if_neg hp.1, if_neg hp.2.1,
          if_neg hp.2.2, hb]
        have hplain : ∀ e' ∈ [Event.socket e.search.socket, .setBroadcast e.search.socket,
            .setTimeout e.search.socket (Platform.timevalOf timeout), .bind e.search.socket],
            Plain e' := by simp [Plain]
        exact .done hplain
    | some address =>
        rw [if_pos ⟨hp, by simp⟩, search_prepared hp hb]
        have hloop : Spaced ((loopProbes timeout e.search.id e.search.datagrams).map .probe)
            (receiveLoop info timeout e.search.socket e.search.id e.search.datagrams >>=
              fun _ => emit (.searched 0) >>= fun _ => (pure 0 : Search Int)).events := by
          have hreceive := receiveLoop_spaced info timeout e.search.socket e.search.id
            e.search.datagrams
          cases h : (receiveLoop info timeout e.search.socket e.search.id
              e.search.datagrams).result with
          | error r => rwa [bind_error h]
          | ok u =>
              rw [bind_ok h]
              have hlast : Spaced [] [Event.searched 0] :=
                .done (List.forall_mem_singleton.mpr trivial)
              have hend := hreceive.append hlast
              rwa [List.append_nil] at hend
        refine .plain_cons trivial (.plain_cons trivial (.plain_cons trivial ?_))
        exact .plain_cons trivial (.plain_cons trivial hloop)
  · rw [searchSteps, if_neg hp]
    exact search_unprepared_spaced info timeout hp

theorem visit_spaced {c : Call} {e : Ifaddrs} (hif : c.ifname = none) :
    Spaced (turnSteps c e) (c.turn e).events := by
  have hturn : c.turn e = visit c.info c.timeout e := by rw [Call.turn, hif]
  have hselects : c.Selects e ↔ e.addr = some Tcp.afInet ∧ e.broadaddr ≠ none := by
    rw [Call.Selects, hif]
  rw [hturn, turnSteps]
  by_cases hsel : c.Selects e
  · obtain ⟨haddr, hne⟩ := hselects.mp hsel
    obtain ⟨address, hb⟩ := Option.ne_none_iff_exists'.mp hne
    obtain ⟨calls, hcalls⟩ := announce_events c.info address e.name
    rw [if_pos ⟨hsel, fun _ => hne⟩, visit, hb]
    dsimp only
    rw [if_pos haddr, bind_ok announce_result, events_bind_pure, hcalls]
    exact (search_spaced _ _ _).plain_append (plain_callbacks calls)
  · have hnone : visit c.info c.timeout e = pure () := by
      cases hb : e.broadaddr with
      | none => exact visit_missing hb
      | some address => exact visit_other fun haddr => hsel (hselects.mpr ⟨haddr, by simp [hb]⟩)
    rw [if_neg fun h => hsel h.1, hnone]
    exact .done (List.forall_mem_nil _)

theorem announceIf_result_iff {info : LxiInfo} {broadaddr : Option UInt32} {name : String} :
    (announceIf info broadaddr name).result = .ok () ↔ (info.broadcast → broadaddr ≠ none) := by
  rw [announceIf]
  cases info.broadcast <;> cases broadaddr <;> simp [need, stop, done, emit, bind_error, bind_ok]

theorem visitIf_spaced {c : Call} {e : Ifaddrs} {ifname : String} (hif : c.ifname = some ifname) :
    Spaced (turnSteps c e) (c.turn e).events := by
  have hturn : c.turn e = (do
      let _ ← visitIf c.info ifname c.timeout 0 e
      pure ()) := by rw [Call.turn, hif]
  have hselects : c.Selects e ↔ Selected ifname e := by rw [Call.Selects, hif]
  rw [hturn, turnSteps, events_bind_pure]
  by_cases hsel : Selected ifname e
  · obtain ⟨calls, hcalls⟩ := announceIf_events c.info e.broadaddr ifname
    rw [visitIf_selected hsel]
    cases h : (announceIf c.info e.broadaddr ifname).result with
    | error r =>
        have hannounces : ¬ Announces c e := fun hset => by
          rw [announceIf_result_iff.mpr hset] at h
          cases h
        rw [bind_error h, hcalls, if_neg fun h => hannounces h.2]
        exact .done (plain_callbacks calls)
    | ok u =>
        rw [bind_ok h, hcalls, if_pos ⟨hselects.mpr hsel, announceIf_result_iff.mp h⟩]
        exact (search_spaced _ _ _).plain_append (plain_callbacks calls)
  · rw [if_neg fun h => hsel (hselects.mp h.1), visitIf]
    split_ifs with haddr
    · cases hname : e.name with
      | none => exact .done (List.forall_mem_nil _)
      | some name =>
          have hne : name ≠ ifname := by
            rintro rfl
            exact hsel ⟨haddr, hname⟩
          rw [need_some, pure_bind, if_neg hne]
          exact .done (List.forall_mem_nil _)
    · exact .done (List.forall_mem_nil _)

theorem turn_spaced (c : Call) (e : Ifaddrs) : Spaced (turnSteps c e) (c.turn e).events := by
  cases hif : c.ifname with
  | none => exact visit_spaced hif
  | some ifname => exact visitIf_spaced hif

theorem discovery_spaced (backend : Option MdnsBackend) (o : DiscoverOutcome) {c : Call}
    (htype : c.type = .vxi11) : Spaced (steps c o) (perform backend o c).events := by
  rw [steps, perform_vxi11 backend o htype, events_bind_pure, overInterfaces, emit_bind]
  by_cases hget : o.getifaddrs = 0
  · rw [if_pos hget, if_pos ⟨htype, hget⟩]
    have hloop := Spaced.flatMap (turn_spaced c)
      (upTo (fun e => (c.turn e).result.isOk) o.entries)
    rw [← forM_events] at hloop
    apply Spaced.plain_cons (e := .getifaddrs o.getifaddrs) trivial
    cases h : (o.entries.forM c.turn).result with
    | error r => rwa [bind_error h]
    | ok u =>
        rw [bind_ok h]
        have hlast : Spaced [] [Event.freeifaddrs] :=
          .done (List.forall_mem_singleton.mpr trivial)
        have hend := hloop.append hlast
        rwa [List.append_nil] at hend
  · rw [if_neg hget, if_neg fun h => hget h.2]
    exact .done (List.forall_mem_singleton.mpr trivial)

def seen (ps : List ProbeCall) : List DeviceId.Event := ps.flatMap fun p => p.trace.events

theorem Spaced.seen {ss : List Step} {events : List Event} (h : Spaced ss events) :
    events.filterMap probeEvent = seen (ss.filterMap Step.call) := by
  have hplain {gap : List Event} (hgap : ∀ e ∈ gap, Plain e) : gap.filterMap probeEvent = [] := by
    apply List.filterMap_eq_nil_iff.mpr
    intro e he
    have := hgap e he
    cases e <;> first | rfl | cases this
  induction h with
  | done hgap => exact hplain hgap
  | step hgap _ hown _ ih =>
      rw [List.filterMap_append, List.filterMap_append, hplain hgap, ih]
      cases hown with
      | probe p => simp [DiscoveryProbes.seen, List.filterMap_map, Function.comp_def, probeEvent,
          Step.call]
      | unprepared message => rfl

/-- What the hosts see of a discovery is what its probes do, one behind the
other, whether it returns or not. -/
theorem discovery_probes (backend : Option MdnsBackend) (o : DiscoverOutcome) (c : Call) :
    (perform backend o c).events.filterMap probeEvent = seen (probes c o) := by
  cases htype : c.type with
  | vxi11 => rw [(discovery_spaced backend o htype).seen, steps_calls]
  | mdns =>
      rw [perform_mdns htype, events_bind_pure, probes, if_neg (by simp [htype])]
      cases backend <;> rfl
  | unknown value =>
      rw [perform_unknown htype, probes, if_neg (by simp [htype])]
      rfl

def answering (hosts : List ProbeOutcome) : DiscoverOutcome where
  getifaddrs := 0
  entries := [⟨some "eth0", some Tcp.afInet, some 0xff01a8c0,
    ⟨3, 0, 0, fun _ => 0, hosts.map fun host => ⟨28, 0x0a01a8c0, host⟩⟩⟩]
  mdns := 0

end LibLxi.DiscoveryProbes

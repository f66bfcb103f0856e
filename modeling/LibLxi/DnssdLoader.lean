import LibLxi.DnssdAgreement

namespace LibLxi.DnssdLoader

open CygwinDnssd DnssdAgreement Info Machine Platform Tracing

def opens (h : Handle) (es : List Event) : Nat :=
  es.countP fun | .dlopen handle => handle = some h | _ => false

def closes (h : Handle) (es : List Event) : Nat :=
  es.countP fun | .dlclose handle => handle = h | _ => false

def holds (dll : Dll) (h : Handle) : Nat := if dll.hDnssdDLL = some h then 1 else 0

/-- All pointers are null, or all are what the library that is open has them at. -/
def Consistent (log : List Event) (dll : Dll) : Prop :=
  match dll.hDnssdDLL with
  | none => ∀ name, dll.pointer name = none
  | some h => ∀ name, ∃ a, dll.pointer name = some a ∧ .dlsym h name (some a) ∈ log

/-- The library is open, or can be opened and has all functions. -/
def Loadable (o : LoadOutcome) (dll : Dll) : Prop :=
  dll.hDnssdDLL.isSome ∨ o.dlopen.isSome ∧ ∀ name, (o.dlsym name).isSome

section Load

structure Found (o : LoadOutcome) (handle : Handle) (es : List Event) (dll : Dll) (name : Symbol)
    (a : Address) : Prop where
  dlsym : o.dlsym name = some a
  pointer : dll.pointer name = some a
  logged : .dlsym handle name (some a) ∈ es

structure Looked (o : LoadOutcome) (handle : Handle) (dll : Dll) (names : List Symbol)
    (t : Trace Event Stop (Dll × Int)) (dll' : Dll) (status : Int) : Prop where
  result : t.result = .ok (dll', status)
  opens : ∀ h, opens h t.events = 0
  closes : ∀ h, closes h t.events + holds dll' h = holds dll h
  outcome : status = -1 ∧ dll' = unloaded ∧ (∃ name ∈ names, o.dlsym name = none) ∨
    status = 0 ∧ dll'.hDnssdDLL = dll.hDnssdDLL ∧
      (∀ name ∈ names, ∃ a, Found o handle t.events dll' name a) ∧
      ∀ name ∉ names, dll'.pointer name = dll.pointer name

theorem lookUp_looked (o : LoadOutcome) {handle : Handle} {dll : Dll}
    (hdll : dll.hDnssdDLL = some handle) (rest : List (Symbol × Int × String)) :
    ∃ dll' status, Looked o handle dll (rest.map (·.1)) (lookUp o handle dll rest) dll' status := by
  induction rest generalizing dll with
  | nil => exact ⟨dll, 0, rfl, fun _ => rfl, fun _ => Nat.zero_add _, .inr ⟨rfl, rfl, by simp, by simp⟩⟩
  | cons s rest ih =>
      obtain ⟨name, line, text⟩ := s
      cases hsym : o.dlsym name with
      | none =>
          have hlook : lookUp o handle dll ((name, line, text) :: rest) =
              ⟨[.dlsym handle name none, .print (.code "load_cygwin_dnssd_dll[" line
                ("]: Function not found: " ++ text ++ "\n")), .dlclose handle],
                .ok (unloaded, -1)⟩ := by
            rw [lookUp, hsym]
            rfl
          rw [hlook]
          exact ⟨unloaded, -1, {
            result := rfl
            opens _ := rfl
            closes h := by simp [closes, holds, unloaded, hdll, List.countP_cons]
            outcome := .inl ⟨rfl, rfl, name, List.mem_cons_self, hsym⟩ }⟩
      | some a =>
          let found : Dll := { dll with pointer := Function.update dll.pointer name (some a) }
          have hlook : lookUp o handle dll ((name, line, text) :: rest) =
              (emit (.dlsym handle name (some a)) >>= fun _ => lookUp o handle found rest) := by
            rw [lookUp, hsym]
            rfl
          have hfound : found.hDnssdDLL = some handle := hdll
          obtain ⟨dll', status, h⟩ := ih hfound
          rw [hlook, emit_bind]
          refine ⟨dll', status, h.result, h.opens, h.closes, ?_⟩
          rcases h.outcome with ⟨hstatus, hdll', n, hn, hnone⟩ | ⟨hstatus, hhandle, hnames, hothers⟩
          · exact .inl ⟨hstatus, hdll', n, List.mem_cons_of_mem _ hn, hnone⟩
          · refine .inr ⟨hstatus, hhandle, fun n hn => ?_, fun n hn => ?_⟩
            · by_cases hrest : n ∈ rest.map (·.1)
              · obtain ⟨b, hb⟩ := hnames n hrest
                exact ⟨b, hb.dlsym, hb.pointer, List.mem_cons_of_mem _ hb.logged⟩
              · obtain rfl : n = name := (List.mem_cons.mp hn).resolve_right hrest
                refine ⟨a, hsym, ?_, List.mem_cons_self⟩
                rw [hothers n hrest]
                exact Function.update_self n (some a) dll.pointer
            · rw [List.map_cons, List.mem_cons, not_or] at hn
              obtain ⟨hne, hrest⟩ := hn
              rw [hothers n hrest]
              exact Function.update_of_ne hne (some a) dll.pointer

theorem mem_symbols (name : Symbol) : name ∈ symbols.map (·.1) := by
  cases name <;> decide

structure Loaded (o : LoadOutcome) (log : List Event) (dll : Dll)
    (t : Trace Event Stop (Dll × Int)) (dll' : Dll) (status : Int) : Prop where
  result : t.result = .ok (dll', status)
  balance : ∀ h, opens h t.events + holds dll h = closes h t.events + holds dll' h
  consistent : Consistent (log ++ t.events) dll'
  stays : dll.hDnssdDLL.isSome → dll' = dll
  outcome : status = -1 ∧ dll' = unloaded ∧ ¬ Loadable o dll ∨
    status = 0 ∧ dll'.hDnssdDLL.isSome ∧ Loadable o dll

theorem Consistent.append {log : List Event} {dll : Dll} (h : Consistent log dll)
    (new : List Event) : Consistent (log ++ new) dll := by
  rw [Consistent] at h ⊢
  cases hdll : dll.hDnssdDLL with
  | none =>
      rw [hdll] at h
      exact h
  | some handle =>
      rw [hdll] at h
      intro name
      obtain ⟨a, ha, hmem⟩ := h name
      exact ⟨a, ha, List.mem_append_left _ hmem⟩

theorem consistent_unloaded (log : List Event) : Consistent log unloaded := fun _ => rfl

theorem Consistent.eq_unloaded {log : List Event} {dll : Dll} (h : Consistent log dll)
    (hdll : dll.hDnssdDLL = none) : dll = unloaded := by
  rw [Consistent, hdll] at h
  obtain ⟨handle, pointer⟩ := dll
  obtain rfl : handle = none := hdll
  obtain rfl : pointer = fun _ => none := funext h
  rfl

theorem open_loaded {o : LoadOutcome} {dll : Dll} {handle : Handle} (hdll : dll.hDnssdDLL = none)
    (hopen : o.dlopen = some handle) (log : List Event) :
    ∃ dll' status, Loaded o log dll
      (emit (.dlopen (some handle)) >>= fun _ =>
        lookUp o handle { dll with hDnssdDLL := some handle } symbols) dll' status := by
  have hnot : ¬ dll.hDnssdDLL.isSome := by simp [hdll]
  let opened : Dll := { dll with hDnssdDLL := some handle }
  have hopened : opened.hDnssdDLL = some handle := rfl
  obtain ⟨dll', status, hlooked⟩ := lookUp_looked o hopened symbols
  refine ⟨dll', status, hlooked.result, fun x => ?_, ?_, fun hsome => absurd hsome hnot, ?_⟩
  · have hopens : opens x (.dlopen (some handle) :: (lookUp o handle opened symbols).events) =
        holds opened x := by
      rw [opens, List.countP_cons, ← opens, hlooked.opens x, holds, hopened]
      simp
    have hcloses : closes x (.dlopen (some handle) :: (lookUp o handle opened symbols).events) =
        closes x (lookUp o handle opened symbols).events := by
      rw [closes, List.countP_cons_of_neg (by simp), closes]
    have hholds : holds dll x = 0 := by rw [holds, hdll, if_neg (by simp)]
    rw [emit_bind, hopens, hcloses, hholds, hlooked.closes x, Nat.add_zero]
  · rcases hlooked.outcome with ⟨-, rfl, -⟩ | ⟨-, hhandle, hnames, -⟩
    · exact consistent_unloaded _
    · rw [Consistent, hhandle, hopened]
      intro name
      obtain ⟨a, ha⟩ := hnames name (mem_symbols name)
      exact ⟨a, ha.pointer, List.mem_append_right _ (List.mem_cons_of_mem _ ha.logged)⟩
  · rcases hlooked.outcome with ⟨hstatus, hdll', name, -, hnone⟩ | ⟨hstatus, hhandle, hnames, -⟩
    · refine .inl ⟨hstatus, hdll', ?_⟩
      rintro (hsome | ⟨-, hall⟩)
      · exact hnot hsome
      · have hname := hall name
        rw [hnone] at hname
        cases hname
    · refine .inr ⟨hstatus, by rw [hhandle, hopened, Option.isSome_some], .inr ⟨?_, ?_⟩⟩
      · rw [hopen, Option.isSome_some]
      · intro name
        obtain ⟨a, ha⟩ := hnames name (mem_symbols name)
        rw [ha.dlsym, Option.isSome_some]

theorem load_loaded (o : LoadOutcome) {log : List Event} {dll : Dll} (h : Consistent log dll) :
    ∃ dll' status, Loaded o log dll (loadCygwinDnssdDll o dll) dll' status := by
  cases hdll : dll.hDnssdDLL with
  | some handle =>
      have hload : loadCygwinDnssdDll o dll =
          ⟨[.print (.text "dnssd.dll already loaded\n")], .ok (dll, 0)⟩ := by
        rw [loadCygwinDnssdDll, hdll]
        rfl
      rw [hload]
      have hsome : dll.hDnssdDLL.isSome := by rw [hdll, Option.isSome_some]
      exact ⟨dll, 0, {
        result := rfl
        balance _ := rfl
        consistent := h.append _
        stays _ := rfl
        outcome := .inr ⟨rfl, hsome, .inl hsome⟩ }⟩
  | none =>
      cases hopen : o.dlopen with
      | none =>
          have hload : loadCygwinDnssdDll o dll =
              ⟨[.dlopen none, .print (.text (o.dlerror ++ "\n"))],
                .ok ({ dll with hDnssdDLL := none }, -1)⟩ := by
            rw [loadCygwinDnssdDll, hdll, hopen]
            rfl
          rw [hload, h.eq_unloaded hdll]
          exact ⟨unloaded, -1, {
            result := rfl
            balance _ := rfl
            consistent := consistent_unloaded _
            stays hsome := by simp [unloaded] at hsome
            outcome := .inl ⟨rfl, rfl, by simp [Loadable, unloaded, hopen]⟩ }⟩
      | some handle =>
          have hload : loadCygwinDnssdDll o dll =
              (emit (.dlopen (some handle)) >>= fun _ =>
                lookUp o handle { dll with hDnssdDLL := some handle } symbols) := by
            rw [loadCygwinDnssdDll, hdll, hopen]
            rfl
          rw [hload]
          exact open_loaded hdll hopen log

end Load

section Discover

def serviceCalls : Event → Option Bonjour.ServiceEvent
  | .service e => calls e
  | _ => none

/-- bonjour.c's discovery with the same outcomes, told in the words of this one. -/
def bonjourDiscover (d : Discovery) : Trace Bonjour.ServiceEvent Stop Unit :=
  observe calls (within id .service
    (Bonjour.browseLxiServices d.info d.timeout (keeping (timevalOf d.timeout) d.services)))

/-- The call does what the one of bonjour.c does, or, where the library cannot be
loaded, nothing. -/
def Agrees (d : Discovery) (dll : Dll) : Prop :=
  (¬ Loadable d.load dll ∧
    observe serviceCalls (cygwinDnssdDiscover d dll) = pure (unloaded, -1)) ∨
  Loadable d.load dll ∧ ∃ dll', dll'.hDnssdDLL.isSome ∧
    observe serviceCalls (cygwinDnssdDiscover d dll) =
      bonjourDiscover d >>= fun _ => pure (dll', 0)

theorem Consistent.complete {log : List Event} {dll : Dll} (h : Consistent log dll)
    (hdll : dll.hDnssdDLL.isSome) : Complete dll := by
  obtain ⟨handle, hdll⟩ := Option.isSome_iff_exists.mp hdll
  rw [Consistent, hdll] at h
  intro name
  obtain ⟨a, ha, -⟩ := h name
  rw [ha, Option.isSome_some]

theorem lookUp_quiet (o : LoadOutcome) (handle : Handle) (dll : Dll)
    (rest : List (Symbol × Int × String)) : Quiet serviceCalls (lookUp o handle dll rest) := by
  induction rest generalizing dll with
  | nil => exact quiet_pure _
  | cons s rest ih =>
      apply (quiet_emit rfl).bind
      intro _
      apply quiet_ite
      · exact (quiet_emit rfl).bind fun _ => (quiet_emit rfl).bind fun _ => quiet_pure _
      · exact ih _

theorem loadCygwinDnssdDll_quiet (o : LoadOutcome) (dll : Dll) :
    Quiet serviceCalls (loadCygwinDnssdDll o dll) := by
  rw [loadCygwinDnssdDll]
  apply quiet_ite
  · exact (quiet_emit rfl).bind fun _ => quiet_pure _
  · apply (quiet_emit rfl).bind
    intro _
    cases o.dlopen with
    | none => exact (quiet_emit rfl).bind fun _ => quiet_pure _
    | some handle => exact lookUp_quiet _ _ _ _

theorem observe_load {o : LoadOutcome} {log : List Event} {dll dll' : Dll} {status : Int}
    (h : Loaded o log dll (loadCygwinDnssdDll o dll) dll' status) :
    observe serviceCalls (loadCygwinDnssdDll o dll) = pure (dll', status) := by
  rw [observe, loadCygwinDnssdDll_quiet o dll, h.result]
  rfl

theorem observe_service (t : Trace Bonjour.ServiceEvent Stop Unit) :
    observe serviceCalls (within .service id t) = observe calls t := by
  obtain ⟨events, result⟩ := t
  rw [observe, observe, within, List.filterMap_map]
  cases result <;> rfl

theorem discover_agrees_of_consistent (d : Discovery) {log : List Event} {dll : Dll}
    (h : Consistent log dll) : Agrees d dll := by
  obtain ⟨dll', status, hload⟩ := load_loaded d.load h
  rw [Agrees, cygwinDnssdDiscover, observe_bind, observe_load hload, pure_bind]
  rcases hload.outcome with ⟨rfl, rfl, hnot⟩ | ⟨rfl, hsome, hloadable⟩
  · exact .inl ⟨hnot, rfl⟩
  · refine .inr ⟨hloadable, dll', hsome, ?_⟩
    have hcomplete := hload.consistent.complete hsome
    rw [bonjourDiscover, Bonjour.browseLxiServices, ← browseLoop_agrees hcomplete, ← observe_service]
    exact observe_bind serviceCalls _ _

/-- What holds of the static variables between any calls: no handle is lost or closed
twice, and no pointer outlives its library. -/
structure Sound (p : Process) : Prop where
  consistent : Consistent p.log p.dll
  balance : ∀ h, opens h p.log = closes h p.log + holds p.dll h

theorem opens_append (h : Handle) (es es' : List Event) :
    opens h (es ++ es') = opens h es + opens h es' := List.countP_append

theorem closes_append (h : Handle) (es es' : List Event) :
    closes h (es ++ es') = closes h es + closes h es' := List.countP_append

theorem opens_service (h : Handle) (es : List Bonjour.ServiceEvent) :
    opens h (es.map .service) = 0 := by
  rw [opens, List.countP_map]
  exact List.countP_eq_zero.mpr fun _ _ => Bool.false_ne_true

theorem closes_service (h : Handle) (es : List Bonjour.ServiceEvent) :
    closes h (es.map .service) = 0 := by
  rw [closes, List.countP_map]
  exact List.countP_eq_zero.mpr fun _ _ => Bool.false_ne_true

theorem discover_events (d : Discovery) {log : List Event} {dll dll' : Dll} {status : Int}
    (h : Loaded d.load log dll (loadCygwinDnssdDll d.load dll) dll' status) :
    ∃ new, (cygwinDnssdDiscover d dll).events = (loadCygwinDnssdDll d.load dll).events ++ new ∧
      (∀ x, opens x new = 0) ∧ (∀ x, closes x new = 0) ∧
      ∀ dll'' r, (cygwinDnssdDiscover d dll).result = .ok (dll'', r) → dll'' = dll' := by
  rw [cygwinDnssdDiscover, bind_ok h.result]
  by_cases hstatus : status ≠ 0
  · simp only [if_pos hstatus]
    refine ⟨_, rfl, fun _ => rfl, fun _ => rfl, ?_⟩
    rintro dll'' r ⟨⟩
    rfl
  · simp only [if_neg hstatus]
    refine ⟨_, rfl, fun x => ?_, fun x => ?_, fun dll'' r hr => ?_⟩
    · rw [events_bind_pure]
      exact opens_service x _
    · rw [events_bind_pure]
      exact closes_service x _
    · obtain ⟨-, -, h⟩ := result_bind_ok.mp hr
      cases h
      rfl

theorem step_sound {p q : Process} {d : Discovery} (hp : Sound p) (hstep : step p d = some q) :
    Sound q ∧ (p.dll.hDnssdDLL.isSome → q.dll = p.dll) := by
  obtain ⟨dll', status, hload⟩ := load_loaded d.load hp.consistent
  obtain ⟨new, hevents, hopens, hcloses, hresult⟩ := discover_events d hload
  rw [step] at hstep
  split at hstep
  · rename_i dll'' r hr
    cases hstep
    obtain rfl := hresult dll'' r hr
    refine ⟨⟨?_, fun x => ?_⟩, hload.stays⟩
    · rw [hevents, ← List.append_assoc]
      exact hload.consistent.append new
    · have hbalance := hp.balance x
      have hloaded := hload.balance x
      rw [hevents]
      change opens x (p.log ++ (_ ++ new)) = closes x (p.log ++ (_ ++ new)) + holds dll'' x
      rw [opens_append, opens_append, closes_append, closes_append, hopens, hcloses]
      omega
  · cases hstep

end Discover

def start : Process := ⟨unloaded, []⟩

theorem sound_start : Sound start where
  consistent _ := rfl
  balance _ := rfl

/-- However often and with whatever outcomes discovery is called: the pointers are all
null or all those of the open library, each opened handle but the one in use has been
closed once, a library in use stays, and every call does what the one of bonjour.c
does, apart from what it prints, unless the library cannot be loaded. -/
theorem discoveries_agree {ds : List Discovery} {p : Process} (hrun : run step start ds = some p) :
    Sound p ∧ (∀ d, Agrees d p.dll) ∧
      ∀ ds' q, p.dll.hDnssdDLL.isSome → run step p ds' = some q → q.dll = p.dll := by
  have hp : Sound p := run_preserves (fun _ _ _ hs h => (step_sound hs h).1) sound_start hrun
  refine ⟨hp, fun d => discover_agrees_of_consistent d hp.consistent, fun ds' q hsome hrun' => ?_⟩
  have hinv : Sound q ∧ q.dll = p.dll := by
    refine run_preserves (I := fun s => Sound s ∧ s.dll = p.dll) ?_ ⟨hp, rfl⟩ hrun'
    rintro s d t ⟨hs, hdll⟩ h
    obtain ⟨ht, hstays⟩ := step_sound hs h
    exact ⟨ht, (hstays (hdll ▸ hsome)).trans hdll⟩
  exact hinv.2

def discovery (dlsym : Symbol → Option Address) : Discovery where
  info := ⟨true, true, true⟩
  timeout := 500
  load := ⟨some 7, "", dlsym⟩
  services _ := ⟨0, 1, 5, 0, ⟨0, 0⟩, [], 0⟩

theorem discoveries_agree_second :
    ∃ p, run step start
        [discovery fun name => if name = .refSockFD then none else some 1, discovery fun _ => some 1] =
          some p ∧ p.dll.hDnssdDLL = some 7 ∧
      Sound p ∧ (∀ d, Agrees d p.dll) ∧
      ∀ ds' q, p.dll.hDnssdDLL.isSome → run step p ds' = some q → q.dll = p.dll := by
  have hrun : ∃ p, run step start
      [discovery fun name => if name = .refSockFD then none else some 1, discovery fun _ => some 1] =
        some p ∧ p.dll.hDnssdDLL = some 7 := ⟨_, rfl, rfl⟩
  obtain ⟨p, hrun, hdll⟩ := hrun
  exact ⟨p, hrun, hdll, discoveries_agree hrun⟩

end LibLxi.DnssdLoader

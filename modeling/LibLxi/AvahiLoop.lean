import LibLxi.Machine
import LibLxi.ServiceCallbacks

namespace LibLxi.AvahiLoop

open Avahi Info Machine ServiceCallbacks Tracing

abbrev Resolver := Nat

structure Asked where
  name : String
  type : String
  domain : String
  deriving DecidableEq, Repr

def avahiClientCallback (failed : Bool) : Avahi.Run Unit :=
  if failed then do
    emit (.error (.avahiStrerror "Avahi server connection failure: "))
    emit .pollQuit
  else return ()

def avahiTerminate : Avahi.Run Unit := emit .pollQuit

inductive Action
  | browse (b : Browsed)
  | resolve (r : Resolver) (event : ResolverEvent) (address : UInt32) (port : UInt16)
  | client (failed : Bool)
  | timeout

/-- The poll loop of one call: the resolvers created and freed in it, whether it has been told
to quit, and what the callbacks did. -/
structure Loop where
  asked : List Asked
  freed : List Resolver
  quit : Bool
  log : List CallbackEvent

def entered : Loop := ⟨[], [], false, []⟩

/-- The callback that runs. The library finds new services only for its browsers, and calls
back only for resolvers that are there. -/
def callback (info : LxiInfo) (types : List String) (l : Loop) : Action → Option (Avahi.Run Unit)
  | .browse b =>
      if b.event = .new ∧ b.type ∉ types then none else some (avahiBrowseCallback b)
  | .resolve r event address port =>
      if r ∈ l.freed then none
      else l.asked[r]?.map fun q =>
        avahiResolveCallback info ⟨event, q.name, q.type, q.domain, address, port⟩
  | .client failed => some (avahiClientCallback failed)
  | .timeout => some avahiTerminate

def created : Action → CallbackEvent → Option Asked
  | .browse b, .resolverNew name type domain =>
      if b.resolverNew then some ⟨name, type, domain⟩ else none
  | _, _ => none

def released : Action → CallbackEvent → Option Resolver
  | .resolve r .., .resolverFree => some r
  | _, _ => none

def quits : CallbackEvent → Bool
  | .pollQuit => true
  | _ => false

def Loop.after (l : Loop) (a : Action) (events : List CallbackEvent) : Loop where
  asked := l.asked ++ events.filterMap (created a)
  freed := l.freed ++ events.filterMap (released a)
  quit := events.any quits
  log := l.log ++ events

def step (info : LxiInfo) (types : List String) (l : Loop) (a : Action) : Option Loop :=
  if l.quit then none else (callback info types l a).map fun t => l.after a t.events

namespace Action

def announced : Action → Option Asked
  | .browse b =>
      if b.event = .new ∧ b.resolverNew then some ⟨b.name, b.type, b.domain⟩ else none
  | _ => none

def resolver : Action → Option Resolver
  | .resolve r .. => some r
  | _ => none

def ends : Action → Bool
  | .browse b => b.event = .failure
  | .resolve .. => false
  | .client failed => failed
  | .timeout => true

def told (info : LxiInfo) (asked : List Asked) : Action → Option Callback
  | .resolve r .found address port =>
      if info.service then asked[r]?.map fun q =>
        .service (inetNtoa address) q.name (serviceType q.type) port.toNat
      else none
  | _ => none

end Action

variable {info : LxiInfo} {types : List String}

structure Stepped (info : LxiInfo) (types : List String) (l : Loop) (a : Action) (l' : Loop) :
    Prop where
  running : l.quit = false
  asked : l'.asked = l.asked ++ a.announced.toList
  freed : l'.freed = l.freed ++ a.resolver.toList
  quit : l'.quit = a.ends
  told : l'.log.filterMap avahiCallback =
    l.log.filterMap avahiCallback ++ (a.told info l.asked).toList
  known : ∀ q ∈ a.announced, q.type ∈ types
  there : ∀ r ∈ a.resolver, r < l.asked.length ∧ r ∉ l.freed

theorem unannounced {a : Action} (h : a.announced = none) : ∀ q ∈ a.announced, q.type ∈ types := by
  rw [h]
  exact fun q hq => absurd hq (Option.not_mem_none q)

theorem unresolved {l : Loop} {a : Action} (h : a.resolver = none) :
    ∀ r ∈ a.resolver, r < l.asked.length ∧ r ∉ l.freed := by
  rw [h]
  exact fun r hr => absurd hr (Option.not_mem_none r)

theorem browse_stepped {l l' : Loop} {b : Browsed} (hrunning : l.quit = false)
    (h : (callback info types l (.browse b)).map (fun t => l.after (.browse b) t.events) =
      some l') : Stepped info types l (.browse b) l' := by
  rw [callback] at h
  split_ifs at h with hunknown
  · cases h
  have heq : l.after (.browse b) (avahiBrowseCallback b).events = l' := Option.some.inj h
  subst heq
  obtain ⟨event, name, type, domain, resolverNew⟩ := b
  have hknown : event = .new → type ∈ types := fun hnew =>
    not_not.mp fun hnot => hunknown ⟨hnew, hnot⟩
  cases event with
  | new =>
      cases resolverNew with
      | true =>
          refine ⟨hrunning, rfl, rfl, rfl, ?_, ?_, unresolved rfl⟩
          · exact List.filterMap_append
          · rintro q ⟨rfl⟩
            exact hknown rfl
      | false =>
          exact ⟨hrunning, rfl, rfl, rfl, List.filterMap_append, unannounced rfl, unresolved rfl⟩
  | failure | remove | allForNow | cacheExhausted =>
      exact ⟨hrunning, rfl, rfl, rfl, List.filterMap_append, unannounced rfl, unresolved rfl⟩

theorem resolve_stepped {l l' : Loop} {r : Resolver} {event : ResolverEvent} {address : UInt32}
    {port : UInt16} (hrunning : l.quit = false)
    (h : (callback info types l (.resolve r event address port)).map
      (fun t => l.after (.resolve r event address port) t.events) = some l') :
    Stepped info types l (.resolve r event address port) l' := by
  rw [callback] at h
  split_ifs at h with hfreed
  · cases h
  obtain ⟨t, ht, heq⟩ := Option.map_eq_some_iff.mp h
  obtain ⟨q, hq, rfl⟩ := Option.map_eq_some_iff.mp ht
  subst heq
  have hthere : ∀ r' ∈ (Action.resolve r event address port).resolver,
      r' < l.asked.length ∧ r' ∉ l.freed := by
    rintro r' ⟨rfl⟩
    exact ⟨(List.getElem?_eq_some_iff.mp hq).1, hfreed⟩
  cases event with
  | failure =>
      exact ⟨hrunning, rfl, rfl, rfl, List.filterMap_append, unannounced rfl, hthere⟩
  | found =>
      have htold : (Action.resolve r .found address port).told info l.asked =
          if info.service then
            some (.service (inetNtoa address) q.name (serviceType q.type) port.toNat) else none := by
        rw [Action.told, hq]
        rfl
      rw [avahiResolveCallback, announceService]
      cases hservice : info.service with
      | true =>
          refine ⟨hrunning, rfl, rfl, rfl, ?_, unannounced rfl, hthere⟩
          rw [htold, hservice]
          exact List.filterMap_append
      | false =>
          refine ⟨hrunning, rfl, rfl, rfl, ?_, unannounced rfl, hthere⟩
          rw [htold, hservice]
          exact List.filterMap_append

theorem step_stepped {l l' : Loop} {a : Action} (h : step info types l a = some l') :
    Stepped info types l a l' := by
  rw [step] at h
  split_ifs at h with hquit
  have hrunning : l.quit = false := Bool.eq_false_iff.mpr hquit
  cases a with
  | browse b => exact browse_stepped hrunning h
  | resolve r event address port => exact resolve_stepped hrunning h
  | client failed =>
      cases h
      cases failed with
      | true =>
          exact ⟨hrunning, rfl, rfl, rfl, List.filterMap_append, unannounced rfl, unresolved rfl⟩
      | false =>
          exact ⟨hrunning, rfl, rfl, rfl, List.filterMap_append, unannounced rfl, unresolved rfl⟩
  | timeout =>
      cases h
      exact ⟨hrunning, rfl, rfl, rfl, List.filterMap_append, unannounced rfl, unresolved rfl⟩

structure Sound (types : List String) (l : Loop) : Prop where
  once : l.freed.Nodup
  there : ∀ r ∈ l.freed, r < l.asked.length
  known : ∀ q ∈ l.asked, q.type ∈ types

theorem entered_sound (types : List String) : Sound types entered :=
  ⟨List.nodup_nil, fun _ hr => absurd hr List.not_mem_nil, fun _ hq => absurd hq List.not_mem_nil⟩

theorem step_sound {l l' : Loop} {a : Action} (hl : Sound types l)
    (h : step info types l a = some l') : Sound types l' := by
  have hstep := step_stepped h
  refine ⟨?_, fun r hr => ?_, fun q hq => ?_⟩
  · have hone : a.resolver.toList.Nodup := by cases a.resolver <;> simp
    rw [hstep.freed]
    refine List.nodup_append.mpr ⟨hl.once, hone, ?_⟩
    rintro r hr _ hr' rfl
    exact (hstep.there r (Option.mem_toList.mp hr')).2 hr
  · rw [hstep.asked, List.length_append]
    rw [hstep.freed, List.mem_append, Option.mem_toList] at hr
    rcases hr with hr | hr
    · exact Nat.lt_add_right _ (hl.there r hr)
    · exact Nat.lt_add_right _ (hstep.there r hr).1
  · rw [hstep.asked, List.mem_append, Option.mem_toList] at hq
    exact hq.elim (hl.known q) (hstep.known q)

theorem told_append {a : Action} {asked : List Asked} (hthere : ∀ r ∈ a.resolver, r < asked.length)
    (later : List Asked) : a.told info (asked ++ later) = a.told info asked := by
  cases a with
  | resolve r event address port =>
      cases event with
      | failure => rfl
      | found => rw [Action.told, Action.told, List.getElem?_append_left (hthere r rfl)]
  | browse b => rfl
  | client failed => rfl
  | timeout => rfl

structure Continued (info : LxiInfo) (l : Loop) (as : List Action) (l' : Loop) : Prop where
  asked : l'.asked = l.asked ++ as.filterMap Action.announced
  freed : l'.freed = l.freed ++ as.filterMap Action.resolver
  told : l'.log.filterMap avahiCallback =
    l.log.filterMap avahiCallback ++ as.filterMap (Action.told info l'.asked)
  running : ∀ a ∈ as.dropLast, a.ends = false

theorem filterMap_cons_toList {α β : Type} (f : α → Option β) (a : α) (as : List α) :
    (a :: as).filterMap f = (f a).toList ++ as.filterMap f := by
  cases h : f a with
  | none => rw [List.filterMap_cons_none h, Option.toList_none, List.nil_append]
  | some b => rw [List.filterMap_cons_some h, Option.toList_some, List.singleton_append]

theorem run_running {l l' : Loop} {a : Action} {as : List Action}
    (h : run (step info types) l (a :: as) = some l') : l.quit = false := by
  obtain ⟨u, hu, -⟩ := run_cons_eq_some.mp h
  exact (step_stepped hu).running

theorem run_continued {l l' : Loop} {as : List Action} (h : run (step info types) l as = some l') :
    Continued info l as l' := by
  induction as generalizing l with
  | nil =>
      obtain rfl := Option.some.inj h
      exact ⟨(List.append_nil _).symm, (List.append_nil _).symm, (List.append_nil _).symm,
        fun _ ha => absurd ha List.not_mem_nil⟩
  | cons a as ih =>
      obtain ⟨u, hu, hrest⟩ := run_cons_eq_some.mp h
      have hstep := step_stepped hu
      have hothers := ih hrest
      have hasked : l'.asked = l.asked ++ (a :: as).filterMap Action.announced := by
        rw [hothers.asked, hstep.asked, filterMap_cons_toList, List.append_assoc]
      refine ⟨hasked, ?_, ?_, ?_⟩
      · rw [hothers.freed, hstep.freed, filterMap_cons_toList, List.append_assoc]
      · have htold : a.told info l'.asked = a.told info l.asked := by
          rw [hasked]
          exact told_append (fun r hr => (hstep.there r hr).1) _
        rw [hothers.told, hstep.told, filterMap_cons_toList, htold, List.append_assoc]
      · cases as with
        | nil => exact fun _ hb => absurd hb List.not_mem_nil
        | cons b bs =>
            rw [List.dropLast_cons_cons, List.forall_mem_cons]
            exact ⟨hstep.quit.symm.trans (run_running hrest), hothers.running⟩

theorem run_quit {l l' : Loop} {as : List Action} (hl : l.quit = false)
    (h : run (step info types) l as = some l') : l'.quit = true ↔ ∃ a ∈ as, a.ends = true := by
  induction as generalizing l with
  | nil =>
      obtain rfl := Option.some.inj h
      simp [hl]
  | cons a as ih =>
      obtain ⟨u, hu, hrest⟩ := run_cons_eq_some.mp h
      have hends : u.quit = a.ends := (step_stepped hu).quit
      rw [List.exists_mem_cons_iff]
      cases hquit : u.quit with
      | false =>
          rw [ih hquit hrest, ← hends, hquit]
          simp
      | true =>
          have hlast : as = [] := by
            cases as with
            | nil => rfl
            | cons b bs =>
                rw [run_running hrest] at hquit
                cases hquit
          subst hlast
          obtain rfl := Option.some.inj hrest
          exact iff_of_true hquit (.inl (hends.symm.trans hquit))

def browserType : Avahi.Event → Option String
  | .browserNew _ service (some _) => some service
  | _ => none

theorem createBrowsers_types {t : Table} {o : Outcome} {services : List String}
    (h : (createBrowsers t o services).1 = 0) :
    (createBrowsers t o services).2.2.filterMap browserType = services := by
  induction services generalizing t with
  | nil => rfl
  | cons service services ih =>
      rw [createBrowsers, createServiceBrowser] at h ⊢
      by_cases hnew : o.browserNew service = true
      · simp only [hnew, if_true, ne_eq, not_true_eq_false, if_false] at h ⊢
        rw [List.filterMap_append, ih h]
        rfl
      · simp [hnew] at h

theorem freeLoop_types (sb : Int → Option Browser) (count : Int) :
    (freeLoop sb count).2.filterMap browserType = [] := by
  fun_induction freeLoop sb count with
  | case1 count hcount count' freed hfreed ih =>
      rw [hfreed] at ih
      exact ih
  | case2 count hcount => rfl

theorem avahiDiscover_types {t : Table} {timeout : Int} {o : Outcome}
    (h : (avahiDiscover t timeout o).1 = 0) :
    (avahiDiscover t timeout o).2.2.filterMap browserType = services := by
  rw [avahiDiscover] at h ⊢
  split_ifs at h ⊢ with hpoll hget hclient
  · cases h
  · cases h
  · cases h
  · have hcreated : (createBrowsers t o services).1 = 0 := h
    simp only [List.filterMap_append, createBrowsers_types hcreated, freeLoop_types, hcreated,
      ne_eq, not_true_eq_false, if_false]
    rfl

/-- What a poll loop owes to its application and to the library. -/
structure Faithful (info : LxiInfo) (as : List Action) (l : Loop) : Prop where
  asked : l.asked = as.filterMap Action.announced
  freed : l.freed = as.filterMap Action.resolver
  once : l.freed.Nodup
  there : ∀ r ∈ l.freed, r < l.asked.length
  told : l.log.filterMap avahiCallback = as.filterMap (Action.told info l.asked)
  known : ∀ q ∈ l.asked,
    ∃ kind : ServiceKind, q.type = kind.type ∧ serviceType q.type = kind.label
  quit : l.quit = true ↔ ∃ a ∈ as, a.ends = true
  running : ∀ a ∈ as.dropLast, a.ends = false

theorem services_kind {type : String} (h : type ∈ services) :
    ∃ kind : ServiceKind, type = kind.type := by
  simp only [services, List.mem_cons, List.not_mem_nil, or_false] at h
  rcases h with rfl | rfl | rfl | rfl | rfl
  · exact ⟨.lxi, rfl⟩
  · exact ⟨.vxi11, rfl⟩
  · exact ⟨.scpiRaw, rfl⟩
  · exact ⟨.scpiTelnet, rfl⟩
  · exact ⟨.hislip, rfl⟩

/-- In every run of the poll loop the callbacks free each resolver at most once and only after
it has been created, and tell the application of the services that are resolved, in order, each
from its own announcement and under a known type. -/
theorem discovery_faithful {t : Table} {timeout : Int} {o : Outcome}
    (hreached : (avahiDiscover t timeout o).1 = 0) {as : List Action} {l : Loop}
    (h : run (step info ((avahiDiscover t timeout o).2.2.filterMap browserType)) entered as =
      some l) : Faithful info as l := by
  rw [avahiDiscover_types hreached] at h
  have hsound : Sound services l :=
    run_preserves (fun _ _ _ hl hstep => step_sound hl hstep) (entered_sound services) h
  have hcontinued := run_continued h
  refine ⟨hcontinued.asked, hcontinued.freed, hsound.once, hsound.there, hcontinued.told,
    fun q hq => ?_, run_quit rfl h, hcontinued.running⟩
  obtain ⟨kind, hkind⟩ := services_kind (hsound.known q hq)
  exact ⟨kind, hkind, hkind ▸ avahi_serviceType kind⟩

def working : Outcome := ⟨true, true, true, fun _ => true⟩

def twoServices : List Action :=
  [.browse ⟨.new, "scope", "_lxi._tcp", "local", true⟩,
    .browse ⟨.new, "psu", "_vxi-11._tcp", "local", true⟩, .resolve 1 .found 0x0a01a8c0 111,
    .browse ⟨.allForNow, "", "_lxi._tcp", "local", true⟩, .resolve 0 .failure 0 0, .timeout]

theorem discovery_faithful_two :
    ∃ l, run (step ⟨true, true, true⟩
        ((avahiDiscover start 1000 working).2.2.filterMap browserType)) entered twoServices = some l ∧
      Faithful ⟨true, true, true⟩ twoServices l ∧ l.quit = true ∧ l.freed = [1, 0] ∧
      l.log.filterMap avahiCallback = [.service "192.168.1.10" "psu" "vxi-11" 111] := by
  have hreached : (avahiDiscover start 1000 working).1 = 0 := rfl
  obtain ⟨l, h, hquit, hfreed, htold⟩ : ∃ l,
      run (step ⟨true, true, true⟩ services) entered twoServices = some l ∧ l.quit = true ∧
      l.freed = [1, 0] ∧
      l.log.filterMap avahiCallback = [.service "192.168.1.10" "psu" "vxi-11" 111] :=
    ⟨_, rfl, rfl, rfl, rfl⟩
  rw [← avahiDiscover_types hreached] at h
  exact ⟨l, h, discovery_faithful hreached h, hquit, hfreed, htold⟩

end LibLxi.AvahiLoop

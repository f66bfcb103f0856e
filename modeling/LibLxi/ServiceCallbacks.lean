import LibLxi.Avahi
import LibLxi.Bonjour

namespace LibLxi.ServiceCallbacks

open Info Tracing

inductive ServiceKind
  | lxi
  | vxi11
  | scpiRaw
  | scpiTelnet
  | hislip
  deriving DecidableEq, Repr

namespace ServiceKind

def type : ServiceKind → String
  | lxi => "_lxi._tcp"
  | vxi11 => "_vxi-11._tcp"
  | scpiRaw => "_scpi-raw._tcp"
  | scpiTelnet => "_scpi-telnet._tcp"
  | hislip => "_hislip._tcp"

def label : ServiceKind → String
  | lxi => "lxi"
  | vxi11 => "vxi-11"
  | scpiRaw => "scpi-raw"
  | scpiTelnet => "scpi-telnet"
  | hislip => "hislip"

end ServiceKind

structure Service where
  name : String
  kind : ServiceKind
  domain : String
  interface : String
  address : UInt32
  port : UInt16

def Service.callback (s : Service) : Callback :=
  .service (inetNtoa s.address) s.name s.kind.label s.port.toNat

def promised (info : LxiInfo) (services : List Service) : List Callback :=
  if info.service then services.map Service.callback else []

section Avahi

def avahiCallback : Avahi.CallbackEvent → Option Callback
  | .callback c => some c
  | _ => none

def avahiTurn (info : LxiInfo) (s : Service) : Avahi.Run Unit := do
  Avahi.avahiBrowseCallback ⟨.new, s.name, s.kind.type, s.domain, true⟩
  Avahi.avahiResolveCallback info ⟨.found, s.name, s.kind.type, s.domain, s.address, s.port⟩

def avahiRun (info : LxiInfo) (services : List Service) : Avahi.Run Unit :=
  services.forM (avahiTurn info)

theorem avahi_serviceType (kind : ServiceKind) : Avahi.serviceType kind.type = kind.label := by
  cases kind <;> rfl

theorem avahiTurn_eq (info : LxiInfo) (s : Service) :
    avahiTurn info s = ⟨.resolverNew s.name s.kind.type s.domain ::
      (promised info [s]).map .callback ++ [.resolverFree], .ok ()⟩ := by
  simp only [avahiTurn, Avahi.avahiResolveCallback, Avahi.announceService, avahi_serviceType]
  rw [promised]
  cases info.service <;> rfl

theorem avahi_keeps_promise (info : LxiInfo) (services : List Service) :
    (avahiRun info services).result = .ok () ∧
      (avahiRun info services).events.filterMap avahiCallback = promised info services := by
  have hok : (avahiRun info services).result = .ok () := by
    apply forM_ok
    intro s _
    rw [avahiTurn_eq]
  refine ⟨hok, ?_⟩
  have hturn (s : Service) :
      (avahiTurn info s).events.filterMap avahiCallback = promised info [s] := by
    rw [avahiTurn_eq, promised]
    split_ifs <;> rfl
  rw [avahiRun, (forM_returns hok).2]
  simp only [List.filterMap_flatMap, hturn, promised]
  split_ifs
  · exact List.map_eq_flatMap.symm
  · simp

end Avahi

section Bonjour

def bonjourCallback : Bonjour.Event → Option Callback
  | .callback c => some c
  | _ => none

/-- What Bonjour meets when it resolves a service: the block malloc returns, the
reference, the further addresses of the host and the uninitialised text. -/
structure Meeting where
  block : Bonjour.Block
  ref : Bonjour.Ref
  addresses : List UInt32
  buffer : String

def bonjourTurn (info : LxiInfo) (s : Service × Meeting) : Bonjour.Run Unit :=
  Bonjour.browseCallback info
    { errorCode := 0
      serviceName := s.1.name
      regtype := s.1.kind.type ++ "."
      interface := s.1.interface
      malloc := some s.2.block
      resolveError := 0
      ref := s.2.ref
      resolved := [⟨0, Bonjour.htons s.1.port, some (s.1.address :: s.2.addresses), s.2.buffer⟩]
      processError := 0 }

def bonjourRun (info : LxiInfo) (services : List (Service × Meeting)) : Bonjour.Run Unit :=
  services.forM (bonjourTurn info)

theorem bonjour_silent {info : LxiInfo} (hb : ¬ info.broadcast) (s : Service × Meeting) :
    (bonjourTurn info s).result = .error .nullCallback := by
  simp only [bonjourTurn, Bonjour.browseCallback, Bonjour.notify, hb]
  rfl

theorem bonjour_first_call {info : LxiInfo} (hb : info.broadcast) (s : Service × Meeting)
    (services : List (Service × Meeting)) : .broadcast s.1.name s.1.interface ∈
      (bonjourRun info (s :: services)).events.filterMap bonjourCallback := by
  apply List.mem_filterMap.mpr
  refine ⟨.callback (.broadcast s.1.name s.1.interface), ?_, rfl⟩
  apply mem_bind_left
  simp only [bonjourTurn, Bonjour.browseCallback, Bonjour.notify, hb, if_true]
  exact List.mem_cons_self

end Bonjour

/-- Both backends get through the services, with the promised calls and no
others. -/
structure Alike (info : LxiInfo) (services : List (Service × Meeting)) : Prop where
  avahi : (avahiRun info (services.map (·.1))).events.filterMap avahiCallback =
    promised info (services.map (·.1))
  bonjour : (bonjourRun info services).events.filterMap bonjourCallback =
    promised info (services.map (·.1))
  avahiReturns : (avahiRun info (services.map (·.1))).result = .ok ()
  bonjourReturns : (bonjourRun info services).result = .ok ()

theorem not_alike_cons (info : LxiInfo) (s : Service × Meeting)
    (services : List (Service × Meeting)) : ¬ Alike info (s :: services) := by
  intro h
  by_cases hb : info.broadcast
  · have hcall := bonjour_first_call hb s services
    rw [h.bonjour, promised] at hcall
    split_ifs at hcall
    · obtain ⟨s', -, hs'⟩ := List.mem_map.mp hcall
      cases hs'
    · cases hcall
  · have herror : (bonjourRun info (s :: services)).result = .error .nullCallback :=
      result_bind_error.mpr (.inl (bonjour_silent hb s))
    cases herror.symm.trans h.bonjourReturns

/-- The two backends notify alike if and only if there is nothing to notify: on
the first service Bonjour calls info->broadcast, set or not. -/
theorem backends_alike_iff (info : LxiInfo) (services : List (Service × Meeting)) :
    Alike info services ↔ services = [] := by
  constructor
  · intro h
    cases services with
    | nil => rfl
    | cons s services => exact absurd h (not_alike_cons info s services)
  · rintro rfl
    obtain ⟨hreturns, hcalls⟩ := avahi_keeps_promise info []
    refine ⟨hcalls, ?_, hreturns, rfl⟩
    rw [promised]
    split_ifs <;> rfl

def oscilloscope : Service := ⟨"DSO", .lxi, "local", "eth0", 0x0a01a8c0, 80⟩

theorem bonjour_broadcasts :
    ¬ Alike ⟨true, true, true⟩ [(oscilloscope, ⟨0, 0, [], ""⟩)] ∧
      ¬ Alike ⟨false, true, true⟩ [(oscilloscope, ⟨0, 0, [], ""⟩)] :=
  ⟨not_alike_cons _ _ _, not_alike_cons _ _ _⟩

end LibLxi.ServiceCallbacks

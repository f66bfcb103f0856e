import LibLxi.Bonjour
import LibLxi.Machine

namespace LibLxi.CygwinDnssd

open Bonjour Info Machine Platform Tracing

abbrev Handle := Nat

abbrev Address := Nat

inductive Symbol
  | browse
  | resolve
  | processResult
  | refDeallocate
  | refSockFD
  deriving DecidableEq, Repr

/-- The static variables: the handle of the library and the pointers that the names
of its functions are macros for. -/
structure Dll where
  hDnssdDLL : Option Handle
  pointer : Symbol → Option Address

def unloaded : Dll := ⟨none, fun _ => none⟩

inductive Event
  | dlopen (handle : Option Handle)
  | dlsym (handle : Handle) (name : Symbol) (address : Option Address)
  | dlclose (handle : Handle)
  | service (e : ServiceEvent)
  | print (message : Message)

inductive Stop
  | nullFunction (name : Symbol)
  | service (s : Bonjour.Stop)
  deriving DecidableEq, Repr

structure LoadOutcome where
  dlopen : Option Handle
  dlerror : String
  dlsym : Symbol → Option Address

/-- The functions in the order in which they are looked up, with the line and the
name of the message. The last message cuts its name short. -/
def symbols : List (Symbol × Int × String) :=
  [(.browse, 74, "DNSServiceBrowse"), (.resolve, 81, "DNSServiceResolve"),
    (.processResult, 88, "DNSServiceProcessResult"), (.refDeallocate, 95, "DNSServiceRefDeallocate"),
    (.refSockFD, 101, "DNSServiceRefSockF")]

/-- The lookups, which the source writes out one after the other. A failed one has
overwritten its pointer before error_load resets all of them. -/
def lookUp (o : LoadOutcome) (handle : Handle) :
    Dll → List (Symbol × Int × String) → Trace Event Stop (Dll × Int)
  | dll, [] => return (dll, 0)
  | dll, (name, line, text) :: rest => do
      emit (.dlsym handle name (o.dlsym name))
      let dll := { dll with pointer := Function.update dll.pointer name (o.dlsym name) }
      if (o.dlsym name).isNone then
        emit (.print (.code "load_cygwin_dnssd_dll[" line
          ("]: Function not found: " ++ text ++ "\n")))
        emit (.dlclose handle)
        return (unloaded, -1)
      else lookUp o handle dll rest

def loadCygwinDnssdDll (o : LoadOutcome) (dll : Dll) : Trace Event Stop (Dll × Int) :=
  if dll.hDnssdDLL.isSome then do
    emit (.print (.text "dnssd.dll already loaded\n"))
    return (dll, 0)
  else do
    emit (.dlopen o.dlopen)
    match o.dlopen with
    | none => do
        emit (.print (.text (o.dlerror ++ "\n")))
        return ({ dll with hDnssdDLL := none }, -1)
    | some handle => lookUp o handle { dll with hDnssdDLL := some handle } symbols

/-- A function is called through its pointer, set or not. -/
def through {E : Type} (dll : Dll) (name : Symbol) : Trace E Stop Unit :=
  match dll.pointer name with
  | none => stop (.nullFunction name)
  | some _ => pure ()

def resolveService (dll : Dll) (block : Block) (data : BrowseData) (b : Browsed) :
    Trace Bonjour.Event Stop Unit := do
  through dll .resolve
  if b.resolveError ≠ 0 then
    emit (.resolve block none)
    emit (.print (.code "DNSServiceResolve() failed: " b.resolveError ""))
  else
    emit (.resolve block (some b.ref))
    through dll .processResult
    emit (.processResult b.ref)
    let _ ← within id .service (b.resolved.foldlM (resolveCallback block) (some data))
    if b.processError ≠ 0 then
      emit (.print (.code "DNSServiceProcessResult() failed: " b.processError ""))
    else
      through dll .refDeallocate
      emit (.deallocate b.ref)

def browseCallback (dll : Dll) (info : LxiInfo) (b : Browsed) : Trace Bonjour.Event Stop Unit :=
  if b.errorCode ≠ 0 then
    emit (.print (.code "Bonjour browse Callback, DNSServiceErrorType " b.errorCode ""))
  else do
    within id .service (notify info.broadcast (.broadcast b.serviceName b.interface))
    emit (.malloc b.malloc)
    match b.malloc with
    | none => emit (.print (.text "Browse data struct memory allocation failed\n"))
    | some block => resolveService dll block ⟨info, b.serviceName, b.regtype⟩ b

/-- The timeout is constant, so each service type gets all of it. -/
def browseLoop (dll : Dll) (info : LxiInfo) (o : String → ServiceOutcome) (timeout : Timeval) :
    Option Ref → List (String × String) → Trace ServiceEvent Stop Unit
  | service, [] => do
      through dll .refDeallocate
      let ref ← need (.service .uninitialised) service
      emit (.deallocate ref)
  | _, s :: ss => do
      let x := o s.1
      through dll .browse
      if x.browseError ≠ 0 then
        emit (.browse s.1 none)
        emit (.print (.code "DNSServiceBrowse() failed: " x.browseError "\n"))
      else
        emit (.browse s.1 (some x.ref))
        through dll .refSockFD
        emit (.fdSet x.sockFd)
        emit (.select (x.sockFd + 1) timeout)
        if x.select > 0 then
          through dll .processResult
          emit (.processResult x.ref)
          x.browsed.forM fun b => within .browsed id (browseCallback dll info b)
          if x.processError ≠ 0 then
            emit (.print (.code "DNSServiceProcessResult() failed: " x.processError "\n"))
          else
            emit (.print (.text ("\n\n" ++ s.1 ++ "  SUCCESS\n\n")))
            browseLoop dll info o timeout (some x.ref) ss
        else if x.select = 0 then
          emit (.print (.text ("\n\n" ++ s.1 ++ "  timed out...\n\n")))
          browseLoop dll info o timeout (some x.ref) ss
        else emit (.print (.text "select() failed\n"))

def browseLxiServices (dll : Dll) (info : LxiInfo) (timeout : Int) (o : String → ServiceOutcome) :
    Trace ServiceEvent Stop Unit :=
  browseLoop dll info o (timevalOf timeout) none lxiServices

structure Discovery where
  info : LxiInfo
  timeout : Int
  load : LoadOutcome
  services : String → ServiceOutcome

def cygwinDnssdDiscover (d : Discovery) (dll : Dll) : Trace Event Stop (Dll × Int) := do
  let (dll, status) ← loadCygwinDnssdDll d.load dll
  if status ≠ 0 then
    emit (.print (.text "error load dll dnssd.dll\n"))
    return (dll, -1)
  else
    within .service id (browseLxiServices dll d.info d.timeout d.services)
    return (dll, 0)

structure Process where
  dll : Dll
  log : List Event

def step (p : Process) (d : Discovery) : Option Process :=
  match (cygwinDnssdDiscover d p.dll).result with
  | .ok (dll, _) => some ⟨dll, p.log ++ (cygwinDnssdDiscover d p.dll).events⟩
  | .error _ => none

end LibLxi.CygwinDnssd

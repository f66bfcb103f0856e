import LibLxi.Info
import LibLxi.Platform
import LibLxi.Tracing

namespace LibLxi.Bonjour

open Info Platform Tracing

abbrev Block := Nat

abbrev Ref := Nat

structure BrowseData where
  info : LxiInfo
  servicename : String
  regtype : String
  deriving DecidableEq, Repr

inductive Event
  | malloc (data : Option Block)
  | free (data : Block)
  | resolve (data : Block) (ref : Option Ref)
  | processResult (ref : Ref)
  | deallocate (ref : Ref)
  | callback (c : Callback)
  | print (message : Message)

/-- Why a callback does not return: a call through a null pointer, a walk over
an uninitialised address list, or an access to a block that is free. -/
inductive Stop
  | nullCallback
  | uninitialised
  | freed
  deriving DecidableEq, Repr

abbrev Run (α : Type) := Trace Event Stop α

/-- What the library calls resolve_callback with, and the list getaddrinfo
makes of the host, none if it fails. buffer is the uninitialised address text. -/
structure Resolved where
  errorCode : Int
  port : UInt16
  addresses : Option (List UInt32)
  buffer : String

/-- What the library calls browse_callback with, the outcomes of the calls it
makes, and the calls of resolve_callback that DNSServiceProcessResult delivers. -/
structure Browsed where
  errorCode : Int
  serviceName : String
  regtype : String
  interface : String
  malloc : Option Block
  resolveError : Int
  ref : Ref
  resolved : List Resolved
  processError : Int

def lxiServices : List (String × String) :=
  [("_lxi._tcp.", "lxi"), ("_vxi-11._tcp.", "vxi-11"), ("_scpi-raw._tcp.", "scpi-raw"),
    ("_scpi-telnet._tcp.", "scpi-telnet"), ("_hislip._tcp.", "hislip")]

def serviceType (regtype : String) : String :=
  match lxiServices.find? fun s => regtype = s.1 with
  | none => "Unknown"
  | some s => s.2

def htons (port : UInt16) : UInt16 := port <<< 8 ||| port >>> 8

def ntohs (port : UInt16) : UInt16 := port <<< 8 ||| port >>> 8

/-- A call through a pointer in info, which is made whether it is set or not. -/
def notify (set : Bool) (c : Callback) : Run Unit :=
  if set then emit (.callback c) else stop .nullCallback

def resolveIpAddress (r : Resolved) : Run String := do
  let addresses ← need .uninitialised r.addresses
  match addresses with
  | [] => return r.buffer
  | address :: _ => return inetNtoa address

/-- The block is none from the time it is free. An error leaves it as it is. -/
def resolveCallback (block : Block) (data : Option BrowseData) (r : Resolved) :
    Run (Option BrowseData) :=
  if r.errorCode ≠ 0 then do
    emit (.print (.code "Bonjour Resolve Callback, DNSServiceErrorType " r.errorCode ""))
    return data
  else do
    let ipAddress ← resolveIpAddress r
    let data ← need .freed data
    notify data.info.service
      (.service ipAddress data.servicename (serviceType data.regtype) (ntohs r.port).toNat)
    emit (.free block)
    return none

def resolveService (block : Block) (data : BrowseData) (b : Browsed) : Run Unit :=
  if b.resolveError ≠ 0 then do
    emit (.resolve block none)
    emit (.print (.code "DNSServiceResolve() failed: " b.resolveError ""))
  else do
    emit (.resolve block (some b.ref))
    emit (.processResult b.ref)
    let _ ← b.resolved.foldlM (resolveCallback block) (some data)
    if b.processError ≠ 0 then
      emit (.print (.code "DNSServiceProcessResult() failed: " b.processError ""))
    else emit (.deallocate b.ref)

def browseCallback (info : LxiInfo) (b : Browsed) : Run Unit :=
  if b.errorCode ≠ 0 then
    emit (.print (.code "Bonjour browse Callback, DNSServiceErrorType " b.errorCode ""))
  else do
    notify info.broadcast (.broadcast b.serviceName b.interface)
    emit (.malloc b.malloc)
    match b.malloc with
    | none => emit (.print (.text "Browse data struct memory allocation failed\n"))
    | some block => resolveService block ⟨info, b.serviceName, b.regtype⟩ b

inductive ServiceEvent
  | browse (regtype : String) (ref : Option Ref)
  | fdSet (fd : Int)
  | select (nfds : Int) (tv : Timeval)
  | processResult (ref : Ref)
  | deallocate (ref : Ref)
  | browsed (e : Event)
  | print (message : Message)

structure ServiceOutcome where
  browseError : Int
  ref : Ref
  sockFd : Int
  select : Int
  left : Timeval
  browsed : List Browsed
  processError : Int

abbrev Browse (α : Type) := Trace ServiceEvent Stop α

/-- The loop over the service types and what comes behind it. The three exits by
return leave service as it is. -/
def browseLoop (info : LxiInfo) (o : String → ServiceOutcome) :
    Timeval → Option Ref → List (String × String) → Browse Unit
  | _, service, [] => do
      let ref ← need .uninitialised service
      emit (.deallocate ref)
  | tv, _, s :: ss => do
      let x := o s.1
      if x.browseError ≠ 0 then
        emit (.browse s.1 none)
        emit (.print (.code "DNSServiceBrowse() failed: " x.browseError "\n"))
      else
        emit (.browse s.1 (some x.ref))
        emit (.fdSet x.sockFd)
        emit (.select (x.sockFd + 1) tv)
        if x.select > 0 then
          emit (.processResult x.ref)
          x.browsed.forM fun b => within .browsed id (browseCallback info b)
          if x.processError ≠ 0 then
            emit (.print (.code "DNSServiceProcessResult() failed: " x.processError "\n"))
          else browseLoop info o x.left (some x.ref) ss
        else if x.select = 0 then
          emit (.print (.text "DNSServiceProcessResult() timed out\n"))
          browseLoop info o x.left (some x.ref) ss
        else emit (.print (.text "select() failed\n"))

def browseLxiServices (info : LxiInfo) (timeout : Int) (o : String → ServiceOutcome) :
    Browse Unit :=
  browseLoop info o (timevalOf timeout) none lxiServices

end LibLxi.Bonjour

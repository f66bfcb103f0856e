import LibLxi.Info
import LibLxi.Platform
import LibLxi.Tracing
import Mathlib.Logic.Function.Basic

namespace LibLxi.Avahi

open Info Platform Tracing

abbrev Browser := Nat

/-- The statics of avahi.c that outlive a call. sb has a cell for every index,
also for those outside the array of ten. -/
structure Table where
  sb : Int → Option Browser
  count : Int
  nextBrowser : Browser

def start : Table := ⟨fun _ => none, 0, 0⟩

inductive Event
  | browserNew (index : Int) (service : String) (browser : Option Browser)
  | timeoutNew (timeout : Int)
  | pollLoop
  | browserFree (index : Int) (browser : Option Browser)
  | clientFree
  | pollFree
  | error (message : Message)
  deriving DecidableEq, Repr

structure Outcome where
  pollNew : Bool
  pollGet : Bool
  clientNew : Bool
  browserNew : String → Bool

def createServiceBrowser (t : Table) (service : String) (o : Outcome) : Int × Table × List Event :=
  let browser := if o.browserNew service then some t.nextBrowser else none
  let created : Event := .browserNew t.count service browser
  -- a null browser is stored and counted like any other
  let t' : Table := {
    sb := Function.update t.sb t.count browser
    count := t.count + 1
    nextBrowser := if o.browserNew service then t.nextBrowser + 1 else t.nextBrowser }
  if o.browserNew service then (0, t', [created])
  else (1, t', [created, .error (.avahiStrerror "Failed to create Avahi service browser: ")])

def services : List String :=
  ["_lxi._tcp", "_vxi-11._tcp", "_scpi-raw._tcp", "_scpi-telnet._tcp", "_hislip._tcp"]

/-- The calls of create_service_browser; the first failure goes to fail_sb. -/
def createBrowsers (t : Table) (o : Outcome) : List String → Int × Table × List Event
  | [] => (0, t, [])
  | service :: rest =>
      let (failed, t', created) := createServiceBrowser t service o
      if failed ≠ 0 then (1, t', created)
      else
        let (failed, t', more) := createBrowsers t' o rest
        (failed, t', created ++ more)

/-- The while loop behind fail_sb, with the value it leaves in count. -/
def freeLoop (sb : Int → Option Browser) (count : Int) : Int × List Event :=
  if count - 1 ≥ 0 then
    let (count', freed) := freeLoop sb (count - 1)
    (count', .browserFree (count - 1) (sb (count - 1)) :: freed)
  else (count - 1, [])
termination_by count.toNat
decreasing_by omega

def avahiDiscover (t : Table) (timeout : Int) (o : Outcome) : Int × Table × List Event :=
  if o.pollNew = false then (1, t, [.error (.text "Failed to create simple Avahi poll object.\n")])
  else if o.pollGet = false then
    (1, t, [.error (.text "Failed to create Avahi poll API object.\n"), .pollFree])
  else if o.clientNew = false then
    (1, t, [.error (.avahiStrerror "Failed to create Avahi client: "), .pollFree])
  else
    let (failed, t', created) := createBrowsers t o services
    let browsed : List Event := if failed ≠ 0 then [] else [.timeoutNew timeout, .pollLoop]
    let (count, freed) := freeLoop t'.sb t'.count
    (failed, { t' with count }, created ++ browsed ++ freed ++ [.clientFree, .pollFree])

inductive BrowserEvent
  | failure
  | new
  | remove
  | allForNow
  | cacheExhausted
  deriving DecidableEq, Repr

inductive ResolverEvent
  | failure
  | found
  deriving DecidableEq, Repr

/-- What the Avahi library calls the browse callback with, and whether the
resolver that it asks for can be created. -/
structure Browsed where
  event : BrowserEvent
  name : String
  type : String
  domain : String
  resolverNew : Bool

structure Resolved where
  event : ResolverEvent
  name : String
  type : String
  domain : String
  address : UInt32
  port : UInt16

inductive CallbackEvent
  | resolverNew (name : String) (type : String) (domain : String)
  | resolverFree
  | pollQuit
  | callback (c : Callback)
  | error (message : Message)

abbrev Run (α : Type) := Trace CallbackEvent Empty α

def serviceType (type : String) : String :=
  if type = "_lxi._tcp" then "lxi"
  else if type = "_vxi-11._tcp" then "vxi-11"
  else if type = "_scpi-raw._tcp" then "scpi-raw"
  else if type = "_scpi-telnet._tcp" then "scpi-telnet"
  else if type = "_hislip._tcp" then "hislip"
  else "Unknown"

def resolveFailure (r : Resolved) : Message :=
  .avahiStrerror ("Avahi failed to resolve service '" ++ r.name ++ "' of type '" ++ r.type ++
    "' in domain '" ++ r.domain ++ "': ")

def announceService (info : LxiInfo) (r : Resolved) : Run Unit :=
  match r.event with
  | .failure => emit (.error (resolveFailure r))
  | .found =>
      if info.service then
        emit (.callback (.service (inetNtoa r.address) r.name (serviceType r.type) r.port.toNat))
      else return ()

def avahiResolveCallback (info : LxiInfo) (r : Resolved) : Run Unit := do
  announceService info r
  emit .resolverFree

def avahiBrowseCallback (b : Browsed) : Run Unit :=
  match b.event with
  | .failure => do
      emit (.error (.avahiStrerror "(Avahi) "))
      emit .pollQuit
  | .new => do
      emit (.resolverNew b.name b.type b.domain)
      if b.resolverNew then return ()
      else emit (.error (.avahiStrerror ("Avahi failed to resolve service '" ++ b.name ++ "': ")))
  | .remove | .allForNow | .cacheExhausted => return ()

end LibLxi.Avahi

import LibLxi.DeviceId
import LibLxi.Info
import LibLxi.Lxi

namespace LibLxi.Discover

open DeviceId (ProbeOutcome getDeviceId idLengthMax)
open Tcp (afInet)
open Info Lxi Memory Platform Tracing

inductive Event
  | getifaddrs (status : Int)
  | freeifaddrs
  | socket (fd : Int)
  | setBroadcast (fd : Int)
  | setTimeout (fd : Int) (tv : Timeval)
  | bind (fd : Int)
  | sendto (fd : Int) (message : List UInt8) (address : UInt32) (port : Nat)
  | recvfrom (fd : Int) (count : Int)
  | shutdown (fd : Int)
  | searched (status : Int)
  | browsed (status : Int)
  | probe (e : DeviceId.Event)
  | callback (c : Callback)
  | error (message : Message)

inductive Stop
  | probe (r : DeviceId.Stop)
  | nullBroadaddr
  | nullName
  deriving DecidableEq, Repr

abbrev Search (α : Type) := Trace Event Stop α

structure Datagram where
  size : Nat
  sender : UInt32
  probe : ProbeOutcome

/-- Everything one discover_devices depends on besides its arguments. Behind
the last datagram recvfrom reports a timeout or an error; id is the
uninitialised buffer. -/
structure SearchOutcome where
  socket : Int
  broadcastOption : Int
  timeoutOption : Int
  id : Cells UInt8
  datagrams : List Datagram

/-- An entry of the list that getifaddrs returns: the family of ifa_addr and the
address in ifa_broadaddr, each none for a null pointer. -/
structure Ifaddrs where
  name : Option String
  addr : Option Int
  broadaddr : Option UInt32
  search : SearchOutcome

structure DiscoverOutcome where
  getifaddrs : Int
  entries : List Ifaddrs
  mdns : Int

/-- lxi_discover_t, with the values a C caller can pass besides its members. -/
inductive DiscoverType
  | vxi11
  | mdns
  | unknown (value : Nat)
  deriving DecidableEq, Repr

inductive MdnsBackend
  | avahi
  | bonjour
  | cygwinDnssd
  deriving DecidableEq, Repr

def portRpc : Nat := 111

def rpcGetportMsg : List UInt8 :=
  [0x00, 0x00, 0x03, 0xe8, 0x00, 0x00, 0x00, 0x00,
    0x00, 0x00, 0x00, 0x02, 0x00, 0x01, 0x86, 0xa0,
    0x00, 0x00, 0x00, 0x02, 0x00, 0x00, 0x00, 0x03,
    0x00, 0x00, 0x00, 0x00, 0x00, 0x00, 0x00, 0x00,
    0x00, 0x00, 0x00, 0x00, 0x00, 0x00, 0x00, 0x00,
    0x00, 0x06, 0x07, 0xaf, 0x00, 0x00, 0x00, 0x01,
    0x00, 0x00, 0x00, 0x06, 0x00, 0x00, 0x00, 0x00]

def notify (set : Bool) (c : Callback) : Search Unit :=
  if set then emit (.callback c) else return ()

def Datagram.count (d : Datagram) : Int := min d.size idLengthMax

/-- The do loop of discover_devices. One buffer takes the IDs of all probes. -/
def receiveLoop (info : LxiInfo) (timeout fd : Int) : Cells UInt8 → List Datagram → Search Unit
  | _, [] => emit (.recvfrom fd (-1))
  | id, d :: ds => do
      emit (.recvfrom fd d.count)
      if d.count > 0 then
        let (status, id) ← within .probe .probe (getDeviceId timeout id d.probe)
        notify (status == 0 && info.device) (.device (inetNtoa d.sender) id)
        receiveLoop info timeout fd id ds
      else return ()

def optionsError (fd : Int) (text : String) : Search Int := do
  emit (.error (.text text))
  emit (.shutdown fd)
  return -1

def discoverDevices (broadaddr : Option UInt32) (info : LxiInfo) (timeout : Int)
    (o : SearchOutcome) : Search Int := do
  let fd := o.socket
  emit (.socket fd)
  if fd = -1 then
    emit (.error (.text "Socket creation error"))
    return -1
  else
    emit (.setBroadcast fd)
    if o.broadcastOption = -1 then optionsError fd "setsockopt - SO_SOCKET"
    else
      emit (.setTimeout fd (timevalOf timeout))
      if o.timeoutOption = -1 then optionsError fd "setsockopt - SO_RCVTIMEO"
      else
        emit (.bind fd)
        let address ← need .nullBroadaddr broadaddr
        emit (.sendto fd rpcGetportMsg address portRpc)
        receiveLoop info timeout fd o.id o.datagrams
        return 0

def search (info : LxiInfo) (timeout : Int) (e : Ifaddrs) : Search Int := do
  let status ← discoverDevices e.broadaddr info timeout e.search
  emit (.searched status)
  return status

def announce (info : LxiInfo) (address : UInt32) : Option String → Search Unit
  | none => return ()
  | some name => notify info.broadcast (.broadcast (inetNtoa address) name)

def visit (info : LxiInfo) (timeout : Int) (e : Ifaddrs) : Search Unit :=
  match e.broadaddr with
  | none => return ()
  | some address =>
      if e.addr = some afInet then do
        announce info address e.name
        let _ ← search info timeout e
        return ()
      else return ()

/-- Both functions return what they have if the interfaces cannot be listed. -/
def overInterfaces {α : Type} (o : DiscoverOutcome) (a : α) (loop : List Ifaddrs → Search α) :
    Search α := do
  emit (.getifaddrs o.getifaddrs)
  if o.getifaddrs = 0 then
    let a ← loop o.entries
    emit .freeifaddrs
    return a
  else return a

def vxi11Discover (info : LxiInfo) (timeout : Int) (o : DiscoverOutcome) : Search Int := do
  overInterfaces o () fun entries => entries.forM (visit info timeout)
  return 0

/-- The callback of vxi11_discover_if, which does not look whether there is a
broadcast address. -/
def announceIf (info : LxiInfo) (broadaddr : Option UInt32) (name : String) : Search Unit :=
  if info.broadcast then do
    let address ← need .nullBroadaddr broadaddr
    emit (.callback (.broadcast (inetNtoa address) name))
  else return ()

def visitIf (info : LxiInfo) (ifname : String) (timeout : Int) (status : Int) (e : Ifaddrs) :
    Search Int :=
  if e.addr = some afInet then do
    let name ← need .nullName e.name
    if name = ifname then
      announceIf info e.broadaddr name
      search info timeout e
    else return status
  else return status

def vxi11DiscoverIf (info : LxiInfo) (ifname : String) (timeout : Int) (o : DiscoverOutcome) :
    Search Int :=
  overInterfaces o 0 fun entries => entries.foldlM (visitIf info ifname timeout) 0

/-- bonjour_discover is a void function: there the status is what the caller
finds in its place. -/
def mdnsDiscover (backend : Option MdnsBackend) (o : DiscoverOutcome) : Search Int :=
  match backend with
  | none => return 0
  | some _ => do
      emit (.browsed o.mdns)
      return o.mdns

def unknownType (value : Nat) : Search Int := do
  emit (.error (.code "Unknown discover type (" value ")\n"))
  return lxiError

def lxiDiscover (backend : Option MdnsBackend) (info : LxiInfo) (timeout : Int)
    (o : DiscoverOutcome) : DiscoverType → Search Int
  | .vxi11 => do
      let _ ← vxi11Discover info timeout o
      return lxiOk
  | .mdns => do
      let _ ← mdnsDiscover backend o
      return lxiOk
  | .unknown value => unknownType value

def lxiDiscoverIf (backend : Option MdnsBackend) (info : LxiInfo) (ifname : Option String)
    (timeout : Int) (o : DiscoverOutcome) : DiscoverType → Search Int
  | .vxi11 => do
      match ifname with
      | none =>
          let _ ← vxi11Discover info timeout o
          return lxiOk
      | some ifname =>
          let _ ← vxi11DiscoverIf info ifname timeout o
          return lxiOk
  | .mdns => do
      let _ ← mdnsDiscover backend o
      return lxiOk
  | .unknown value => unknownType value

end LibLxi.Discover

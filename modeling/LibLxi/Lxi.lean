import LibLxi.Platform
import Mathlib.Logic.Function.Basic
import Mathlib.Data.List.Basic

namespace LibLxi.Lxi

open Platform

def sessionsMax : Nat := 1024

def lxiOk : Int := 0

def lxiError : Int := -1

inductive Backend
  | vxi11
  | tcp
  deriving DecidableEq, Repr

abbrev Block := Nat

abbrev FnPtr := Option Backend

abbrev DataPtr := Option Block

structure Session where
  allocated : Bool
  connected : Bool
  data : DataPtr
  connect : FnPtr
  disconnect : FnPtr
  send : FnPtr
  receive : FnPtr
  deriving DecidableEq, Inhabited, Repr

/-- lxi_protocol_t, with the values a C caller can pass besides its members. -/
inductive Protocol
  | vxi11
  | raw
  | hislip
  | unknown (value : Nat)
  deriving DecidableEq, Repr

inductive Operation
  | connect
  | disconnect
  | send
  | receive
  deriving DecidableEq, Repr

inductive Event
  | malloc (block : Block)
  | free (data : DataPtr)
  | call (operation : Operation) (fn : FnPtr) (data : DataPtr)
  | error (message : Message)
  deriving DecidableEq, Repr

/-- The session table, the heap and the log, newest event first, over the world
of the backends. Indices from sessionsMax on are the memory behind the array. -/
structure State (σ : Type) where
  session : Nat → Session
  nextBlock : Block
  log : List Event
  world : σ

/-- A call through a function pointer on a data pointer: what it returns and
how it changes the world, none while it has not returned. -/
abbrev Effect (σ : Type) := FnPtr → DataPtr → σ → Option (Int × σ)

variable {σ : Type}

namespace State

def emit (s : State σ) (e : Event) : State σ := { s with log := e :: s.log }

def setSession (s : State σ) (i : Nat) (entry : Session) : State σ :=
  { s with session := Function.update s.session i entry }

/-- malloc returns a fresh block. A null result is left out: both connect
functions dereference it at once. -/
def malloc (s : State σ) : Block × State σ :=
  (s.nextBlock, { s with nextBlock := s.nextBlock + 1, log := .malloc s.nextBlock :: s.log })

def invoke (s : State σ) (operation : Operation) (f : Effect σ) (fn : FnPtr) (data : DataPtr) :
    Option (Int × State σ) :=
  (f fn data s.world).map fun r =>
    (r.1, { s with log := .call operation fn data :: s.log, world := r.2 })

end State

/-- The guard admits device = sessionsMax, one entry behind the array. -/
def isValidSession (session : Nat → Session) (device : Int) : Bool :=
  if device < 0 then false
  else if device > sessionsMax then false
  else if (session device.toNat).allocated = false then false
  else true

def lxiInit (s : State σ) : Int × State σ :=
  let session (i : Nat) : Session :=
    if i < sessionsMax then { s.session i with allocated := false, connected := false }
    else s.session i
  (lxiOk, { s with session })

def freeSession (session : Nat → Session) : Option Nat :=
  (List.range sessionsMax).find? fun i => (session i).allocated = false

/-- The switch over the protocol, none where it goes to error_protocol. -/
def backendOf : Protocol → Option Backend
  | .vxi11 => some .vxi11
  | .raw => some .tcp
  | .hislip => none
  | .unknown _ => none

def setUp (s : State σ) (i : Nat) (backend : Backend) : State σ :=
  let (block, s) := s.malloc
  s.setSession i { s.session i with
    connect := some backend, send := some backend, receive := some backend,
    disconnect := some backend, data := some block }

def markConnected (s : State σ) (i : Nat) : State σ :=
  s.setSession i { s.session i with allocated := true, connected := true }

def markFree (s : State σ) (i : Nat) : State σ :=
  s.setSession i { s.session i with connected := false, allocated := false }

/-- The part of lxi_connect behind the switch. A failed connect leaves the
pointers it wrote in the free entry. -/
def connectSession (connect : Effect σ) (s : State σ) (i : Nat) : Option (Int × State σ) :=
  (s.invoke .connect connect (s.session i).connect (s.session i).data).map fun (r, s) =>
    if r ≠ 0 then
      (lxiError, if (s.session i).data.isSome then s.emit (.free (s.session i).data) else s)
    else (i, markConnected s i)

def lxiConnect (connect : Effect σ) (protocol : Protocol) (s : State σ) : Option (Int × State σ) :=
  match freeSession s.session with
  | none => some (lxiError, s.emit (.error (.text "Too many active sessions!\n")))
  | some i =>
      match backendOf protocol with
      | none => some (lxiError, s)
      | some backend => connectSession connect (setUp s i backend) i

def disconnectSection (disconnect : Effect σ) (s : State σ) (i : Nat) : Option (Int × State σ) :=
  let called : Option (State σ) :=
    if (s.session i).connected then
      (s.invoke .disconnect disconnect (s.session i).disconnect (s.session i).data).map (·.2)
    else some s
  called.map fun s => (lxiOk, markFree (s.emit (.free (s.session i).data)) i)

def lxiDisconnect (disconnect : Effect σ) (device : Int) (s : State σ) : Option (Int × State σ) :=
  if isValidSession s.session device = false then some (lxiError, s)
  else disconnectSection disconnect s device.toNat

def transferResult (n : Int) : Int := if n < 0 then lxiError else n

def lxiSend (send : Effect σ) (device : Int) (s : State σ) : Option (Int × State σ) :=
  if isValidSession s.session device = false then some (lxiError, s)
  else
    let entry := s.session device.toNat
    (s.invoke .send send entry.send entry.data).map fun (bytesSent, s) =>
      (transferResult bytesSent, s)

def lxiReceive (receive : Effect σ) (device : Int) (s : State σ) : Option (Int × State σ) :=
  if isValidSession s.session device = false then some (lxiError, s)
  else
    let entry := s.session device.toNat
    (s.invoke .receive receive entry.receive entry.data).map fun (bytesReceived, s) =>
      (transferResult bytesReceived, s)

end LibLxi.Lxi

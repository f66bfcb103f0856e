import LibLxi.Application
import LibLxi.Tcp
import LibLxi.Vxi11

namespace LibLxi.Backends

open Lxi Memory Platform

/-- The world of the two backends: the contents of the data blocks, per socket
the bytes still to be delivered and the bytes handed over so far, the buffer of
the last receive call, and the system and RPC calls made, newest last. -/
structure World where
  tcp : Block → Tcp.TcpData
  vxi11 : Block → Vxi11.Vxi11Data
  pending : Int → List UInt8
  handed : Int → List UInt8
  message : Cells UInt8
  events : List (Tcp.Event ⊕ Vxi11.Event)

def World.tcpEvents (w : World) (events : List Tcp.Event) : World :=
  { w with events := w.events ++ events.map .inl }

def World.rpcEvents (w : World) (events : List Vxi11.Event) : World :=
  { w with events := w.events ++ events.map .inr }

def World.sent (w : World) (fd : Int) (sent : Tcp.Sent) : World :=
  { w with handed := Function.update w.handed fd (w.handed fd ++ sent.handed) }.tcpEvents
    sent.events

def World.received (w : World) (fd : Int) (received : Tcp.Received) : World :=
  { w with
    pending := Function.update w.pending fd received.pending
    message := received.message }.tcpEvents received.events

/-- What a connect function does to a data block. A call through a null pointer
does not return. -/
def connectEffect (port : Int) (name : Option String) (timeout : Int) (tcp : Tcp.ConnectOutcome)
    (vxi11 : Vxi11.ConnectOutcome) : Effect World
  | some .tcp, some block, w =>
      let (ret, data, events) := Tcp.tcpConnect port timeout tcp
      some (ret, { w with tcp := Function.update w.tcp block data }.tcpEvents events)
  | some .vxi11, some block, w =>
      let (ret, data, events) := Vxi11.vxi11Connect (w.vxi11 block) name timeout vxi11
      some (ret, { w with vxi11 := Function.update w.vxi11 block data }.rpcEvents events)
  | _, _, _ => none

def sendEffect (message : Cells UInt8) (length : Length) (timeout : Int) (tcp : Tcp.SendOutcome)
    (vxi11 : Vxi11.WriteReply) : Effect World
  | some .tcp, some block, w =>
      let fd := (w.tcp block).serverSocket
      let sent := Tcp.tcpSend (w.tcp block) message length.val timeout tcp
      sent.ret.map fun ret => (ret, w.sent fd sent)
  | some .vxi11, some block, w =>
      let (ret, events) := Vxi11.vxi11Send (w.vxi11 block) message length.val timeout vxi11
      some (ret, w.rpcEvents events)
  | _, _, _ => none

def receiveEffect (message : Cells UInt8) (length : Length) (timeout : Int) (tcp : Tcp.ReceiveOutcome)
    (vxi11 : List Vxi11.ReadReply) : Effect World
  | some .tcp, some block, w =>
      let fd := (w.tcp block).serverSocket
      let received := Tcp.tcpReceive (w.tcp block) message length.val timeout (w.pending fd) tcp
      received.ret.map fun ret => (ret, w.received fd received)
  | some .vxi11, some block, w =>
      let received := Vxi11.vxi11Receive (w.vxi11 block) message length.val timeout vxi11
      received.ret.map fun ret =>
        (ret, { w with message := received.message }.rpcEvents received.events)
  | _, _, _ => none

def disconnectEffect : Effect World
  | some .tcp, some block, w =>
      let (ret, events) := Tcp.tcpDisconnect (w.tcp block)
      some (ret, w.tcpEvents events)
  | some .vxi11, some block, w =>
      let (ret, events) := Vxi11.vxi11Disconnect (w.vxi11 block)
      some (ret, w.rpcEvents events)
  | _, _, _ => none

/-- A call of an application with the outcomes of everything either backend
could ask for; only those of the session's own backend are used. -/
inductive Call
  | connect (protocol : Protocol) (port : Int) (name : Option String) (timeout : Int)
      (tcp : Tcp.ConnectOutcome) (vxi11 : Vxi11.ConnectOutcome)
  | send (device : Int) (message : Cells UInt8) (length : Length) (timeout : Int)
      (tcp : Tcp.SendOutcome) (vxi11 : Vxi11.WriteReply)
  | receive (device : Int) (message : Cells UInt8) (length : Length) (timeout : Int)
      (tcp : Tcp.ReceiveOutcome) (vxi11 : List Vxi11.ReadReply)
  | disconnect (device : Int)

def Call.toCall : Call → Application.Call World
  | .connect protocol port name timeout tcp vxi11 =>
      .connect protocol (connectEffect port name timeout tcp vxi11)
  | .send device message length timeout tcp vxi11 =>
      .send device (sendEffect message length timeout tcp vxi11)
  | .receive device message length timeout tcp vxi11 =>
      .receive device (receiveEffect message length timeout tcp vxi11)
  | .disconnect device => .disconnect device disconnectEffect

def perform (s : State World) (call : Call) : Option (Int × State World) :=
  Application.perform s call.toCall

def step (c : Application.Client (State World)) (call : Call) :
    Option (Application.Client (State World)) :=
  Application.step Application.perform c call.toCall

def quiet (stream : List UInt8) : World where
  tcp := fun _ => ⟨3⟩
  vxi11 := default
  pending := fun _ => stream
  handed := fun _ => []
  message := fun _ => 0
  events := []

end LibLxi.Backends

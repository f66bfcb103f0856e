import LibLxi.Memory
import LibLxi.Platform

namespace LibLxi.Tcp

open Memory Platform

structure TcpData where
  serverSocket : Int
  deriving DecidableEq, Repr

/-- The address that tcp_connect passes to connect(): sin_port is the port
reduced by htons to 16 bits. -/
structure ServerAddress where
  port : Nat
  addr : UInt32
  deriving DecidableEq, Repr

inductive Event
  | socket (fd : Int)
  | getFlags (fd : Int)
  | setFlags (fd : Int) (nonblock : Bool)
  | connect (fd : Int) (address : ServerAddress)
  | fdSet (fd : Int)
  | select (nfds : Int) (tv : Timeval)
  | getsockopt (fd : Int)
  | send (fd : Int) (pos : Int) (size : Int)
  | recv (fd : Int) (pos : Int) (size : Int) (dontWait : Bool)
  | close (fd : Int)
  | error (message : Message)
  deriving DecidableEq, Repr

/-- What the system calls of one tcp_connect return, each where it is reached.
errno is the value a failing call leaves for strerror. -/
structure ConnectOutcome where
  socket : Int
  getFlags : Int
  setNonblock : Int
  inetAddr : UInt32
  getaddrinfo : Int
  aiFamily : Int
  aiAddr : UInt32
  connect : Int
  connectErrno : Errno
  select : Int
  resetFlags : Int
  getsockopt : Int
  soError : Int
  errno : Errno
  deriving Inhabited

def inaddrNone : UInt32 := 0xffffffff

def afInet : Int := 2

def resolve (o : ConnectOutcome) : Except Message UInt32 :=
  if o.inetAddr = inaddrNone then
    if o.getaddrinfo ≠ 0 then .error (.gaiStrerror o.getaddrinfo)
    else if o.aiFamily ≠ afInet then .error (.text "Not an IPv4 address\n")
    else .ok o.aiAddr
  else .ok o.inetAddr

def awaitConnect (fd timeout : Int) (o : ConnectOutcome) : Int × List Event :=
  if o.connect < 0 then
    if o.connectErrno = .inProgress then
      (o.select, [.fdSet fd, .select (fd + 1) (timevalOf timeout)])
    else (o.connect, [])
  else (1, [])

/-- The checks behind the reset of the socket flags. The value that getsockopt
stores in opt is not looked at. -/
def checkConnect (fd result : Int) (o : ConnectOutcome) : Int × List Event :=
  if o.resetFlags < 0 then (-1, [.error (.strerror o.errno), .close fd])
  else if result < 0 then (-1, [.error (.text "connect() call failed\n"), .close fd])
  else if result = 0 then (-1, [.error (.text "connect() call timed out\n"), .close fd])
  else if o.getsockopt ≠ 0 then (-1, [.getsockopt fd, .error (.strerror o.errno), .close fd])
  else (0, [.getsockopt fd])

def establish (fd port timeout : Int) (addr : UInt32) (o : ConnectOutcome) : Int × List Event :=
  let (result, waited) := awaitConnect fd timeout o
  let (ret, checked) := checkConnect fd result o
  (ret, .connect fd ⟨(port % 2 ^ 16).toNat, addr⟩ :: waited ++ .setFlags fd false :: checked)

/-- The returned value, the data block and the system calls. The block holds
the result of socket() on every exit. -/
def tcpConnect (port timeout : Int) (o : ConnectOutcome) : Int × TcpData × List Event :=
  let fd := o.socket
  if fd < 0 then (-1, ⟨fd⟩, [.socket fd, .error (.text "socket() call failed\n")])
  else if o.getFlags < 0 then (-1, ⟨fd⟩, [.socket fd, .getFlags fd, .error (.strerror o.errno)])
  else if o.setNonblock < 0 then
    (-1, ⟨fd⟩, [.socket fd, .getFlags fd, .setFlags fd true, .error (.strerror o.errno)])
  else
    match resolve o with
    | .error message => (-1, ⟨fd⟩, [.socket fd, .getFlags fd, .setFlags fd true, .error message])
    | .ok addr =>
        let (ret, events) := establish fd port timeout addr o
        (ret, ⟨fd⟩, .socket fd :: .getFlags fd :: .setFlags fd true :: events)

inductive Exit (port timeout : Int) (o : ConnectOutcome) : Int × TcpData × List Event → Prop
  | noSocket (hsocket : o.socket < 0) :
      Exit port timeout o
        (-1, ⟨o.socket⟩, [.socket o.socket, .error (.text "socket() call failed\n")])
  | noFlags (hsocket : 0 ≤ o.socket) (hflags : o.getFlags < 0) :
      Exit port timeout o
        (-1, ⟨o.socket⟩, [.socket o.socket, .getFlags o.socket, .error (.strerror o.errno)])
  | blocking (hsocket : 0 ≤ o.socket) (hflags : 0 ≤ o.getFlags) (hnonblock : o.setNonblock < 0) :
      Exit port timeout o (-1, ⟨o.socket⟩,
        [.socket o.socket, .getFlags o.socket, .setFlags o.socket true, .error (.strerror o.errno)])
  | unresolved (hsocket : 0 ≤ o.socket) (hflags : 0 ≤ o.getFlags) (hnonblock : 0 ≤ o.setNonblock)
      (message : Message) (hresolve : resolve o = .error message) :
      Exit port timeout o (-1, ⟨o.socket⟩,
        [.socket o.socket, .getFlags o.socket, .setFlags o.socket true, .error message])
  | tried (hsocket : 0 ≤ o.socket) (hflags : 0 ≤ o.getFlags) (hnonblock : 0 ≤ o.setNonblock)
      (addr : UInt32) (hresolve : resolve o = .ok addr) :
      Exit port timeout o ((establish o.socket port timeout addr o).1, ⟨o.socket⟩,
        .socket o.socket :: .getFlags o.socket :: .setFlags o.socket true ::
          (establish o.socket port timeout addr o).2)

theorem tcpConnect_exit (port timeout : Int) (o : ConnectOutcome) :
    Exit port timeout o (tcpConnect port timeout o) := by
  rw [tcpConnect]
  by_cases hsocket : o.socket < 0
  · rw [if_pos hsocket]
    exact .noSocket hsocket
  rw [if_neg hsocket]
  by_cases hflags : o.getFlags < 0
  · rw [if_pos hflags]
    exact .noFlags (Int.not_lt.mp hsocket) hflags
  rw [if_neg hflags]
  by_cases hnonblock : o.setNonblock < 0
  · rw [if_pos hnonblock]
    exact .blocking (Int.not_lt.mp hsocket) (Int.not_lt.mp hflags) hnonblock
  rw [if_neg hnonblock]
  cases hresolve : resolve o with
  | error message =>
      exact .unresolved (Int.not_lt.mp hsocket) (Int.not_lt.mp hflags) (Int.not_lt.mp hnonblock)
        message hresolve
  | ok addr =>
      exact .tried (Int.not_lt.mp hsocket) (Int.not_lt.mp hflags) (Int.not_lt.mp hnonblock) addr
        hresolve

def tcpDisconnect (data : TcpData) : Int × List Event := (0, [.close data.serverSocket])

inductive Transfer
  | count (n : Nat)
  | error (errno : Errno)
  deriving DecidableEq, Repr

/-- What a loop over send() calls did: the returned value, none while the call
is still waiting for the next result, and the bytes it handed to the socket. -/
structure Sent where
  ret : Option Int
  handed : List UInt8
  events : List Event

/-- The do loop of tcp_send. The next piece is read at message + n, where n is
the result of the last send() alone. -/
def sendLoop (fd : Int) (message : Cells UInt8) (n length bytesSent : Int) : List Transfer → Sent
  | [] => ⟨none, [], []⟩
  | .error errno :: _ => ⟨some (-1), [], [.send fd n length, .error (.strerror errno)]⟩
  | .count k :: results =>
      let next : Sent :=
        if length - k > 0 then sendLoop fd message k (length - k) (bytesSent + k) results
        else ⟨some (bytesSent + k), [], []⟩
      ⟨next.ret, read message n k ++ next.handed, .send fd n length :: next.events⟩

structure SendOutcome where
  select : Int
  errno : Errno
  results : List Transfer
  deriving Inhabited

def tcpSend (data : TcpData) (message : Cells UInt8) (length timeout : Int) (o : SendOutcome) :
    Sent :=
  let fd := data.serverSocket
  let waited : List Event := [.fdSet fd, .select (fd + 1) (timevalOf timeout)]
  if o.select = -1 then ⟨some (-1), [], waited ++ [.error (.strerror o.errno)]⟩
  else if o.select ≠ 0 then
    let sent := sendLoop fd message 0 length 0 o.results
    { sent with events := waited ++ sent.events }
  else ⟨some (-1), [], waited ++ [.error (.text "Timeout\n")]⟩

structure Received where
  ret : Option Int
  message : Cells UInt8
  pending : List UInt8
  events : List Event

/-- The do loop of tcp_receive_. The next piece is stored at message + n, where
n is the result of the last recv() alone; an error of any kind ends the loop
like the end of the stream does. -/
def receiveLoop (fd : Int) (dontWait : Bool) (n length bytesReceived : Int) (message : Cells UInt8)
    (pending : List UInt8) : List Transfer → Received
  | [] => ⟨none, message, pending, []⟩
  | .error _ :: _ => ⟨some bytesReceived, message, pending, [.recv fd n length dontWait]⟩
  | .count k :: results =>
      let message := store message n (pending.take k)
      let pending := pending.drop k
      let next : Received :=
        if k > 0 then
          receiveLoop fd dontWait k (length - k) (bytesReceived + k) message pending results
        else ⟨some (bytesReceived + k), message, pending, []⟩
      { next with events := .recv fd n length dontWait :: next.events }

structure ReceiveOutcome where
  select : Int
  results : List Transfer
  deriving Inhabited

def tcpReceive_ (data : TcpData) (message : Cells UInt8) (length timeout : Int)
    (pending : List UInt8) (dontWait : Bool) (o : ReceiveOutcome) : Received :=
  let fd := data.serverSocket
  let waited : List Event := [.fdSet fd, .select (fd + 1) (timevalOf timeout)]
  if o.select = -1 then ⟨some (-1), message, pending, waited⟩
  else if o.select ≠ 0 then
    let received := receiveLoop fd dontWait 0 length 0 message pending o.results
    { received with events := waited ++ received.events }
  else ⟨some (-1), message, pending, waited ++ [.error (.text "Timeout\n")]⟩

def tcpReceive (data : TcpData) (message : Cells UInt8) (length timeout : Int)
    (pending : List UInt8) (o : ReceiveOutcome) : Received :=
  tcpReceive_ data message length timeout pending true o

def tcpReceiveWait (data : TcpData) (message : Cells UInt8) (length timeout : Int)
    (pending : List UInt8) (o : ReceiveOutcome) : Received :=
  tcpReceive_ data message length timeout pending false o

end LibLxi.Tcp

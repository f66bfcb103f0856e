import LibLxi.Memory
import LibLxi.Platform

namespace LibLxi.Vxi11

open Memory Platform

abbrev Client := Nat

inductive ClntStat
  | success
  | failure (code : Nat)
  deriving DecidableEq, Inhabited, Repr

structure CreateLinkParms where
  clientId : Int
  lockDevice : Bool
  lockTimeout : UInt32
  device : String
  deriving DecidableEq, Repr

structure CreateLinkResp where
  error : Int32
  lid : Int32
  abortPort : UInt16
  maxRecvSize : UInt32
  deriving DecidableEq, Inhabited

structure DeviceWriteParms where
  lid : Int32
  ioTimeout : UInt32
  lockTimeout : UInt32
  flags : Int32
  data : List UInt8
  deriving DecidableEq

structure DeviceWriteResp where
  error : Int32
  size : UInt32
  deriving DecidableEq, Inhabited

structure DeviceReadParms where
  lid : Int32
  requestSize : UInt32
  ioTimeout : UInt32
  lockTimeout : UInt32
  flags : Int32
  termChar : UInt8
  deriving DecidableEq

/-- The counted bytes of an XDR opaque; the count data_len is a u_int. -/
structure Opaque where
  bytes : List UInt8
  isUInt : bytes.length < 2 ^ 32
  deriving DecidableEq

theorem empty_isUInt : ([] : List UInt8).length < 2 ^ 32 := Nat.two_pow_pos 32

structure DeviceReadResp where
  error : Int32
  reason : Int32
  data : Opaque
  deriving DecidableEq

structure Vxi11Data where
  rpcClient : Option Client
  linkResp : CreateLinkResp
  deriving DecidableEq, Inhabited

structure Timespec where
  sec : Int
  nsec : Int
  deriving DecidableEq, Inhabited, Repr

inductive Event
  | timedjoin (deadline : Timespec)
  | clntCreate (client : Option Client)
  | createLink (client : Option Client) (parms : CreateLinkParms)
  | destroyLink (client : Option Client) (lid : Int32)
  | deviceWrite (client : Option Client) (parms : DeviceWriteParms)
  /-- The reply's data is stored from dataVal on, relative to the message. -/
  | deviceRead (client : Option Client) (parms : DeviceReadParms) (dataVal : Int) (dataLen : Nat)
  | add (before : Int) (amount : Nat) (after : Int)
  | clntDestroy (client : Option Client)
  | error (message : Message)
  deriving DecidableEq

structure LinkOutcome where
  clntCreate : Option Client
  status : ClntStat
  linkResp : CreateLinkResp
  deriving Inhabited

def linkParms (client : Client) (name : Option String) : CreateLinkParms where
  clientId := toInt client
  lockDevice := false
  lockTimeout := 0
  device := name.getD "inst0"

/-- The connect action. The error field of the create_link reply is stored in
the data block and not looked at. -/
def _vxi11Connect (data : Vxi11Data) (name : Option String) (o : LinkOutcome) :
    Int × Vxi11Data × List Event :=
  match o.clntCreate with
  | none => (-1, { data with rpcClient := none }, [.clntCreate none])
  | some client =>
      let events := [.clntCreate (some client), .createLink (some client) (linkParms client name)]
      if o.status ≠ .success then
        (-1, ⟨some client, o.linkResp⟩, events ++ [.clntDestroy (some client)])
      else (0, ⟨some client, o.linkResp⟩, events)

section Link

variable {data : Vxi11Data} {name : Option String} {o : LinkOutcome} {client : Client}

theorem _vxi11Connect_uncreated (hclient : o.clntCreate = none) :
    _vxi11Connect data name o = (-1, { data with rpcClient := none }, [.clntCreate none]) := by
  rw [_vxi11Connect, hclient]

theorem _vxi11Connect_failed (hclient : o.clntCreate = some client) (hstatus : o.status ≠ .success) :
    _vxi11Connect data name o = (-1, ⟨some client, o.linkResp⟩,
      [.clntCreate (some client), .createLink (some client) (linkParms client name),
        .clntDestroy (some client)]) := by
  rw [_vxi11Connect, hclient]
  exact if_pos hstatus

theorem _vxi11Connect_succeeded (hclient : o.clntCreate = some client)
    (hstatus : o.status = .success) :
    _vxi11Connect data name o = (0, ⟨some client, o.linkResp⟩,
      [.clntCreate (some client), .createLink (some client) (linkParms client name)]) := by
  rw [_vxi11Connect, hclient]
  exact if_neg (not_not.mpr hstatus)

end Link

/-- Everything vxi11_connect depends on besides its arguments. When the timed
join fails the connect thread is cancelled after the first done events of
_vxi11_connect. -/
structure ConnectOutcome where
  clockGettime : Int
  now : Timespec
  pthreadCreate : Int
  timedjoin : Int
  done : Nat
  link : LinkOutcome
  deriving Inhabited

def connectDeadline (now : Timespec) (timeout : Int) : Timespec :=
  let sec := now.sec + timeout.tdiv 1000
  let nsec := now.nsec + timeout.tmod 1000 * 1000000
  if nsec ≥ 1000000000 then ⟨sec + 1, nsec.tmod 1000000000⟩ else ⟨sec, nsec⟩

/-- The data block a connect thread leaves when it is cancelled behind some of
its events. -/
def abandon (data : Vxi11Data) (done : Nat) (o : LinkOutcome) : Vxi11Data :=
  match done with
  | 0 => data
  | 1 => { data with rpcClient := o.clntCreate }
  | _ => (_vxi11Connect data none o).2.1

def vxi11Connect (data : Vxi11Data) (name : Option String) (timeout : Int) (o : ConnectOutcome) :
    Int × Vxi11Data × List Event :=
  if o.clockGettime ≠ 0 then (-1, data, [.error (.text "Error clock_gettime()\n")])
  else if o.pthreadCreate ≠ 0 then (-1, data, [.error (.text "Error pthread_create()\n")])
  else
    let (threadStatus, data', events) := _vxi11Connect data name o.link
    let joined : Event := .timedjoin (connectDeadline o.now timeout)
    if o.timedjoin ≠ 0 then (-1, abandon data o.done o.link, joined :: events.take o.done)
    else (threadStatus, data', joined :: events)

section Connect

variable {data : Vxi11Data} {name : Option String} {timeout : Int} {o : ConnectOutcome}

theorem vxi11Connect_unclocked (hclock : o.clockGettime ≠ 0) :
    vxi11Connect data name timeout o =
      (-1, data, [.error (.text "Error clock_gettime()\n")]) :=
  if_pos hclock

theorem vxi11Connect_uncreated (hclock : o.clockGettime = 0) (hcreate : o.pthreadCreate ≠ 0) :
    vxi11Connect data name timeout o =
      (-1, data, [.error (.text "Error pthread_create()\n")]) := by
  simp [vxi11Connect, hclock, hcreate]

theorem vxi11Connect_joined (hclock : o.clockGettime = 0) (hcreate : o.pthreadCreate = 0)
    (hjoin : o.timedjoin = 0) :
    vxi11Connect data name timeout o =
      ((_vxi11Connect data name o.link).1, (_vxi11Connect data name o.link).2.1,
        .timedjoin (connectDeadline o.now timeout) :: (_vxi11Connect data name o.link).2.2) := by
  simp [vxi11Connect, hclock, hcreate, hjoin]

theorem vxi11Connect_timedOut (hclock : o.clockGettime = 0) (hcreate : o.pthreadCreate = 0)
    (hjoin : o.timedjoin ≠ 0) :
    vxi11Connect data name timeout o =
      (-1, abandon data o.done o.link, .timedjoin (connectDeadline o.now timeout) ::
        (_vxi11Connect data name o.link).2.2.take o.done) := by
  simp [vxi11Connect, hclock, hcreate, hjoin]

end Connect

def vxi11Disconnect (data : Vxi11Data) : Int × List Event :=
  (0, [.destroyLink data.rpcClient data.linkResp.lid, .clntDestroy data.rpcClient])

structure WriteReply where
  status : ClntStat
  resp : DeviceWriteResp
  deriving Inhabited

def writeParms (data : Vxi11Data) (message : Cells UInt8) (length : Nat) (timeout : Int) :
    DeviceWriteParms where
  lid := data.linkResp.lid
  ioTimeout := UInt32.ofInt timeout
  lockTimeout := 0
  flags := 0x9
  data := read message 0 length

/-- The whole message goes into one device_write. The error field of the reply
is not looked at, and its size is converted to int. -/
def vxi11Send (data : Vxi11Data) (message : Cells UInt8) (length : Nat) (timeout : Int)
    (reply : WriteReply) : Int × List Event :=
  let events := [.deviceWrite data.rpcClient (writeParms data message length timeout)]
  if reply.status ≠ .success then (-1, events) else (toInt reply.resp.size.toNat, events)

/-- The answer to one device_read: RPC status and reply. When the call fails,
data is what the decoder had stored before it gave up. -/
structure ReadReply where
  status : ClntStat
  resp : DeviceReadResp

def ReadReply.dataLen (reply : ReadReply) : Nat := reply.resp.data.bytes.length

def receiveEndBit : Int32 := 0x04

def receiveTermCharBit : Int32 := 0x02

/-- What a vxi11_receive call did: the returned value, none while the call is
still waiting for the next reply, and the caller's buffer. -/
structure Received where
  ret : Option Int
  message : Cells UInt8
  events : List Event

def readError (error : Int32) : Message :=
  if error = 15 then .text "Read error (timeout)\n"
  else .code "Read error (response error code " error.toInt ")\n"

def requested (client : Option Client) (parms : DeviceReadParms) (length offset : Int) (n : Nat) :
    Event :=
  .deviceRead client { parms with requestSize := UInt32.ofInt (length - offset) } offset n

def grow (counter : Int) (n : Nat) : Int := if n > 0 then toInt (counter + n) else counter

def counted (responseLength offset : Int) (n : Nat) : List Event :=
  if n > 0 then
    [.add responseLength n (grow responseLength n), .add offset n (grow offset n)]
  else []

/-- The do loop of vxi11_receive. The decoder stores the data of a reply before
the loop looks at the reply. -/
def receiveLoop (client : Option Client) (parms : DeviceReadParms)
    (length responseLength offset : Int) (message : Cells UInt8) : List ReadReply → Received
  | [] => ⟨none, message, []⟩
  | reply :: replies =>
      let n := reply.dataLen
      let request := requested client parms length offset n
      let message := store message offset reply.resp.data.bytes
      if reply.status ≠ .success then ⟨some (-1), message, [request]⟩
      else if reply.resp.error ≠ 0 then
        ⟨some (-1), message, [request, .error (readError reply.resp.error)]⟩
      else if n > 0 ∧ grow responseLength n > length then
        ⟨some (-1), message, [request, .add responseLength n (grow responseLength n),
          .error (.text "Read error (receive message buffer too small)\n")]⟩
      else
        let next : Received :=
          if reply.resp.reason &&& receiveEndBit ≠ 0 ∨
              reply.resp.reason &&& receiveTermCharBit ≠ 0 then
            ⟨some (grow responseLength n), message, []⟩
          else if reply.resp.reason = 0 then
            receiveLoop client parms length (grow responseLength n) (grow offset n) message replies
          else ⟨some (grow responseLength n), message, []⟩
        { next with events := request :: counted responseLength offset n ++ next.events }

def vxi11Receive (data : Vxi11Data) (message : Cells UInt8) (length : Nat) (timeout : Int)
    (replies : List ReadReply) : Received :=
  let parms : DeviceReadParms :=
    { lid := data.linkResp.lid
      requestSize := UInt32.ofInt length
      ioTimeout := UInt32.ofInt timeout
      lockTimeout := 0
      flags := 0
      termChar := 0 }
  receiveLoop data.rpcClient parms length 0 0 message replies

end LibLxi.Vxi11

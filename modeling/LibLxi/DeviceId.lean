import LibLxi.Tcp
import LibLxi.Tracing
import LibLxi.Vxi11

namespace LibLxi.DeviceId

open Memory Tracing

inductive Event
  | rpc (e : Vxi11.Event)
  | tcp (e : Tcp.Event)
  | readId (index : Int)
  | storeId (index : Int) (bytes : List UInt8)
  | freopen (path : String)
  /-- strstr and strlen together look at the first cells of the response. -/
  | scan (cells : Nat)
  | recover (buffer : List UInt8)
  deriving DecidableEq

/-- Why a probe does not return: a call in it that waits for ever, or an access
that is not to mapped memory. -/
inductive Stop
  | waiting
  | unmapped
  | nullRoot
  | nullValue
  deriving DecidableEq, Repr

structure XmlNode where
  name : String
  value : Option (List UInt8)

structure XmlDoc where
  root : Option (List XmlNode)

/-- Everything one get_device_id depends on besides its arguments: the two
uninitialised locals, the memory behind them that is mapped, and the outcomes. -/
structure ProbeOutcome where
  data : Vxi11.Vxi11Data
  connect : Vxi11.ConnectOutcome
  write : Vxi11.WriteReply
  replies : List Vxi11.ReadReply
  tcpConnect : Tcp.ConnectOutcome
  tcpSend : Tcp.SendOutcome
  tcpReceive : Tcp.ReceiveOutcome
  pending : List UInt8
  response : Cells UInt8
  mapped : Nat
  doc : Option XmlDoc

abbrev Probe (α : Type) := Trace Event Stop α

def portHttp : Int := 80

def idLengthMax : Nat := 65536

def responseSize : Nat := 4096

def bytes (text : String) : List UInt8 := text.toList.map fun c => c.toNat.toUInt8

def idReqScpi : List UInt8 := bytes "*IDN?\n"

def idReqHttp : List UInt8 := bytes "GET /lxi/identification HTTP/1.0\r\n\r\n"

def newline : UInt8 := 10

def carriageReturn : UInt8 := 13

def rpc (events : List Vxi11.Event) : Probe Unit := emits (events.map .rpc)

def tcp (events : List Tcp.Event) : Probe Unit := emits (events.map .tcp)

def storeId (id : Cells UInt8) (index : Int) (bs : List UInt8) : Probe (Cells UInt8) := do
  emit (.storeId index bs)
  return store id index bs

/-- One of the two strips: it looks at the last character of the string even if
there is none left. -/
def strip (c : UInt8) (length : Int) (id : Cells UInt8) : Probe (Int × Cells UInt8) := do
  emit (.readId (length - 1))
  if id (length - 1) = c then
    let id ← storeId id (length - 1) [0]
    return (length - 1, id)
  else return (length, id)

def getElementValue (doc : XmlDoc) (element : String) : Probe (Option (List UInt8)) := do
  let children ← need .nullRoot doc.root
  return (children.find? fun node => node.name = element).bind (·.value)

def strcat (value : Option (List UInt8)) (id : Nat × Cells UInt8) : Probe (Nat × Cells UInt8) := do
  let bs ← need .nullValue value
  let cells ← storeId id.2 id.1 (bs ++ [0])
  return (id.1 + bs.length, cells)

def assembleId (doc : XmlDoc) (id : Cells UInt8) : Probe (Cells UInt8) := do
  let id ← storeId id 0 [0]
  let value ← getElementValue doc "Manufacturer"
  let id ← strcat value (0, id)
  let id ← strcat (bytes ",") id
  let value ← getElementValue doc "Model"
  let id ← strcat value id
  let id ← strcat (bytes ",") id
  let value ← getElementValue doc "SerialNumber"
  let id ← strcat value id
  let id ← strcat (bytes ",") id
  let value ← getElementValue doc "FirmwareRevision"
  let id ← strcat value id
  return id.2

/-- The HTTP exchange. None of the four results is looked at. -/
def fetchXml (timeout : Int) (o : ProbeOutcome) : Probe (Cells UInt8) := do
  let (_, data, events) := Tcp.tcpConnect portHttp timeout o.tcpConnect
  tcp events
  let sent := Tcp.tcpSend data (cellsOf idReqHttp) idReqHttp.length timeout o.tcpSend
  tcp sent.events
  let _ ← need .waiting sent.ret
  let received := Tcp.tcpReceiveWait data o.response responseSize timeout o.pending o.tcpReceive
  tcp received.events
  let _ ← need .waiting received.ret
  tcp (Tcp.tcpDisconnect data).2
  return received.message

/-- strstr for the start of the XML, in a response that nothing terminates. -/
def findXml (response : Cells UInt8) (mapped : Nat) : Probe (Option (List UInt8)) := do
  match cString response 0 mapped with
  | none =>
      emit (.scan mapped)
      stop .unmapped
  | some text =>
      emit (.scan (text.length + 1))
      return text.tails.find? fun xml => bytes "<?xml" <+: xml

def xmlError (id : Cells UInt8) : Probe (Int × Cells UInt8) := do
  emit (.freopen "/dev/tty")
  return (-1, id)

def httpFallback (timeout : Int) (id : Cells UInt8) (o : ProbeOutcome) :
    Probe (Int × Cells UInt8) := do
  emit (.freopen "/dev/null")
  let response ← fetchXml timeout o
  match ← findXml response o.mapped with
  | none => xmlError id
  | some xml =>
      emit (.recover xml)
      match o.doc with
      | none => xmlError id
      | some doc =>
          let id ← assembleId doc id
          return (0, id)

def finishId (timeout length : Int) (id : Cells UInt8) (o : ProbeOutcome) :
    Probe (Int × Cells UInt8) := do
  let id ← storeId id length [0]
  if length > 0 then
    let (length, id) ← strip newline length id
    let (_, id) ← strip carriageReturn length id
    return (0, id)
  else httpFallback timeout id o

def linkError (data : Vxi11.Vxi11Data) (id : Cells UInt8) : Probe (Int × Cells UInt8) := do
  rpc (Vxi11.vxi11Disconnect data).2
  return (-1, id)

def receiveId (timeout : Int) (data : Vxi11.Vxi11Data) (id : Cells UInt8) (o : ProbeOutcome) :
    Probe (Int × Cells UInt8) := do
  let received := Vxi11.vxi11Receive data id idLengthMax timeout o.replies
  rpc received.events
  let length ← need .waiting received.ret
  if length < 0 then linkError data received.message
  else
    rpc (Vxi11.vxi11Disconnect data).2
    finishId timeout length received.message o

def getDeviceId (timeout : Int) (id : Cells UInt8) (o : ProbeOutcome) :
    Probe (Int × Cells UInt8) := do
  let (device, data, events) := Vxi11.vxi11Connect o.data none timeout o.connect
  rpc events
  if device < 0 then return (-1, id)
  else
    let (length, events) := Vxi11.vxi11Send data (cellsOf idReqScpi) idReqScpi.length timeout o.write
    rpc events
    if length < 0 then linkError data id
    else receiveId timeout data id o

end LibLxi.DeviceId

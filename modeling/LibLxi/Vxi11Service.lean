import LibLxi.Rpc
import LibLxi.WireMessages

namespace LibLxi.Vxi11Service

open Rpc Vxi11core WireMessages Xdr

section Numbers

def deviceAbort : UInt32 := 1

def createLink : UInt32 := 10

def deviceWrite : UInt32 := 11

def deviceRead : UInt32 := 12

def deviceReadstb : UInt32 := 13

def deviceTrigger : UInt32 := 14

def deviceClear : UInt32 := 15

def deviceRemote : UInt32 := 16

def deviceLocal : UInt32 := 17

def deviceLock : UInt32 := 18

def deviceUnlock : UInt32 := 19

def deviceEnableSrq : UInt32 := 20

def deviceDocmd : UInt32 := 22

def destroyLink : UInt32 := 23

def createIntrChan : UInt32 := 25

def destroyIntrChan : UInt32 := 26

end Numbers

inductive Proc
  | deviceAbort
  | createLink
  | deviceWrite
  | deviceRead
  | deviceReadstb
  | deviceTrigger
  | deviceClear
  | deviceRemote
  | deviceLocal
  | deviceLock
  | deviceUnlock
  | deviceEnableSrq
  | deviceDocmd
  | destroyLink
  | createIntrChan
  | destroyIntrChan
  deriving DecidableEq

/-- What stands for the argument that a dispatcher sets to zero. -/
def zeroed : (m : Message) → m.Obj
  | .void => ()
  | .deviceLink => 0
  | .deviceError => ⟨0⟩
  | .createLinkParms => ⟨0, 0, 0, noText⟩
  | .createLinkResp => ⟨0, 0, 0, 0⟩
  | .deviceWriteParms => ⟨0, 0, 0, 0, noBytes⟩
  | .deviceWriteResp => ⟨0, 0⟩
  | .deviceReadParms => ⟨0, 0, 0, 0, 0, 0⟩
  | .deviceReadResp => ⟨0, 0, noBytes⟩
  | .deviceReadStbResp => ⟨0, 0⟩
  | .deviceGenericParms => ⟨0, 0, 0, 0⟩
  | .deviceRemoteFunc => ⟨0, 0, 0, 0, 0⟩
  | .deviceEnableSrqParms => ⟨0, 0, noBytes⟩
  | .deviceLockParms => ⟨0, 0, 0⟩
  | .deviceDocmdParms => ⟨0, 0, 0, 0, 0, 0, 0, noBytes⟩
  | .deviceDocmdResp => ⟨0, noBytes⟩

def Proc.argument : Proc → Message
  | deviceAbort => .deviceLink
  | createLink => .createLinkParms
  | deviceWrite => .deviceWriteParms
  | deviceRead => .deviceReadParms
  | deviceReadstb => .deviceGenericParms
  | deviceTrigger => .deviceGenericParms
  | deviceClear => .deviceGenericParms
  | deviceRemote => .deviceGenericParms
  | deviceLocal => .deviceGenericParms
  | deviceLock => .deviceLockParms
  | deviceUnlock => .deviceLink
  | deviceEnableSrq => .deviceEnableSrqParms
  | deviceDocmd => .deviceDocmdParms
  | destroyLink => .deviceLink
  | createIntrChan => .deviceRemoteFunc
  | destroyIntrChan => .void

def Proc.result : Proc → Message
  | createLink => .createLinkResp
  | deviceWrite => .deviceWriteResp
  | deviceRead => .deviceReadResp
  | deviceReadstb => .deviceReadStbResp
  | deviceDocmd => .deviceDocmdResp
  | deviceAbort | deviceTrigger | deviceClear | deviceRemote | deviceLocal | deviceLock
  | deviceUnlock | deviceEnableSrq | destroyLink | createIntrChan | destroyIntrChan => .deviceError

/-- The functions with _1_svc in their names, which the server brings along. -/
abbrev Handlers (σ : Type) := (p : Proc) → σ → p.argument.Obj → σ × Int × p.result.Obj

section Dispatchers

variable {σ : Type}

def asyncProc (n : UInt32) : Option Proc :=
  if n = deviceAbort then some .deviceAbort else none

def coreProc (n : UInt32) : Option Proc :=
  if n = createLink then some .createLink
  else if n = deviceWrite then some .deviceWrite
  else if n = deviceRead then some .deviceRead
  else if n = deviceReadstb then some .deviceReadstb
  else if n = deviceTrigger then some .deviceTrigger
  else if n = deviceClear then some .deviceClear
  else if n = deviceRemote then some .deviceRemote
  else if n = deviceLocal then some .deviceLocal
  else if n = deviceLock then some .deviceLock
  else if n = deviceUnlock then some .deviceUnlock
  else if n = deviceEnableSrq then some .deviceEnableSrq
  else if n = deviceDocmd then some .deviceDocmd
  else if n = destroyLink then some .destroyLink
  else if n = createIntrChan then some .createIntrChan
  else if n = destroyIntrChan then some .destroyIntrChan
  else none

def procedure (handlers : Handlers σ) (p : Proc) : Procedure σ where
  Arg := p.argument.Obj
  Res := p.result.Obj
  xdrArgument := p.argument.routine
  xdrResult := p.result.routine
  zeroed := zeroed p.argument
  svc := handlers p

def deviceAsync1 (handlers : Handlers σ) : Passes → σ → Call → Served σ :=
  dispatch fun n => (asyncProc n).map (procedure handlers)

def deviceCore1 (handlers : Handlers σ) : Passes → σ → Call → Served σ :=
  dispatch fun n => (coreProc n).map (procedure handlers)

end Dispatchers

section Stubs

variable {σ : Type} (clnt : Clnt σ)

def deviceAbort1 (argp : DeviceLink) (clntRes : DeviceError) : σ → σ × Outcome DeviceError :=
  clnt.clntCall deviceAbort xdrDeviceLink argp xdrDeviceError clntRes

def createLink1 (argp : CreateLinkParms) (clntRes : CreateLinkResp) : σ → σ × Outcome CreateLinkResp :=
  clnt.clntCall createLink xdrCreateLinkParms argp xdrCreateLinkResp clntRes

def deviceWrite1 (argp : DeviceWriteParms) (clntRes : DeviceWriteResp) :
    σ → σ × Outcome DeviceWriteResp :=
  clnt.clntCall deviceWrite xdrDeviceWriteParms argp xdrDeviceWriteResp clntRes

def deviceRead1 (argp : DeviceReadParms) (clntRes : DeviceReadResp) : σ → σ × Outcome DeviceReadResp :=
  clnt.clntCall deviceRead xdrDeviceReadParms argp xdrDeviceReadResp clntRes

def deviceReadstb1 (argp : DeviceGenericParms) (clntRes : DeviceReadStbResp) :
    σ → σ × Outcome DeviceReadStbResp :=
  clnt.clntCall deviceReadstb xdrDeviceGenericParms argp xdrDeviceReadStbResp
    clntRes

def deviceTrigger1 (argp : DeviceGenericParms) (clntRes : DeviceError) : σ → σ × Outcome DeviceError :=
  clnt.clntCall deviceTrigger xdrDeviceGenericParms argp xdrDeviceError clntRes

def deviceClear1 (argp : DeviceGenericParms) (clntRes : DeviceError) : σ → σ × Outcome DeviceError :=
  clnt.clntCall deviceClear xdrDeviceGenericParms argp xdrDeviceError clntRes

def deviceRemote1 (argp : DeviceGenericParms) (clntRes : DeviceError) : σ → σ × Outcome DeviceError :=
  clnt.clntCall deviceRemote xdrDeviceGenericParms argp xdrDeviceError clntRes

def deviceLocal1 (argp : DeviceGenericParms) (clntRes : DeviceError) : σ → σ × Outcome DeviceError :=
  clnt.clntCall deviceLocal xdrDeviceGenericParms argp xdrDeviceError clntRes

def deviceLock1 (argp : DeviceLockParms) (clntRes : DeviceError) : σ → σ × Outcome DeviceError :=
  clnt.clntCall deviceLock xdrDeviceLockParms argp xdrDeviceError clntRes

def deviceUnlock1 (argp : DeviceLink) (clntRes : DeviceError) : σ → σ × Outcome DeviceError :=
  clnt.clntCall deviceUnlock xdrDeviceLink argp xdrDeviceError clntRes

def deviceEnableSrq1 (argp : DeviceEnableSrqParms) (clntRes : DeviceError) :
    σ → σ × Outcome DeviceError :=
  clnt.clntCall deviceEnableSrq xdrDeviceEnableSrqParms argp xdrDeviceError clntRes

def deviceDocmd1 (argp : DeviceDocmdParms) (clntRes : DeviceDocmdResp) :
    σ → σ × Outcome DeviceDocmdResp :=
  clnt.clntCall deviceDocmd xdrDeviceDocmdParms argp xdrDeviceDocmdResp clntRes

def destroyLink1 (argp : DeviceLink) (clntRes : DeviceError) : σ → σ × Outcome DeviceError :=
  clnt.clntCall destroyLink xdrDeviceLink argp xdrDeviceError clntRes

def createIntrChan1 (argp : DeviceRemoteFunc) (clntRes : DeviceError) : σ → σ × Outcome DeviceError :=
  clnt.clntCall createIntrChan xdrDeviceRemoteFunc argp xdrDeviceError clntRes

/-- xdr_void looks at no argument. -/
def destroyIntrChan1 (argp : Unit) (clntRes : DeviceError) : σ → σ × Outcome DeviceError :=
  clnt.clntCall destroyIntrChan pure argp xdrDeviceError clntRes

def Proc.stub : (p : Proc) → p.argument.Obj → p.result.Obj → σ → σ × Outcome p.result.Obj
  | deviceAbort => deviceAbort1 clnt
  | createLink => createLink1 clnt
  | deviceWrite => deviceWrite1 clnt
  | deviceRead => deviceRead1 clnt
  | deviceReadstb => deviceReadstb1 clnt
  | deviceTrigger => deviceTrigger1 clnt
  | deviceClear => deviceClear1 clnt
  | deviceRemote => deviceRemote1 clnt
  | deviceLocal => deviceLocal1 clnt
  | deviceLock => deviceLock1 clnt
  | deviceUnlock => deviceUnlock1 clnt
  | deviceEnableSrq => deviceEnableSrq1 clnt
  | deviceDocmd => deviceDocmd1 clnt
  | destroyLink => destroyLink1 clnt
  | createIntrChan => createIntrChan1 clnt
  | destroyIntrChan => destroyIntrChan1 clnt

end Stubs

end LibLxi.Vxi11Service

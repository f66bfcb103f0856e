import LibLxi.Xdr

namespace LibLxi.Vxi11core

open Xdr

abbrev DeviceLink := Int32

abbrev DeviceFlags := Int32

abbrev DeviceErrorCode := Int32

/-- An enumeration, with the values a C variable of the type can have besides its
members. -/
abbrev DeviceAddrFamily := Int32

def deviceTcp : DeviceAddrFamily := 0

def deviceUdp : DeviceAddrFamily := 1

structure DeviceError where
  error : DeviceErrorCode
  deriving DecidableEq

structure CreateLinkParms where
  clientId : Int32
  lockDevice : BoolT
  lockTimeout : UInt32
  device : Text
  deriving DecidableEq

structure CreateLinkResp where
  error : DeviceErrorCode
  lid : DeviceLink
  abortPort : UInt16
  maxRecvSize : UInt32
  deriving DecidableEq

structure DeviceWriteParms where
  lid : DeviceLink
  ioTimeout : UInt32
  lockTimeout : UInt32
  flags : DeviceFlags
  data : Bytes
  deriving DecidableEq

structure DeviceWriteResp where
  error : DeviceErrorCode
  size : UInt32
  deriving DecidableEq

structure DeviceReadParms where
  lid : DeviceLink
  requestSize : UInt32
  ioTimeout : UInt32
  lockTimeout : UInt32
  flags : DeviceFlags
  termChar : Int8
  deriving DecidableEq

structure DeviceReadResp where
  error : DeviceErrorCode
  reason : Int32
  data : Bytes
  deriving DecidableEq

structure DeviceReadStbResp where
  error : DeviceErrorCode
  stb : UInt8
  deriving DecidableEq

structure DeviceGenericParms where
  lid : DeviceLink
  flags : DeviceFlags
  lockTimeout : UInt32
  ioTimeout : UInt32
  deriving DecidableEq

structure DeviceRemoteFunc where
  hostAddr : UInt32
  hostPort : UInt32
  progNum : UInt32
  progVers : UInt32
  progFamily : DeviceAddrFamily
  deriving DecidableEq

structure DeviceEnableSrqParms where
  lid : DeviceLink
  enable : BoolT
  handle : Bytes
  deriving DecidableEq

structure DeviceLockParms where
  lid : DeviceLink
  flags : DeviceFlags
  lockTimeout : UInt32
  deriving DecidableEq

structure DeviceDocmdParms where
  lid : DeviceLink
  flags : DeviceFlags
  ioTimeout : UInt32
  lockTimeout : UInt32
  cmd : Int32
  networkOrder : BoolT
  datasize : Int32
  dataIn : Bytes
  deriving DecidableEq

structure DeviceDocmdResp where
  error : DeviceErrorCode
  dataOut : Bytes
  deriving DecidableEq

def xdrDeviceLink (objp : DeviceLink) : Routine DeviceLink := xdrInt objp

def xdrDeviceAddrFamily (objp : DeviceAddrFamily) : Routine DeviceAddrFamily := xdrEnum objp

def xdrDeviceFlags (objp : DeviceFlags) : Routine DeviceFlags := xdrInt objp

def xdrDeviceErrorCode (objp : DeviceErrorCode) : Routine DeviceErrorCode := xdrInt objp

def xdrDeviceError (objp : DeviceError) : Routine DeviceError := do
  let error ← xdrDeviceErrorCode objp.error
  return ⟨error⟩

section CreateLinkParms

variable (objp : CreateLinkParms)

/-- The first three fields, one by one. -/
def CreateLinkParms.units : Routine CreateLinkParms := do
  let clientId ← xdrInt objp.clientId
  let lockDevice ← xdrBool objp.lockDevice
  let lockTimeout ← xdrUInt objp.lockTimeout
  return { objp with clientId, lockDevice, lockTimeout }

def CreateLinkParms.putUnits : Routine CreateLinkParms := do
  ixdrPutLong objp.clientId
  ixdrPutBool objp.lockDevice
  ixdrPutULong objp.lockTimeout
  return objp

def CreateLinkParms.getUnits : Routine CreateLinkParms := do
  let clientId ← ixdrGetLong
  let lockDevice ← ixdrGetBool
  let lockTimeout ← ixdrGetULong
  return { objp with clientId, lockDevice, lockTimeout }

def CreateLinkParms.name : Routine CreateLinkParms := do
  let device ← xdrString uintMax objp.device
  return { objp with device }

def xdrCreateLinkParms : Routine CreateLinkParms :=
  byOp
    (do (← inlineOr 3 objp.putUnits objp.units).name)
    (do (← inlineOr 3 objp.getUnits objp.units).name)
    (do (← objp.units).name)

end CreateLinkParms

def xdrCreateLinkResp (objp : CreateLinkResp) : Routine CreateLinkResp := do
  let error ← xdrDeviceErrorCode objp.error
  let lid ← xdrDeviceLink objp.lid
  let abortPort ← xdrUShort objp.abortPort
  let maxRecvSize ← xdrUInt objp.maxRecvSize
  return ⟨error, lid, abortPort, maxRecvSize⟩

def xdrDeviceWriteParms (objp : DeviceWriteParms) : Routine DeviceWriteParms := do
  let lid ← xdrDeviceLink objp.lid
  let ioTimeout ← xdrUInt objp.ioTimeout
  let lockTimeout ← xdrUInt objp.lockTimeout
  let flags ← xdrDeviceFlags objp.flags
  let data ← xdrBytes uintMax objp.data
  return ⟨lid, ioTimeout, lockTimeout, flags, data⟩

def xdrDeviceWriteResp (objp : DeviceWriteResp) : Routine DeviceWriteResp := do
  let error ← xdrDeviceErrorCode objp.error
  let size ← xdrUInt objp.size
  return ⟨error, size⟩

section DeviceReadParms

variable (objp : DeviceReadParms)

def DeviceReadParms.link : Routine DeviceReadParms := do
  let lid ← xdrDeviceLink objp.lid
  return { objp with lid }

def DeviceReadParms.units : Routine DeviceReadParms := do
  let requestSize ← xdrUInt objp.requestSize
  let ioTimeout ← xdrUInt objp.ioTimeout
  let lockTimeout ← xdrUInt objp.lockTimeout
  return { objp with requestSize, ioTimeout, lockTimeout }

def DeviceReadParms.putUnits : Routine DeviceReadParms := do
  ixdrPutULong objp.requestSize
  ixdrPutULong objp.ioTimeout
  ixdrPutULong objp.lockTimeout
  return objp

def DeviceReadParms.getUnits : Routine DeviceReadParms := do
  let requestSize ← ixdrGetULong
  let ioTimeout ← ixdrGetULong
  let lockTimeout ← ixdrGetULong
  return { objp with requestSize, ioTimeout, lockTimeout }

def DeviceReadParms.last : Routine DeviceReadParms := do
  let flags ← xdrDeviceFlags objp.flags
  let termChar ← xdrChar objp.termChar
  return { objp with flags, termChar }

def xdrDeviceReadParms : Routine DeviceReadParms :=
  byOp
    (do
      let objp ← objp.link
      (← inlineOr 3 objp.putUnits objp.units).last)
    (do
      let objp ← objp.link
      (← inlineOr 3 objp.getUnits objp.units).last)
    (do
      let objp ← objp.link
      (← objp.units).last)

end DeviceReadParms

def xdrDeviceReadResp (objp : DeviceReadResp) : Routine DeviceReadResp := do
  let error ← xdrDeviceErrorCode objp.error
  let reason ← xdrInt objp.reason
  let data ← xdrBytes uintMax objp.data
  return ⟨error, reason, data⟩

def xdrDeviceReadStbResp (objp : DeviceReadStbResp) : Routine DeviceReadStbResp := do
  let error ← xdrDeviceErrorCode objp.error
  let stb ← xdrUChar objp.stb
  return ⟨error, stb⟩

def xdrDeviceGenericParms (objp : DeviceGenericParms) : Routine DeviceGenericParms := do
  let lid ← xdrDeviceLink objp.lid
  let flags ← xdrDeviceFlags objp.flags
  let lockTimeout ← xdrUInt objp.lockTimeout
  let ioTimeout ← xdrUInt objp.ioTimeout
  return ⟨lid, flags, lockTimeout, ioTimeout⟩

section DeviceRemoteFunc

variable (objp : DeviceRemoteFunc)

def DeviceRemoteFunc.units : Routine DeviceRemoteFunc := do
  let hostAddr ← xdrUInt objp.hostAddr
  let hostPort ← xdrUInt objp.hostPort
  let progNum ← xdrUInt objp.progNum
  let progVers ← xdrUInt objp.progVers
  return { objp with hostAddr, hostPort, progNum, progVers }

def DeviceRemoteFunc.putUnits : Routine DeviceRemoteFunc := do
  ixdrPutULong objp.hostAddr
  ixdrPutULong objp.hostPort
  ixdrPutULong objp.progNum
  ixdrPutULong objp.progVers
  return objp

def DeviceRemoteFunc.getUnits : Routine DeviceRemoteFunc := do
  let hostAddr ← ixdrGetULong
  let hostPort ← ixdrGetULong
  let progNum ← ixdrGetULong
  let progVers ← ixdrGetULong
  return { objp with hostAddr, hostPort, progNum, progVers }

def DeviceRemoteFunc.family : Routine DeviceRemoteFunc := do
  let progFamily ← xdrDeviceAddrFamily objp.progFamily
  return { objp with progFamily }

def xdrDeviceRemoteFunc : Routine DeviceRemoteFunc :=
  byOp
    (do (← inlineOr 4 objp.putUnits objp.units).family)
    (do (← inlineOr 4 objp.getUnits objp.units).family)
    (do (← objp.units).family)

end DeviceRemoteFunc

/-- The handle is the only field with a bound of its own. -/
def xdrDeviceEnableSrqParms (objp : DeviceEnableSrqParms) : Routine DeviceEnableSrqParms := do
  let lid ← xdrDeviceLink objp.lid
  let enable ← xdrBool objp.enable
  let handle ← xdrBytes 40 objp.handle
  return ⟨lid, enable, handle⟩

def xdrDeviceLockParms (objp : DeviceLockParms) : Routine DeviceLockParms := do
  let lid ← xdrDeviceLink objp.lid
  let flags ← xdrDeviceFlags objp.flags
  let lockTimeout ← xdrUInt objp.lockTimeout
  return ⟨lid, flags, lockTimeout⟩

section DeviceDocmdParms

variable (objp : DeviceDocmdParms)

def DeviceDocmdParms.link : Routine DeviceDocmdParms := do
  let lid ← xdrDeviceLink objp.lid
  let flags ← xdrDeviceFlags objp.flags
  return { objp with lid, flags }

def DeviceDocmdParms.units : Routine DeviceDocmdParms := do
  let ioTimeout ← xdrUInt objp.ioTimeout
  let lockTimeout ← xdrUInt objp.lockTimeout
  let cmd ← xdrInt objp.cmd
  let networkOrder ← xdrBool objp.networkOrder
  let datasize ← xdrInt objp.datasize
  return { objp with ioTimeout, lockTimeout, cmd, networkOrder, datasize }

def DeviceDocmdParms.putUnits : Routine DeviceDocmdParms := do
  ixdrPutULong objp.ioTimeout
  ixdrPutULong objp.lockTimeout
  ixdrPutLong objp.cmd
  ixdrPutBool objp.networkOrder
  ixdrPutLong objp.datasize
  return objp

def DeviceDocmdParms.getUnits : Routine DeviceDocmdParms := do
  let ioTimeout ← ixdrGetULong
  let lockTimeout ← ixdrGetULong
  let cmd ← ixdrGetLong
  let networkOrder ← ixdrGetBool
  let datasize ← ixdrGetLong
  return { objp with ioTimeout, lockTimeout, cmd, networkOrder, datasize }

def DeviceDocmdParms.input : Routine DeviceDocmdParms := do
  let dataIn ← xdrBytes uintMax objp.dataIn
  return { objp with dataIn }

def xdrDeviceDocmdParms : Routine DeviceDocmdParms :=
  byOp
    (do
      let objp ← objp.link
      (← inlineOr 5 objp.putUnits objp.units).input)
    (do
      let objp ← objp.link
      (← inlineOr 5 objp.getUnits objp.units).input)
    (do
      let objp ← objp.link
      (← objp.units).input)

end DeviceDocmdParms

def xdrDeviceDocmdResp (objp : DeviceDocmdResp) : Routine DeviceDocmdResp := do
  let error ← xdrDeviceErrorCode objp.error
  let dataOut ← xdrBytes uintMax objp.dataOut
  return ⟨error, dataOut⟩

end LibLxi.Vxi11core

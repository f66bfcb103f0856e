import LibLxi.XdrLanguage

namespace LibLxi.Vxi11Rpcl

open XdrLanguage

/-! The description vxi11core.rpcl, from which the C code was generated. The fields of a
struct stand in its order. -/

def unbounded : UInt32 := 0xffffffff

/-- A text that the description gives no bound. Its count leaves room for a zero. -/
def unboundedText : UInt32 := 0xfffffffe

def deviceLink : Ty := .int

def deviceAddrFamily : Ty := .enum

def deviceFlags : Ty := .int

def deviceErrorCode : Ty := .int

def deviceError : Ty := .struct [deviceErrorCode]

def createLinkParms : Ty := .struct [.int, .bool, .unsignedInt, .string unboundedText]

def createLinkResp : Ty := .struct [deviceErrorCode, deviceLink, .unsignedShort, .unsignedInt]

def deviceWriteParms : Ty :=
  .struct [deviceLink, .unsignedInt, .unsignedInt, deviceFlags, .bytes unbounded]

def deviceWriteResp : Ty := .struct [deviceErrorCode, .unsignedInt]

def deviceReadParms : Ty :=
  .struct [deviceLink, .unsignedInt, .unsignedInt, .unsignedInt, deviceFlags, .char]

def deviceReadResp : Ty := .struct [deviceErrorCode, .int, .bytes unbounded]

def deviceReadStbResp : Ty := .struct [deviceErrorCode, .unsignedChar]

def deviceGenericParms : Ty := .struct [deviceLink, deviceFlags, .unsignedInt, .unsignedInt]

def deviceRemoteFunc : Ty :=
  .struct [.unsignedInt, .unsignedInt, .unsignedInt, .unsignedInt, deviceAddrFamily]

def deviceEnableSrqParms : Ty := .struct [deviceLink, .bool, .bytes 40]

def deviceLockParms : Ty := .struct [deviceLink, deviceFlags, .unsignedInt]

def deviceDocmdParms : Ty :=
  .struct [deviceLink, deviceFlags, .unsignedInt, .unsignedInt, .int, .bool, .int,
    .bytes unbounded]

def deviceDocmdResp : Ty := .struct [deviceErrorCode, .bytes unbounded]

/-- A procedure of a program: its number, its argument and its result. -/
abbrev Declaration := UInt32 × Ty × Ty

def deviceAsync : List Declaration := [(1, deviceLink, deviceError)]

def deviceCore : List Declaration :=
  [(10, createLinkParms, createLinkResp),
    (11, deviceWriteParms, deviceWriteResp),
    (12, deviceReadParms, deviceReadResp),
    (13, deviceGenericParms, deviceReadStbResp),
    (14, deviceGenericParms, deviceError),
    (15, deviceGenericParms, deviceError),
    (16, deviceGenericParms, deviceError),
    (17, deviceGenericParms, deviceError),
    (18, deviceLockParms, deviceError),
    (19, deviceLink, deviceError),
    (20, deviceEnableSrqParms, deviceError),
    (22, deviceDocmdParms, deviceDocmdResp),
    (23, deviceLink, deviceError),
    (25, deviceRemoteFunc, deviceError),
    (26, .void, deviceError)]

end LibLxi.Vxi11Rpcl

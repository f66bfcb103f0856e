import LibLxi.Memory

namespace LibLxi.Info

open Memory

/-- Which of the callbacks of an lxi_info_t the application has set. -/
structure LxiInfo where
  broadcast : Bool
  device : Bool
  service : Bool
  deriving DecidableEq, Repr

/-- A call through info. The device callback gets a pointer to the buffer that
holds the ID. -/
inductive Callback
  | broadcast (address : String) (interface : String)
  | device (address : String) (id : Cells UInt8)
  | service (address : String) (id : String) (service : String) (port : Nat)

def octets (address : UInt32) : List Nat :=
  [address.toNat % 256, address.toNat / 256 % 256, address.toNat / 65536 % 256,
    address.toNat / 16777216]

def inetNtoa (address : UInt32) : String := ".".intercalate ((octets address).map toString)

end LibLxi.Info

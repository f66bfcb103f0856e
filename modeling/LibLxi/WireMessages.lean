import LibLxi.Vxi11Rpcl
import LibLxi.Vxi11core
import LibLxi.XdrRules

namespace LibLxi.WireMessages

open Vxi11core Xdr XdrLanguage XdrRules

/-- The routines that are passed as an xdrproc_t. -/
inductive Message
  | void
  | deviceLink
  | deviceError
  | createLinkParms
  | createLinkResp
  | deviceWriteParms
  | deviceWriteResp
  | deviceReadParms
  | deviceReadResp
  | deviceReadStbResp
  | deviceGenericParms
  | deviceRemoteFunc
  | deviceEnableSrqParms
  | deviceLockParms
  | deviceDocmdParms
  | deviceDocmdResp
  deriving DecidableEq

namespace Message

@[reducible] def Obj : Message → Type
  | void => Unit
  | deviceLink => DeviceLink
  | deviceError => DeviceError
  | createLinkParms => CreateLinkParms
  | createLinkResp => CreateLinkResp
  | deviceWriteParms => DeviceWriteParms
  | deviceWriteResp => DeviceWriteResp
  | deviceReadParms => DeviceReadParms
  | deviceReadResp => DeviceReadResp
  | deviceReadStbResp => DeviceReadStbResp
  | deviceGenericParms => DeviceGenericParms
  | deviceRemoteFunc => DeviceRemoteFunc
  | deviceEnableSrqParms => DeviceEnableSrqParms
  | deviceLockParms => DeviceLockParms
  | deviceDocmdParms => DeviceDocmdParms
  | deviceDocmdResp => DeviceDocmdResp

def routine : (m : Message) → m.Obj → Routine m.Obj
  | void => pure
  | deviceLink => xdrDeviceLink
  | deviceError => xdrDeviceError
  | createLinkParms => xdrCreateLinkParms
  | createLinkResp => xdrCreateLinkResp
  | deviceWriteParms => xdrDeviceWriteParms
  | deviceWriteResp => xdrDeviceWriteResp
  | deviceReadParms => xdrDeviceReadParms
  | deviceReadResp => xdrDeviceReadResp
  | deviceReadStbResp => xdrDeviceReadStbResp
  | deviceGenericParms => xdrDeviceGenericParms
  | deviceRemoteFunc => xdrDeviceRemoteFunc
  | deviceEnableSrqParms => xdrDeviceEnableSrqParms
  | deviceLockParms => xdrDeviceLockParms
  | deviceDocmdParms => xdrDeviceDocmdParms
  | deviceDocmdResp => xdrDeviceDocmdResp

@[reducible] def declared : Message → Ty
  | void => .void
  | deviceLink => Vxi11Rpcl.deviceLink
  | deviceError => Vxi11Rpcl.deviceError
  | createLinkParms => Vxi11Rpcl.createLinkParms
  | createLinkResp => Vxi11Rpcl.createLinkResp
  | deviceWriteParms => Vxi11Rpcl.deviceWriteParms
  | deviceWriteResp => Vxi11Rpcl.deviceWriteResp
  | deviceReadParms => Vxi11Rpcl.deviceReadParms
  | deviceReadResp => Vxi11Rpcl.deviceReadResp
  | deviceReadStbResp => Vxi11Rpcl.deviceReadStbResp
  | deviceGenericParms => Vxi11Rpcl.deviceGenericParms
  | deviceRemoteFunc => Vxi11Rpcl.deviceRemoteFunc
  | deviceEnableSrqParms => Vxi11Rpcl.deviceEnableSrqParms
  | deviceLockParms => Vxi11Rpcl.deviceLockParms
  | deviceDocmdParms => Vxi11Rpcl.deviceDocmdParms
  | deviceDocmdResp => Vxi11Rpcl.deviceDocmdResp

end Message

def withinForty (v : Bytes) : Option (Counted 40) :=
  if h : v.bytes.length ≤ 40 then some ⟨v.bytes, h⟩ else none

theorem withinForty_asBytes (v : Counted 40) : withinForty (asBytes v) = some v :=
  dif_pos v.bounded

def represented : (m : Message) → Representation m.Obj m.declared
  | .void => ⟨some, id, fun _ => rfl⟩
  | .deviceLink => ⟨some, id, fun _ => rfl⟩
  | .deviceError => ⟨fun x => some (x.error, ()), fun v => ⟨v.1⟩, fun _ => rfl⟩
  | .createLinkParms =>
      { value x := some (x.clientId, truthOf x.lockDevice, x.lockTimeout, x.device, ())
        object v := ⟨v.1, ofBool v.2.1, v.2.2.1, v.2.2.2.1⟩
        value_object v := by
          simp only [truthOf_ofBool]
          rfl }
  | .createLinkResp =>
      ⟨fun x => some (x.error, x.lid, x.abortPort, x.maxRecvSize, ()),
        fun v => ⟨v.1, v.2.1, v.2.2.1, v.2.2.2.1⟩, fun _ => rfl⟩
  | .deviceWriteParms =>
      ⟨fun x => some (x.lid, x.ioTimeout, x.lockTimeout, x.flags, x.data, ()),
        fun v => ⟨v.1, v.2.1, v.2.2.1, v.2.2.2.1, v.2.2.2.2.1⟩, fun _ => rfl⟩
  | .deviceWriteResp => ⟨fun x => some (x.error, x.size, ()), fun v => ⟨v.1, v.2.1⟩, fun _ => rfl⟩
  | .deviceReadParms =>
      ⟨fun x => some (x.lid, x.requestSize, x.ioTimeout, x.lockTimeout, x.flags, x.termChar, ()),
        fun v => ⟨v.1, v.2.1, v.2.2.1, v.2.2.2.1, v.2.2.2.2.1, v.2.2.2.2.2.1⟩, fun _ => rfl⟩
  | .deviceReadResp =>
      ⟨fun x => some (x.error, x.reason, x.data, ()), fun v => ⟨v.1, v.2.1, v.2.2.1⟩, fun _ => rfl⟩
  | .deviceReadStbResp => ⟨fun x => some (x.error, x.stb, ()), fun v => ⟨v.1, v.2.1⟩, fun _ => rfl⟩
  | .deviceGenericParms =>
      ⟨fun x => some (x.lid, x.flags, x.lockTimeout, x.ioTimeout, ()),
        fun v => ⟨v.1, v.2.1, v.2.2.1, v.2.2.2.1⟩, fun _ => rfl⟩
  | .deviceRemoteFunc =>
      ⟨fun x => some (x.hostAddr, x.hostPort, x.progNum, x.progVers, x.progFamily, ()),
        fun v => ⟨v.1, v.2.1, v.2.2.1, v.2.2.2.1, v.2.2.2.2.1⟩, fun _ => rfl⟩
  | .deviceEnableSrqParms =>
      { value x := (withinForty x.handle).map fun handle => (x.lid, truthOf x.enable, handle, ())
        object v := ⟨v.1, ofBool v.2.1, asBytes v.2.2.1⟩
        value_object v := by
          simp only [truthOf_ofBool, withinForty_asBytes]
          rfl }
  | .deviceLockParms =>
      ⟨fun x => some (x.lid, x.flags, x.lockTimeout, ()), fun v => ⟨v.1, v.2.1, v.2.2.1⟩,
        fun _ => rfl⟩
  | .deviceDocmdParms =>
      { value x := some (x.lid, x.flags, x.ioTimeout, x.lockTimeout, x.cmd, truthOf x.networkOrder,
          x.datasize, x.dataIn, ())
        object v := ⟨v.1, v.2.1, v.2.2.1, v.2.2.2.1, v.2.2.2.2.1, ofBool v.2.2.2.2.2.1,
          v.2.2.2.2.2.2.1, v.2.2.2.2.2.2.2.1⟩
        value_object v := by
          simp only [truthOf_ofBool]
          rfl }
  | .deviceDocmdResp =>
      ⟨fun x => some (x.error, x.dataOut, ()), fun v => ⟨v.1, v.2.1⟩, fun _ => rfl⟩

def rawBool : (m : Message) → m.Obj → Option BoolT
  | .createLinkParms, x => some x.lockDevice
  | .deviceDocmdParms, x => some x.networkOrder
  | _, _ => none

/-- A bool_t in an in-line buffer is zero or one, as xdr_bool would make it. -/
def InlineSafe (m : Message) (x : m.Obj) : Prop := ∀ b ∈ rawBool m x, b = ofBool (truthOf b)

theorem inlineSafe_of_none {m : Message} {x : m.Obj} (h : rawBool m x = none) : InlineSafe m x := by
  rw [InlineSafe, h]
  exact fun _ hb => by cases hb

/-- The routine of a message does what its declared type says. -/
def Implemented (m : Message) : Prop := Implements m.routine (represented m) (InlineSafe m)

/-- The rules give all that a message without a truth value in an in-line buffer
needs, when every object of its type stands for a value. -/
theorem implements_of_rules {m : Message}
    (hputs : ∀ {inline x v}, (represented m).value x = some v →
      Puts inline 0 (m.routine x) x (encode m.declared v) 0)
    (hvalue : ∀ x, (represented m).value x ≠ none)
    (hgets : ∀ inline x,
      Gets inline 0 (m.routine x) ((decode m.declared).map (represented m).object) 0) :
    Implemented m where
  puts h _ := hputs h
  refuses h := absurd h (hvalue _)
  gets inline x := ⟨_, hgets inline x, .of_object _⟩

section Plain

theorem implements_deviceLink : Implemented .deviceLink :=
  implements_of_rules (fun h => by cases h; exact Puts.unit _) (fun _ h => by cases h)
    fun _ _ => Gets.int _

theorem implements_deviceError : Implemented .deviceError :=
  implements_of_rules
    (fun h => by cases h; exact .field (.unit _) (.pure _))
    (fun _ h => by cases h)
    fun _ _ => .field (.int _) fun _ => .done rfl

theorem implements_createLinkResp : Implemented .createLinkResp :=
  implements_of_rules
    (fun h => by
      cases h
      exact .field (.unit _) (.field (.unit _) (.field (.unit _) (.field (.unit _) (.pure _)))))
    (fun _ h => by cases h)
    fun _ _ => .field (.int _) fun _ => .field (.int _) fun _ => .field (.ushort _) fun _ =>
      .field (.uint _) fun _ => .done rfl

theorem implements_deviceWriteParms : Implemented .deviceWriteParms :=
  implements_of_rules
    (fun h => by
      cases h
      exact .field (.unit _) (.field (.unit _) (.field (.unit _) (.field (.unit _)
        (.field (.bytes (Counted.bounded _)) (.pure _))))))
    (fun _ h => by cases h)
    fun _ _ => .field (.int _) fun _ => .field (.uint _) fun _ => .field (.uint _) fun _ =>
      .field (.int _) fun _ => .field (.bytes _ _) fun _ => .done rfl

theorem implements_deviceWriteResp : Implemented .deviceWriteResp :=
  implements_of_rules
    (fun h => by cases h; exact .field (.unit _) (.field (.unit _) (.pure _)))
    (fun _ h => by cases h)
    fun _ _ => .field (.int _) fun _ => .field (.uint _) fun _ => .done rfl

theorem implements_deviceReadResp : Implemented .deviceReadResp :=
  implements_of_rules
    (fun h => by
      cases h
      exact .field (.unit _) (.field (.unit _) (.field (.bytes (Counted.bounded _)) (.pure _))))
    (fun _ h => by cases h)
    fun _ _ => .field (.int _) fun _ => .field (.int _) fun _ => .field (.bytes _ _) fun _ =>
      .done rfl

theorem implements_deviceReadStbResp : Implemented .deviceReadStbResp :=
  implements_of_rules
    (fun h => by cases h; exact .field (.unit _) (.field (.unit _) (.pure _)))
    (fun _ h => by cases h)
    fun _ _ => .field (.int _) fun _ => .field (.uchar _) fun _ => .done rfl

theorem implements_deviceGenericParms : Implemented .deviceGenericParms :=
  implements_of_rules
    (fun h => by
      cases h
      exact .field (.unit _) (.field (.unit _) (.field (.unit _) (.field (.unit _) (.pure _)))))
    (fun _ h => by cases h)
    fun _ _ => .field (.int _) fun _ => .field (.int _) fun _ => .field (.uint _) fun _ =>
      .field (.uint _) fun _ => .done rfl

theorem implements_deviceLockParms : Implemented .deviceLockParms :=
  implements_of_rules
    (fun h => by
      cases h
      exact .field (.unit _) (.field (.unit _) (.field (.unit _) (.pure _))))
    (fun _ h => by cases h)
    fun _ _ => .field (.int _) fun _ => .field (.int _) fun _ => .field (.uint _) fun _ => .done rfl

theorem implements_deviceDocmdResp : Implemented .deviceDocmdResp :=
  implements_of_rules
    (fun h => by
      cases h
      exact .field (.unit _) (.field (.bytes (Counted.bounded _)) (.pure _)))
    (fun _ h => by cases h)
    fun _ _ => .field (.int _) fun _ => .field (.bytes _ _) fun _ => .done rfl

end Plain

section Bounded

theorem implements_deviceEnableSrqParms : Implemented .deviceEnableSrqParms where
  puts {_ x _} h _ := by
    obtain ⟨handle, hhandle, rfl⟩ := Option.map_eq_some_iff.mp h
    rw [withinForty] at hhandle
    split at hhandle
    · cases hhandle
      exact .field (.unit _) (.field (.bool _) (.field (.bytes ‹_›) (.pure _)))
    · cases hhandle
  refuses {x} h := by
    have hhandle : withinForty x.handle = none := Option.map_eq_none_iff.mp h
    have hlong : ¬ x.handle.bytes.length ≤ 40 := fun hle => by
      rw [withinForty, dif_pos hle] at hhandle
      cases hhandle
    have hcount : 40 < UInt32.ofNat x.handle.bytes.length := by
      have hlt : x.handle.bytes.length < 2 ^ 32 := lt_of_le_of_lt x.handle.bounded uintMax.toNat_lt
      rw [UInt32.lt_iff_toNat_lt, UInt32.toNat_ofNat_of_lt' hlt]
      exact Nat.lt_of_not_le hlong
    refine ⟨_, .after (fun _ _ => .unit x.lid) (.after (fun _ _ => .bool x.enable)
      (.bind (.bytes hcount))), ?_⟩
    have hbeyond := takeCounted_beyond hcount []
    rw [List.append_nil] at hbeyond
    refine decode_seq_none (t := .int) (decode_seq_none (t := .bool) ?_ _) x.lid
    exact Option.bind_eq_none_iff.mpr fun _ h => by
      rw [decode, hbeyond] at h
      cases h
  gets _ _ := ⟨_, .field (.int _) fun _ => .field (.bool _) fun _ => .field (.bytes _ _) fun _ =>
    .done rfl, .of_object _⟩

end Bounded

end LibLxi.WireMessages

import LibLxi.WireMessages

namespace LibLxi.WireInline

open Vxi11core WireMessages Xdr XdrLanguage XdrRules

section RemoteFunc

def remoteUnits : Ty := .struct [.unsignedInt, .unsignedInt, .unsignedInt, .unsignedInt]

def withRemote (x : DeviceRemoteFunc) (v : remoteUnits.Val) : DeviceRemoteFunc :=
  { x with hostAddr := v.1, hostPort := v.2.1, progNum := v.2.2.1, progVers := v.2.2.2.1 }

theorem implements_deviceRemoteFunc : Implemented .deviceRemoteFunc := by
  refine implements_of_rules (fun {_ x _} h => ?_) (fun _ h => by cases h)
    fun inline x => ?_
  · cases h
    have hbuffer : Puts true 4 x.putUnits x
        (encode remoteUnits (x.hostAddr, x.hostPort, x.progNum, x.progVers, ())) 0 :=
      .field (.ixdrULong _) (.field (.ixdrULong _) (.field (.ixdrULong _)
        (.field (.ixdrULong _) (.pure _))))
    have hunits (inline : Bool) : Puts inline 0 x.units x
        (encode remoteUnits (x.hostAddr, x.hostPort, x.progNum, x.progVers, ())) 0 :=
      .field (.unit _) (.field (.unit _) (.field (.unit _) (.field (.unit _) (.pure _))))
    have hfamily (inline : Bool) : Puts inline 0 x.family x
        (encode (.struct [.enum]) (x.progFamily, ())) 0 :=
      .field (.unit _) (.pure _)
    refine .byOp ((Puts.bind (.inlineOr (fun _ => hbuffer) (hunits _)) (hfamily _)).congr ?_)
    rfl
  · have hbuffer : Gets true 4 x.getUnits ((decode remoteUnits).map (withRemote x)) 0 :=
      .field .ixdrULong fun _ => .field .ixdrULong fun _ => .field .ixdrULong fun _ =>
        .field .ixdrULong fun _ => .done rfl
    have hunits (inline : Bool) : Gets inline 0 x.units ((decode remoteUnits).map (withRemote x)) 0 :=
      .field (.uint _) fun _ => .field (.uint _) fun _ => .field (.uint _) fun _ =>
        .field (.uint _) fun _ => .done rfl
    have hfamily (inline : Bool) (p : DeviceRemoteFunc) : Gets inline 0 p.family
        ((decode (.struct [.enum])).map fun v => { p with progFamily := v.1 }) 0 :=
      .field (.enum _) fun _ => .done rfl
    refine .byOp (.congr (.bindMap (.inlineOr hbuffer (hunits _) (.map _ (sized_decode rfl))) 
      fun v => hfamily _ _) fun bs => ?_)
    simp only [Message.declared, Vxi11Rpcl.deviceRemoteFunc, Vxi11Rpcl.deviceAddrFamily,
      remoteUnits, Ty.struct, List.foldr, decode,
      Decoder.map, Decoder.bind_assoc, Decoder.pure_bind]
    rfl

end RemoteFunc

section ReadParms

def readUnits : Ty := .struct [.unsignedInt, .unsignedInt, .unsignedInt]

def withRead (x : DeviceReadParms) (v : readUnits.Val) : DeviceReadParms :=
  { x with requestSize := v.1, ioTimeout := v.2.1, lockTimeout := v.2.2.1 }

theorem implements_deviceReadParms : Implemented .deviceReadParms := by
  refine implements_of_rules (fun {_ x _} h => ?_) (fun _ h => by cases h)
    fun inline x => ?_
  · cases h
    have hlink (inline : Bool) : Puts inline 0 x.link x (encode (.struct [.int]) (x.lid, ())) 0 :=
      .field (.unit _) (.pure _)
    have hbuffer : Puts true 3 x.putUnits x
        (encode readUnits (x.requestSize, x.ioTimeout, x.lockTimeout, ())) 0 :=
      .field (.ixdrULong _) (.field (.ixdrULong _) (.field (.ixdrULong _) (.pure _)))
    have hunits (inline : Bool) : Puts inline 0 x.units x
        (encode readUnits (x.requestSize, x.ioTimeout, x.lockTimeout, ())) 0 :=
      .field (.unit _) (.field (.unit _) (.field (.unit _) (.pure _)))
    have hlast (inline : Bool) : Puts inline 0 x.last x
        (encode (.struct [.int, .char]) (x.flags, x.termChar, ())) 0 :=
      .field (.unit _) (.field (.unit _) (.pure _))
    exact .byOp (((hlink _).bind (.bind (.inlineOr (fun _ => hbuffer) (hunits _)) (hlast _))).congr rfl)
  · have hlink (inline : Bool) : Gets inline 0 x.link
        ((decode (.struct [.int])).map fun v => { x with lid := v.1 }) 0 :=
      .field (.int _) fun _ => .done rfl
    have hbuffer (p : DeviceReadParms) : Gets true 3 p.getUnits ((decode readUnits).map (withRead p)) 0 :=
      .field .ixdrULong fun _ => .field .ixdrULong fun _ => .field .ixdrULong fun _ => .done rfl
    have hunits (inline : Bool) (p : DeviceReadParms) :
        Gets inline 0 p.units ((decode readUnits).map (withRead p)) 0 :=
      .field (.uint _) fun _ => .field (.uint _) fun _ => .field (.uint _) fun _ => .done rfl
    have hlast (inline : Bool) (p : DeviceReadParms) : Gets inline 0 p.last
        ((decode (.struct [.int, .char])).map fun v => { p with flags := v.1, termChar := v.2.1 }) 0 :=
      .field (.int _) fun _ => .field (.char _) fun _ => .done rfl
    refine .byOp (.congr (.bindMap (hlink _) fun _ => .bindMap
      (.inlineOr (hbuffer _) (hunits _ _) (.map _ (sized_decode rfl))) fun _ => hlast _ _)
      fun bs => ?_)
    simp only [Message.declared, Vxi11Rpcl.deviceReadParms, Vxi11Rpcl.deviceLink,
      Vxi11Rpcl.deviceFlags, readUnits, Ty.struct, List.foldr, decode, Decoder.map,
      Decoder.bind_assoc, Decoder.pure_bind]
    rfl

end ReadParms

section CreateLink

def linkUnits : Ty := .struct [.int, .bool, .unsignedInt]

def withLink (x : CreateLinkParms) (v : linkUnits.Val) : CreateLinkParms :=
  { x with clientId := v.1, lockDevice := ofBool v.2.1, lockTimeout := v.2.2.1 }

/-- An in-line buffer gives any bool_t. -/
def rawLink (x : CreateLinkParms) : Decoder CreateLinkParms :=
  takeWord.bind fun clientId => takeWord.bind fun lockDevice => takeWord.map fun lockTimeout =>
    { x with clientId := clientId.toInt32, lockDevice := lockDevice.toInt32, lockTimeout }

theorem sized_rawLink (x : CreateLinkParms) : Sized 3 (rawLink x) :=
  Sized.bind (n := 2) .takeWord fun _ => .bind (n := 1) .takeWord fun _ => .map _ .takeWord

/-- The object that xdr_Create_LinkParms reads from a stream with in-line buffers. -/
def rawCreateLinkParms (x : CreateLinkParms) : Decoder CreateLinkParms :=
  (rawLink x).bind fun p => (decode (.struct [.string textMax])).map fun v =>
    { p with device := v.1 }

theorem reads_rawCreateLinkParms (x : CreateLinkParms) :
    Reads (represented .createLinkParms) (rawCreateLinkParms x) where
  value := by
    simp only [rawCreateLinkParms, rawLink, represented, truthOf_toInt32, Message.declared, 
      Vxi11Rpcl.createLinkParms,
      Ty.struct, List.foldr, decode, Decoder.map, Decoder.bind_assoc, Decoder.pure_bind]
    rfl
  object v rest := by
    have hname := decode_encode (.struct [.string textMax]) v.2.2.2 rest
    have hbytes : encode Message.createLinkParms.declared v ++ rest = word v.1.toUInt32 ++
        (word (boolWord v.2.1) ++ (word v.2.2.1 ++
          (encode (.struct [.string textMax]) v.2.2.2 ++ rest))) := by
      simp only [Message.declared, Vxi11Rpcl.createLinkParms, Ty.struct, List.foldr, encode,
        List.append_assoc, List.append_nil]
    have hlock : (boolWord v.2.1).toInt32 = ofBool v.2.1 := by cases v.2.1 <;> rfl
    rw [hbytes, rawCreateLinkParms, rawLink]
    simp only [Decoder.map, Decoder.bind_assoc, Decoder.pure_bind, takeWord_bind, hlock]
    exact Decoder.bind_eq hname _

def rawCreateLink (x : CreateLinkParms) : List UInt8 :=
  word x.clientId.toUInt32 ++ (word x.lockDevice.toUInt32 ++ (word x.lockTimeout ++
    encode (.struct [.string textMax]) (x.device, ())))

theorem puts_name (inline : Bool) (x : CreateLinkParms) :
    Puts inline 0 x.name x (encode (.struct [.string textMax]) (x.device, ())) 0 :=
  .field (.string (by decide) _) (.pure _)

theorem puts_rawCreateLink (x : CreateLinkParms) :
    Puts true 0 (xdrCreateLinkParms x) x (rawCreateLink x) 0 := by
  have hbuffer : Puts true 3 x.putUnits x
      (word x.clientId.toUInt32 ++ (word x.lockDevice.toUInt32 ++ (word x.lockTimeout ++ []))) 0 :=
    .bind (.ixdrPut _) (.bind (.ixdrPut _) (.bind (.ixdrPut _) (.pure _)))
  refine .byOp (((Puts.inlined hbuffer).bind (puts_name true x)).congr ?_)
  simp only [rawCreateLink, List.append_assoc, List.nil_append]

theorem rawCreateLink_eq {x : CreateLinkParms} (h : InlineSafe .createLinkParms x) :
    rawCreateLink x = encode Vxi11Rpcl.createLinkParms
      (x.clientId, truthOf x.lockDevice, x.lockTimeout, x.device, ()) := by
  have hlock : x.lockDevice.toUInt32 = boolWord (truthOf x.lockDevice) := by
    rw [h x.lockDevice rfl, truthOf_ofBool]
    cases truthOf x.lockDevice <;> rfl
  rw [rawCreateLink, hlock]
  rfl

theorem implements_createLinkParms : Implemented .createLinkParms where
  puts {inline x v} h hx := by
    cases h
    cases inline with
    | true => exact (puts_rawCreateLink x).congr (rawCreateLink_eq (hx rfl))
    | false =>
        have hunits : Puts false 0 x.units x
            (encode linkUnits (x.clientId, truthOf x.lockDevice, x.lockTimeout, ())) 0 :=
          .field (.unit _) (.field (.bool _) (.field (.unit _) (.pure _)))
        exact .byOp (((Puts.notInlined hunits).bind (puts_name false x)).congr rfl)
  refuses h := by cases h
  gets inline x := by
    have hunits (inline : Bool) : Gets inline 0 x.units ((decode linkUnits).map (withLink x)) 0 :=
      .field (.int _) fun _ => .field (.bool _) fun _ => .field (.uint _) fun _ => .done rfl
    have hname (inline : Bool) (p : CreateLinkParms) : Gets inline 0 p.name
        ((decode (.struct [.string textMax])).map fun v => { p with device := v.1 }) 0 :=
      .field (.string (by decide) _) fun _ => .done rfl
    cases inline with
    | false =>
        refine ⟨_, .byOp (.congr (.bindMap (.notInlined (hunits _)) fun _ => hname _ _) fun bs => ?_),
          .of_object _⟩
        simp only [Message.declared, Vxi11Rpcl.createLinkParms, linkUnits, Ty.struct, List.foldr,
          decode, Decoder.map, Decoder.bind_assoc, Decoder.pure_bind]
        rfl
    | true =>
        have hbuffer : Gets true 3 x.getUnits (rawLink x) 0 :=
          .bindMap (d := takeWord) (Gets.ixdrGet.bind fun _ => .pure _) fun _ =>
            .bindMap .ixdrBool fun _ => .bind .ixdrGet fun _ => .pure _
        exact ⟨_, .byOp (.bind (.inlined hbuffer (hunits _) (sized_rawLink x)
          (.map _ (sized_decode rfl))) fun _ => hname _ _), reads_rawCreateLinkParms x⟩

end CreateLink

section Docmd

def docmdUnits : Ty := .struct [.unsignedInt, .unsignedInt, .int, .bool, .int]

def withDocmd (x : DeviceDocmdParms) (v : docmdUnits.Val) : DeviceDocmdParms :=
  { x with
    ioTimeout := v.1
    lockTimeout := v.2.1
    cmd := v.2.2.1
    networkOrder := ofBool v.2.2.2.1
    datasize := v.2.2.2.2.1 }

def rawDocmd (x : DeviceDocmdParms) : Decoder DeviceDocmdParms :=
  takeWord.bind fun ioTimeout => takeWord.bind fun lockTimeout => takeWord.bind fun cmd =>
    takeWord.bind fun networkOrder => takeWord.map fun datasize =>
      { x with
        ioTimeout
        lockTimeout
        cmd := cmd.toInt32
        networkOrder := networkOrder.toInt32
        datasize := datasize.toInt32 }

theorem sized_rawDocmd (x : DeviceDocmdParms) : Sized 5 (rawDocmd x) :=
  Sized.bind (n := 4) .takeWord fun _ => .bind (n := 3) .takeWord fun _ =>
    .bind (n := 2) .takeWord fun _ => .bind (n := 1) .takeWord fun _ => .map _ .takeWord

def rawDeviceDocmdParms (x : DeviceDocmdParms) : Decoder DeviceDocmdParms :=
  (decode (.struct [.int, .int])).bind fun v =>
    (rawDocmd { x with lid := v.1, flags := v.2.1 }).bind fun p =>
      (decode (.struct [.bytes uintMax])).map fun v => { p with dataIn := v.1 }

theorem reads_rawDeviceDocmdParms (x : DeviceDocmdParms) :
    Reads (represented .deviceDocmdParms) (rawDeviceDocmdParms x) where
  value := by
    simp only [rawDeviceDocmdParms, rawDocmd, represented, truthOf_toInt32, Message.declared,
      Vxi11Rpcl.deviceDocmdParms, Vxi11Rpcl.deviceLink, Vxi11Rpcl.deviceFlags, Ty.struct, List.foldr,
      decode, Decoder.map, Decoder.bind_assoc, Decoder.pure_bind]
    rfl
  object v rest := by
    have hinput := decode_encode (.struct [.bytes uintMax]) v.2.2.2.2.2.2.2 rest
    have hbytes : encode Message.deviceDocmdParms.declared v ++ rest =
        word v.1.toUInt32 ++ (word v.2.1.toUInt32 ++ (word v.2.2.1 ++ (word v.2.2.2.1 ++
          (word v.2.2.2.2.1.toUInt32 ++ (word (boolWord v.2.2.2.2.2.1) ++
            (word v.2.2.2.2.2.2.1.toUInt32 ++
              (encode (.struct [.bytes uintMax]) v.2.2.2.2.2.2.2 ++ rest))))))) := by
      simp only [Message.declared, Vxi11Rpcl.deviceDocmdParms, Vxi11Rpcl.deviceLink,
        Vxi11Rpcl.deviceFlags, Ty.struct, List.foldr, encode, List.append_assoc, List.append_nil]
    have horder : (boolWord v.2.2.2.2.2.1).toInt32 = ofBool v.2.2.2.2.2.1 := by
      cases v.2.2.2.2.2.1 <;> rfl
    have hlink (bs : List UInt8) : decode (.struct [.int, .int])
        (word v.1.toUInt32 ++ (word v.2.1.toUInt32 ++ bs)) = some ((v.1, v.2.1, ()), bs) :=
      decode_encode (.struct [.int, .int]) (v.1, v.2.1, ()) bs
    rw [hbytes, rawDeviceDocmdParms, Decoder.bind_eq (hlink _), rawDocmd]
    simp only [Decoder.map, Decoder.bind_assoc, Decoder.pure_bind, takeWord_bind, horder]
    exact Decoder.bind_eq hinput _

def rawDocmdBytes (x : DeviceDocmdParms) : List UInt8 :=
  word x.lid.toUInt32 ++ (word x.flags.toUInt32 ++ (word x.ioTimeout ++ (word x.lockTimeout ++
    (word x.cmd.toUInt32 ++ (word x.networkOrder.toUInt32 ++ (word x.datasize.toUInt32 ++
      encode (.struct [.bytes uintMax]) (x.dataIn, ())))))))

theorem puts_docmdLink (inline : Bool) (x : DeviceDocmdParms) :
    Puts inline 0 x.link x (encode (.struct [.int, .int]) (x.lid, x.flags, ())) 0 :=
  .field (.unit _) (.field (.unit _) (.pure _))

theorem puts_input (inline : Bool) (x : DeviceDocmdParms) :
    Puts inline 0 x.input x (encode (.struct [.bytes uintMax]) (x.dataIn, ())) 0 :=
  .field (.bytes (Counted.bounded _)) (.pure _)

theorem puts_rawDocmd (x : DeviceDocmdParms) :
    Puts true 0 (xdrDeviceDocmdParms x) x (rawDocmdBytes x) 0 := by
  have hbuffer : Puts true 5 x.putUnits x (word x.ioTimeout ++ (word x.lockTimeout ++
      (word x.cmd.toUInt32 ++ (word x.networkOrder.toUInt32 ++
        (word x.datasize.toUInt32 ++ []))))) 0 :=
    .bind (.ixdrPut _) (.bind (.ixdrPut _) (.bind (.ixdrPut _) (.bind (.ixdrPut _)
      (.bind (.ixdrPut _) (.pure _)))))
  refine .byOp (((puts_docmdLink true x).bind
    ((Puts.inlined hbuffer).bind (puts_input true x))).congr ?_)
  simp only [rawDocmdBytes, Ty.struct, List.foldr, encode, List.append_assoc, List.append_nil]

theorem rawDocmdBytes_eq {x : DeviceDocmdParms} (h : InlineSafe .deviceDocmdParms x) :
    rawDocmdBytes x = encode Vxi11Rpcl.deviceDocmdParms (x.lid, x.flags, x.ioTimeout, x.lockTimeout,
      x.cmd, truthOf x.networkOrder, x.datasize, x.dataIn, ()) := by
  have horder : x.networkOrder.toUInt32 = boolWord (truthOf x.networkOrder) := by
    rw [h x.networkOrder rfl, truthOf_ofBool]
    cases truthOf x.networkOrder <;> rfl
  rw [rawDocmdBytes, horder]
  rfl

theorem implements_deviceDocmdParms : Implemented .deviceDocmdParms where
  puts {inline x v} h hx := by
    cases h
    cases inline with
    | true => exact (puts_rawDocmd x).congr (rawDocmdBytes_eq (hx rfl))
    | false =>
        have hunits : Puts false 0 x.units x (encode docmdUnits
            (x.ioTimeout, x.lockTimeout, x.cmd, truthOf x.networkOrder, x.datasize, ())) 0 :=
          .field (.unit _) (.field (.unit _) (.field (.unit _) (.field (.bool _)
            (.field (.unit _) (.pure _)))))
        refine .byOp (((puts_docmdLink false x).bind
          ((Puts.notInlined hunits).bind (puts_input false x))).congr ?_)
        simp only [docmdUnits, Message.declared, Vxi11Rpcl.deviceDocmdParms, Vxi11Rpcl.deviceLink,
          Vxi11Rpcl.deviceFlags, Ty.struct, List.foldr, encode, List.append_assoc, List.append_nil]
  refuses h := by cases h
  gets inline x := by
    have hlink (inline : Bool) : Gets inline 0 x.link
        ((decode (.struct [.int, .int])).map fun v => { x with lid := v.1, flags := v.2.1 }) 0 :=
      .field (.int _) fun _ => .field (.int _) fun _ => .done rfl
    have hunits (inline : Bool) (p : DeviceDocmdParms) :
        Gets inline 0 p.units ((decode docmdUnits).map (withDocmd p)) 0 :=
      .field (.uint _) fun _ => .field (.uint _) fun _ => .field (.int _) fun _ =>
        .field (.bool _) fun _ => .field (.int _) fun _ => .done rfl
    have hinput (inline : Bool) (p : DeviceDocmdParms) : Gets inline 0 p.input
        ((decode (.struct [.bytes uintMax])).map fun v => { p with dataIn := v.1 }) 0 :=
      .field (.bytes _ _) fun _ => .done rfl
    cases inline with
    | false =>
        refine ⟨_, .byOp (.congr (.bindMap (hlink _) fun _ => .bindMap (.notInlined (hunits _ _))
          fun _ => hinput _ _) fun bs => ?_), .of_object _⟩
        simp only [Message.declared, Vxi11Rpcl.deviceDocmdParms, Vxi11Rpcl.deviceLink,
          Vxi11Rpcl.deviceFlags, docmdUnits, Ty.struct, List.foldr, decode, Decoder.map,
          Decoder.bind_assoc, Decoder.pure_bind]
        rfl
    | true =>
        have hbuffer (p : DeviceDocmdParms) : Gets true 5 p.getUnits (rawDocmd p) 0 :=
          .bind .ixdrGet fun _ => .bind .ixdrGet fun _ =>
            .bindMap (d := takeWord) (Gets.ixdrGet.bind fun _ => .pure _) fun _ =>
              .bindMap .ixdrBool fun _ =>
                .bindMap (d := takeWord) (Gets.ixdrGet.bind fun _ => .pure _) fun _ => .pure _
        exact ⟨_, .byOp (.bindMap (hlink _) fun _ => .bind (.inlined (hbuffer _) (hunits _ _)
          (sized_rawDocmd _) (.map _ (sized_decode rfl))) fun _ => hinput _ _),
          reads_rawDeviceDocmdParms x⟩

end Docmd

end LibLxi.WireInline

import LibLxi.WireInline

namespace LibLxi.WireFormat

open Vxi11core WireInline WireMessages Xdr XdrLanguage XdrRules

theorem implemented_void : Implemented .void :=
  implements_of_rules (fun _ => .pure _) (fun _ h => by cases h) fun _ _ => .done rfl

theorem implemented : (m : Message) → Implemented m
  | .void => implemented_void
  | .deviceLink => implements_deviceLink
  | .deviceError => implements_deviceError
  | .createLinkParms => implements_createLinkParms
  | .createLinkResp => implements_createLinkResp
  | .deviceWriteParms => implements_deviceWriteParms
  | .deviceWriteResp => implements_deviceWriteResp
  | .deviceReadParms => implements_deviceReadParms
  | .deviceReadResp => implements_deviceReadResp
  | .deviceReadStbResp => implements_deviceReadStbResp
  | .deviceGenericParms => implements_deviceGenericParms
  | .deviceRemoteFunc => implements_deviceRemoteFunc
  | .deviceEnableSrqParms => implements_deviceEnableSrqParms
  | .deviceLockParms => implements_deviceLockParms
  | .deviceDocmdParms => implements_deviceDocmdParms
  | .deviceDocmdResp => implements_deviceDocmdResp

variable (m : Message)

/-- What one side puts for a value the other side reads as that value, each with
or without in-line buffers, behind and in front of anything. -/
theorem message_roundTrip {x : m.Obj} {v : m.declared.Val} (hv : (represented m).value x = some v)
    {s : Xdr.Stream} (hput : s.op = .encode) (hwindow : s.window = 0)
    (hsafe : s.inline = true → InlineSafe m x) (y : m.Obj) {t : Xdr.Stream} (hget : t.op = .decode)
    (hwindow' : t.window = 0) {rest : List UInt8} (hbytes : t.bytes = encode m.declared v ++ rest) :
    (m.routine x).run s = (some x, { s with bytes := s.bytes ++ encode m.declared v }) ∧
      ∃ blocks, (m.routine y).run t =
        (some ((represented m).object v), { t with bytes := rest, blocks }) := by
  constructor
  · have hrun := ((implemented m).puts hv hsafe).run s hput rfl hwindow
    rw [hrun, ← hwindow]
  · obtain ⟨d, hgets, hreads⟩ := (implemented m).gets t.inline y
    obtain ⟨blocks, hrun⟩ := hgets.some hget rfl hwindow' (hbytes ▸ hreads.object v rest)
    exact ⟨blocks, by rw [hrun, ← hwindow']⟩

def linkParms : CreateLinkParms where
  clientId := 12345
  lockDevice := 1
  lockTimeout := 2000
  device := ⟨[105, 110, 115, 116, 48], by decide, by decide⟩

def linkValue : Vxi11Rpcl.createLinkParms.Val :=
  (12345, true, 2000, ⟨[105, 110, 115, 116, 48], by decide, by decide⟩, ())

theorem linkParms_safe : InlineSafe .createLinkParms linkParms := by
  rintro b ⟨rfl⟩
  decide

theorem message_roundTrip_createLink :
    (xdrCreateLinkParms linkParms).run ⟨.encode, [], true, 0, false, true, 0⟩ =
        (some linkParms,
          ⟨.encode, encode Vxi11Rpcl.createLinkParms linkValue, true, 0, false, true, 0⟩) ∧
      ∃ blocks, (xdrCreateLinkParms linkParms).run
          ⟨.decode, encode Vxi11Rpcl.createLinkParms linkValue ++ [9], true, 0, false, true, 0⟩ =
        (some linkParms, ⟨.decode, [9], true, 0, false, true, blocks⟩) :=
  message_roundTrip .createLinkParms (x := linkParms) (v := linkValue) rfl rfl rfl
    (fun _ => linkParms_safe) linkParms rfl rfl rfl

section Decode

variable {m} {s : Xdr.Stream}

theorem run_decode (hop : s.op = .decode) (hwindow : s.window = 0) (x : m.Obj) :
    (∃ y v rest blocks, (m.routine x).run s = (some y, { s with bytes := rest, blocks }) ∧
        (represented m).value y = some v ∧ decode m.declared s.bytes = some (v, rest)) ∨
      ((m.routine x).run s).1 = none ∧ decode m.declared s.bytes = none := by
  obtain ⟨d, hgets, hreads⟩ := (implemented m).gets s.inline x
  cases hd : d s.bytes with
  | none => exact .inr ⟨hgets.none hop rfl hwindow hd, hreads.none_iff.mp hd⟩
  | some read =>
      obtain ⟨y, rest⟩ := read
      obtain ⟨v, hvalue, hdecode⟩ := hreads.some hd
      obtain ⟨blocks, hrun⟩ := hgets.some hop rfl hwindow hd
      exact .inl ⟨y, v, rest, blocks, by rw [hrun, ← hwindow], hvalue, hdecode⟩

end Decode

/-- What is accepted is well formed: an object that stands for a value, read from
whole units and without a look at what stands behind them. -/
theorem message_accepts (x : m.Obj) {s t : Xdr.Stream} (hop : s.op = .decode)
    (hwindow : s.window = 0) {y : m.Obj} (hrun : (m.routine x).run s = (some y, t)) :
    ∃ v taken, (represented m).value y = some v ∧ s.bytes = taken ++ t.bytes ∧
      4 ∣ taken.length ∧ ∀ rest, decode m.declared (taken ++ rest) = some (v, rest) := by
  rcases run_decode hop hwindow x with ⟨y', v, rest, blocks, hrun', hvalue, hdecode⟩ | ⟨hnone, -⟩
  · rw [hrun'] at hrun
    cases hrun
    obtain ⟨taken, hbytes, hdvd, hread⟩ := (framed_decode m.declared).takes hdecode
    exact ⟨v, taken, hvalue, hbytes, hdvd, hread⟩
  · rw [hrun] at hnone
    cases hnone

theorem message_accepts_deviceError :
    ∃ v taken, some ((4 : Int32), ()) = some v ∧ [0, 0, 0, 4, 7] = taken ++ [7] ∧ 4 ∣ taken.length ∧
      ∀ rest, decode Vxi11Rpcl.deviceError (taken ++ rest) = some (v, rest) :=
  message_accepts (m := .deviceError) ⟨0⟩ (s := ⟨.decode, [0, 0, 0, 4, 7], false, 0, false, true, 0⟩)
    (t := ⟨.decode, [7], false, 0, false, true, 0⟩) (y := ⟨4⟩) rfl rfl rfl

/-- A message that was cut off anywhere is refused. -/
theorem message_truncated (x : m.Obj) (v : m.declared.Val) {s : Xdr.Stream} (hop : s.op = .decode)
    (hwindow : s.window = 0) {back : List UInt8} (hback : back ≠ [])
    (hcut : s.bytes ++ back = encode m.declared v) : ((m.routine x).run s).1 = none := by
  have hfull : decode m.declared (s.bytes ++ back) = some (v, []) := by
    rw [hcut, ← List.append_nil (encode m.declared v)]
    exact decode_encode m.declared v []
  have hnone : decode m.declared s.bytes = none := (framed_decode m.declared).truncated hfull hback
  rcases run_decode hop hwindow x with ⟨_, _, _, _, -, -, hdecode⟩ | ⟨hrun, -⟩
  · rw [hnone] at hdecode
    cases hdecode
  · exact hrun

theorem message_truncated_deviceReadResp :
    ((xdrDeviceReadResp ⟨0, 0, noBytes⟩).run
      ⟨.decode, [0, 0, 0, 0, 0, 0, 0, 4, 0, 0, 0, 2, 97], false, 0, false, true, 0⟩).1 = none :=
  message_truncated .deviceReadResp ⟨0, 0, noBytes⟩
    ((0 : Int32), (4 : Int32), ⟨[97, 98], by decide⟩, ())
    (s := ⟨.decode, [0, 0, 0, 0, 0, 0, 0, 4, 0, 0, 0, 2, 97], false, 0, false, true, 0⟩) rfl rfl
    (List.cons_ne_nil 98 [0, 0]) rfl

section Inline

theorem word_injective {v w : UInt32} (h : word v = word w) : v = w := encode_injective .unsignedInt h

theorem ofBool_of_word {b : BoolT} (h : word b.toUInt32 = word (boolWord (truthOf b))) :
    b = ofBool (truthOf b) := by
  have hb : b = (boolWord (truthOf b)).toInt32 := congrArg UInt32.toInt32 (word_injective h)
  refine hb.trans ?_
  cases truthOf b <;> rfl

theorem rawCreateLink_eq_iff {x : CreateLinkParms} :
    rawCreateLink x = encode Vxi11Rpcl.createLinkParms
      (x.clientId, truthOf x.lockDevice, x.lockTimeout, x.device, ()) ↔
        InlineSafe .createLinkParms x := by
  refine ⟨fun h => ?_, rawCreateLink_eq⟩
  have hrest := List.append_cancel_left h
  rintro b ⟨rfl⟩
  exact ofBool_of_word (List.append_inj_left hrest rfl)

theorem rawDocmdBytes_eq_iff {x : DeviceDocmdParms} :
    rawDocmdBytes x = encode Vxi11Rpcl.deviceDocmdParms (x.lid, x.flags, x.ioTimeout, x.lockTimeout,
      x.cmd, truthOf x.networkOrder, x.datasize, x.dataIn, ()) ↔ InlineSafe .deviceDocmdParms x := by
  refine ⟨fun h => ?_, rawDocmdBytes_eq⟩
  have hrest := List.append_cancel_left (List.append_cancel_left (List.append_cancel_left
    (List.append_cancel_left (List.append_cancel_left h))))
  rintro b ⟨rfl⟩
  exact ofBool_of_word (List.append_inj_left hrest rfl)

/-- An object without an encoding has no bool_t that an in-line buffer takes. -/
theorem inlineSafe_of_refused {x : m.Obj} (hx : (represented m).value x = none) :
    InlineSafe m x := by
  cases m with
  | createLinkParms => cases hx
  | deviceDocmdParms => cases hx
  | _ => exact inlineSafe_of_none rfl

/-- A stream with in-line buffers gets the bytes of one without exactly when a
bool_t that such a buffer takes is zero or one. -/
theorem inline_agrees_iff (x : m.Obj) {s : Xdr.Stream} (hop : s.op = .encode)
    (hwindow : s.window = 0) :
    ((m.routine x).run { s with inline := true }).2.bytes =
      ((m.routine x).run { s with inline := false }).2.bytes ↔ InlineSafe m x := by
  cases hv : (represented m).value x with
  | none =>
      obtain ⟨bs, hbreaks, -⟩ := (implemented m).refuses hv
      obtain ⟨_, hbuffer⟩ := hbreaks.run { s with inline := true } hop
      obtain ⟨_, hplain⟩ := hbreaks.run { s with inline := false } hop
      rw [hbuffer, hplain]
      exact iff_of_true rfl (inlineSafe_of_refused m hv)
  | some v =>
      have hplain := ((implemented m).puts hv fun h => by cases h).bytes_eq
        (s := { s with inline := false }) hop rfl hwindow
      constructor
      · intro h
        have hplain := h.trans hplain
        cases m with
        | createLinkParms =>
            cases hv
            have hbuffer :=
              (puts_rawCreateLink x).bytes_eq (s := { s with inline := true }) hop rfl hwindow
            exact rawCreateLink_eq_iff.mp (List.append_cancel_left (hbuffer.symm.trans hplain))
        | deviceDocmdParms =>
            cases hv
            have hbuffer :=
              (puts_rawDocmd x).bytes_eq (s := { s with inline := true }) hop rfl hwindow
            exact rawDocmdBytes_eq_iff.mp (List.append_cancel_left (hbuffer.symm.trans hplain))
        | _ => exact inlineSafe_of_none rfl
      · intro h
        have hbuffer := ((implemented m).puts hv fun _ => h).bytes_eq
          (s := { s with inline := true }) hop rfl hwindow
        exact hbuffer.trans hplain.symm

theorem inline_agrees_iff_two :
    ((xdrCreateLinkParms { linkParms with lockDevice := 2 }).run
        ⟨.encode, [], true, 0, false, true, 0⟩).2.bytes =
      ((xdrCreateLinkParms { linkParms with lockDevice := 2 }).run
        ⟨.encode, [], false, 0, false, true, 0⟩).2.bytes ↔
      InlineSafe .createLinkParms { linkParms with lockDevice := 2 } :=
  inline_agrees_iff .createLinkParms { linkParms with lockDevice := 2 }
    (s := ⟨.encode, [], true, 0, false, true, 0⟩) rfl rfl

end Inline

end LibLxi.WireFormat

import LibLxi.WireMessages
import LibLxi.XdrMemory

namespace LibLxi.WireMemory

open Vxi11core WireMessages Xdr XdrLanguage XdrMemory

/-- The blocks that an object owns. Where there is a pointer it is the last field. -/
def owned : (m : Message) → m.Obj → Int
  | .createLinkParms, _ => 1
  | .deviceWriteParms, x => bytesBlocks x.data
  | .deviceReadResp, x => bytesBlocks x.data
  | .deviceEnableSrqParms, x => bytesBlocks x.handle
  | .deviceDocmdParms, x => bytesBlocks x.dataIn
  | .deviceDocmdResp, x => bytesBlocks x.dataOut
  | _, _ => 0

theorem owns : (m : Message) → (x : m.Obj) → Owns (m.routine x) (owned m)
  | .void, _ => .pure rfl
  | .deviceLink, _ => .unit _
  | .deviceError, _ => .bind (.unit _) fun _ => .pure rfl
  | .createLinkParms, x =>
      have hget : Owns x.getUnits nothing :=
        .bind (.bind .ixdrGet fun _ => .pure rfl) fun _ =>
          .bind (.bind .ixdrGet fun _ => .pure rfl) fun _ => .bind .ixdrGet fun _ => .pure rfl
      have hunits : Owns x.units nothing :=
        .bind (.unit _) fun _ => .bind (.unit _) fun _ => .bind (.unit _) fun _ => .pure rfl
      .byOp (.bind (.inlineOr hget hunits) fun _ => .map (.string _ _) fun _ => rfl)
  | .createLinkResp, _ =>
      .bind (.unit _) fun _ => .bind (.unit _) fun _ => .bind (.unit _) fun _ => .bind (.unit _) fun _ =>
        .pure rfl
  | .deviceWriteParms, _ =>
      .bind (.unit _) fun _ => .bind (.unit _) fun _ => .bind (.unit _) fun _ => .bind (.unit _) fun _ =>
        .map (.bytes _ _) fun _ => rfl
  | .deviceWriteResp, _ => .bind (.unit _) fun _ => .bind (.unit _) fun _ => .pure rfl
  | .deviceReadParms, _ =>
      have hget (p : DeviceReadParms) : Owns p.getUnits nothing :=
        .bind .ixdrGet fun _ => .bind .ixdrGet fun _ => .bind .ixdrGet fun _ => .pure rfl
      have hunits (p : DeviceReadParms) : Owns p.units nothing :=
        .bind (.unit _) fun _ => .bind (.unit _) fun _ => .bind (.unit _) fun _ => .pure rfl
      .byOp (.bind (.bind (.unit _) fun _ => .pure rfl) fun p => .bind (.inlineOr (hget p) (hunits p))
        fun _ => .bind (.unit _) fun _ => .bind (.unit _) fun _ => .pure rfl)
  | .deviceReadResp, _ =>
      .bind (.unit _) fun _ => .bind (.unit _) fun _ => .map (.bytes _ _) fun _ => rfl
  | .deviceReadStbResp, _ => .bind (.unit _) fun _ => .bind (.unit _) fun _ => .pure rfl
  | .deviceGenericParms, _ =>
      .bind (.unit _) fun _ => .bind (.unit _) fun _ => .bind (.unit _) fun _ => .bind (.unit _) fun _ =>
        .pure rfl
  | .deviceRemoteFunc, x =>
      have hget : Owns x.getUnits nothing :=
        .bind .ixdrGet fun _ => .bind .ixdrGet fun _ => .bind .ixdrGet fun _ => .bind .ixdrGet fun _ =>
          .pure rfl
      have hunits : Owns x.units nothing :=
        .bind (.unit _) fun _ => .bind (.unit _) fun _ => .bind (.unit _) fun _ =>
          .bind (.unit _) fun _ => .pure rfl
      .byOp (.bind (.inlineOr hget hunits) fun _ => .bind (.unit _) fun _ => .pure rfl)
  | .deviceEnableSrqParms, _ =>
      .bind (.unit _) fun _ => .bind (.unit _) fun _ => .map (.bytes _ _) fun _ => rfl
  | .deviceLockParms, _ =>
      .bind (.unit _) fun _ => .bind (.unit _) fun _ => .bind (.unit _) fun _ => .pure rfl
  | .deviceDocmdParms, _ =>
      have hget (p : DeviceDocmdParms) : Owns p.getUnits nothing :=
        .bind .ixdrGet fun _ => .bind .ixdrGet fun _ =>
          .bind (.bind .ixdrGet fun _ => .pure rfl) fun _ =>
            .bind (.bind .ixdrGet fun _ => .pure rfl) fun _ =>
              .bind (.bind .ixdrGet fun _ => .pure rfl) fun _ => .pure rfl
      have hunits (p : DeviceDocmdParms) : Owns p.units nothing :=
        .bind (.unit _) fun _ => .bind (.unit _) fun _ => .bind (.unit _) fun _ =>
          .bind (.unit _) fun _ => .bind (.unit _) fun _ => .pure rfl
      .byOp (.bind (.bind (.unit _) fun _ => .bind (.unit _) fun _ => .pure rfl) fun p =>
        .bind (.inlineOr (hget p) (hunits p)) fun _ => .map (.bytes _ _) fun _ => rfl)
  | .deviceDocmdResp, _ => .bind (.unit _) fun _ => .map (.bytes _ _) fun _ => rfl

theorem frees : (m : Message) → (x : m.Obj) → Frees (m.routine x) (owned m x)
  | .void, x => (Skips.pure x).frees
  | .deviceLink, x => (Skips.unit x).frees
  | .deviceError, _ => .bind (.unit _) (Skips.pure _).frees
  | .createLinkParms, x =>
      have hunits : Skips x.units x := .bind (.unit _) (.bind (.unit _) (.bind (.unit _) (.pure _)))
      .byOp (.bind hunits (.map (.string _ _)))
  | .createLinkResp, _ =>
      .bind (.unit _) (.bind (.unit _) (.bind (.unit _) (.bind (.unit _) (Skips.pure _).frees)))
  | .deviceWriteParms, _ =>
      .bind (.unit _) (.bind (.unit _) (.bind (.unit _) (.bind (.unit _) (.map (.bytes _ _)))))
  | .deviceWriteResp, _ => .bind (.unit _) (.bind (.unit _) (Skips.pure _).frees)
  | .deviceReadParms, x =>
      have hlink : Skips x.link x := .bind (.unit _) (.pure _)
      have hunits : Skips x.units x := .bind (.unit _) (.bind (.unit _) (.bind (.unit _) (.pure _)))
      .byOp (.bind hlink (.bind hunits (.bind (.unit _) (.bind (.unit _) (Skips.pure _).frees))))
  | .deviceReadResp, _ => .bind (.unit _) (.bind (.unit _) (.map (.bytes _ _)))
  | .deviceReadStbResp, _ => .bind (.unit _) (.bind (.unit _) (Skips.pure _).frees)
  | .deviceGenericParms, _ =>
      .bind (.unit _) (.bind (.unit _) (.bind (.unit _) (.bind (.unit _) (Skips.pure _).frees)))
  | .deviceRemoteFunc, x =>
      have hunits : Skips x.units x :=
        .bind (.unit _) (.bind (.unit _) (.bind (.unit _) (.bind (.unit _) (.pure _))))
      .byOp (.bind hunits (.bind (.unit _) (Skips.pure _).frees))
  | .deviceEnableSrqParms, _ => .bind (.unit _) (.bind (.unit _) (.map (.bytes _ _)))
  | .deviceLockParms, _ => .bind (.unit _) (.bind (.unit _) (.bind (.unit _) (Skips.pure _).frees))
  | .deviceDocmdParms, x =>
      have hlink : Skips x.link x := .bind (.unit _) (.bind (.unit _) (.pure _))
      have hunits : Skips x.units x :=
        .bind (.unit _) (.bind (.unit _) (.bind (.unit _) (.bind (.unit _) (.bind (.unit _)
          (.pure _)))))
      .byOp (.bind hlink (.bind hunits (.map (.bytes _ _))))
  | .deviceDocmdResp, _ => .bind (.unit _) (.map (.bytes _ _))

/-- A message that is decoded into memory of the caller leaves nothing allocated. One
that is refused leaves nothing where the library frees what a failed decode has
allocated, and at most one block where it does not. Freeing any other object gives back
what decoding it took, and does not fail. -/
theorem message_memory (m : Message) (x : m.Obj) {s t : Xdr.Stream} {o : Option m.Obj}
    (hop : s.op = .decode) (hrun : (m.routine x).run s = (o, t)) :
    (s.preset = true → t.blocks = s.blocks) ∧
      (o = none → (s.releases = true → t.blocks = s.blocks) ∧
        (t.blocks = s.blocks ∨ t.blocks = s.blocks + 1)) ∧
      ∀ {y u}, o = some y → s.preset = false → u.op = .free → u.blocks = t.blocks →
        ∃ z, (m.routine y).run u = (some z, { u with blocks := s.blocks }) := by
  obtain ⟨o', t', n, hrun', -, -, -, hkept, hblocks⟩ := (owns m x).run hop
  obtain ⟨rfl, rfl⟩ := Prod.mk.inj (hrun'.symm.trans hrun)
  refine ⟨fun hpreset => ?_, ?_, ?_⟩
  · have hzero : n = 0 := by
      cases o' with
      | none => exact hkept.none_eq (.inl hpreset)
      | some y => exact hkept.trans (if_pos hpreset)
    rw [hblocks, hzero, Int.add_zero]
  · rintro rfl
    refine ⟨fun hreleases => ?_, ?_⟩
    · rw [hblocks, hkept.none_eq (.inr hreleases), Int.add_zero]
    · rw [hblocks]
      rcases hkept with rfl | ⟨rfl, -⟩
      · exact .inl (Int.add_zero _)
      · exact .inr rfl
  · rintro y u rfl hpreset hfree hu
    obtain ⟨z, hz⟩ := (frees m y).run hfree
    have howned : n = owned m y := hkept.trans (by simp [hpreset])
    have hback : u.blocks - owned m y = s.blocks := by
      rw [hu, hblocks, howned]
      exact Int.add_sub_cancel _ _
    exact ⟨z, by rw [hz, hback]⟩

theorem message_memory_deviceReadResp :
    ∃ z, (xdrDeviceReadResp ⟨0, 4, ⟨[97, 98], by decide⟩⟩).run ⟨.free, [], false, 0, false, true, 1⟩ =
      (some z, ⟨.free, [], false, 0, false, true, 0⟩) :=
  (message_memory .deviceReadResp ⟨0, 0, noBytes⟩
    (s := ⟨.decode, [0, 0, 0, 0, 0, 0, 0, 4, 0, 0, 0, 2, 97, 98, 0, 0], false, 0, false, true, 0⟩)
    (t := ⟨.decode, [], false, 0, false, true, 1⟩) (o := some ⟨0, 4, ⟨[97, 98], by decide⟩⟩) rfl rfl).2.2
      rfl rfl rfl rfl

end LibLxi.WireMemory

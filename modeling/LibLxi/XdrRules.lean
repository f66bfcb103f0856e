import LibLxi.Xdr

namespace LibLxi.XdrRules

open Xdr XdrLanguage

variable {α β : Type}

section Bind

theorem bind_some {m : Routine α} {k : α → Routine β} {s t : Stream} {a : α} (h : m.run s = (some a, t)) :
    (m >>= k).run s = (k a).run t := by
  rw [run_bind, h]

theorem bind_none {m : Routine α} {k : α → Routine β} {s : Stream} (h : (m.run s).1 = none) :
    ((m >>= k).run s).1 = none := by
  rw [run_bind]
  generalize m.run s = x at h
  obtain ⟨o, t⟩ := x
  subst h
  rfl

theorem byOp_encode {e d f : Routine α} {s : Xdr.Stream} (h : s.op = .encode) :
    (byOp e d f).run s = e.run s := by
  simp only [byOp, h]

theorem byOp_decode {e d f : Routine α} {s : Xdr.Stream} (h : s.op = .decode) :
    (byOp e d f).run s = d.run s := by
  simp only [byOp, h]

theorem byOp_free {e d f : Routine α} {s : Xdr.Stream} (h : s.op = .free) :
    (byOp e d f).run s = f.run s := by
  simp only [byOp, h]

theorem xdrInline_handed {n : Nat} {s : Xdr.Stream} (h : s.inline = true)
    (hhas : s.op = .decode → n * bytesPerXdrUnit ≤ s.bytes.length) :
    (xdrInline (n * bytesPerXdrUnit)).run s = (some true, { s with window := n }) := by
  have hdiv : n * bytesPerXdrUnit / bytesPerXdrUnit = n := Nat.mul_div_cancel n (by decide)
  simp only [xdrInline]
  rw [if_pos ⟨h, hhas⟩, hdiv]

theorem xdrInline_refused {len : Nat} {s : Xdr.Stream}
    (h : s.inline = false ∨ s.op = .decode ∧ s.bytes.length < len) :
    (xdrInline len).run s = (some false, s) := by
  simp only [xdrInline]
  apply if_neg
  rintro ⟨hinline, hhas⟩
  rcases h with hoff | ⟨hop, hlt⟩
  · rw [hinline] at hoff
    cases hoff
  · exact absurd (hhas hop) (by omega)

end Bind

/-- Encoding puts these bytes, from one number of units left in the in-line
buffer to another. -/
structure Puts (inline : Bool) (window : Nat) (m : Routine α) (a : α) (bs : List UInt8)
    (window' : Nat) : Prop where
  run : ∀ s : Stream, s.op = .encode → s.inline = inline → s.window = window →
    m.run s = (some a, { s with bytes := s.bytes ++ bs, window := window' })

/-- Encoding fails, with these bytes put already. -/
structure Breaks (m : Routine α) (bs : List UInt8) : Prop where
  run : ∀ s : Stream, s.op = .encode →
    ∃ window, m.run s = (none, { s with bytes := s.bytes ++ bs, window })

/-- Decoding takes what the decoder takes, and fails where it fails. -/
structure Gets (inline : Bool) (window : Nat) (m : Routine α) (d : Decoder α) (window' : Nat) :
    Prop where
  some : ∀ {s : Stream} {v rest}, s.op = .decode → s.inline = inline → s.window = window →
    d s.bytes = some (v, rest) →
      ∃ blocks, m.run s = (some v, { s with bytes := rest, window := window', blocks })
  none : ∀ {s : Stream}, s.op = .decode → s.inline = inline → s.window = window →
    d s.bytes = none → (m.run s).1 = none

section Rules

variable {inline : Bool} {w w' w'' : Nat}

theorem Puts.bytes_eq {m : Routine α} {a : α} {bs : List UInt8} (h : Puts inline w m a bs w')
    {s : Stream} (hop : s.op = .encode) (hinline : s.inline = inline) (hw : s.window = w) :
    (m.run s).2.bytes = s.bytes ++ bs := by
  rw [h.run s hop hinline hw]

theorem Puts.pure (a : α) : Puts inline w (pure a) a [] w where
  run s _ _ hw := by
    rw [List.append_nil, ← hw]
    rfl

theorem Puts.bind {m : Routine α} {k : α → Routine β} {a : α} {b : β} {bs bs' : List UInt8}
    (hm : Puts inline w m a bs w') (hk : Puts inline w' (k a) b bs' w'') :
    Puts inline w (m >>= k) b (bs ++ bs') w'' where
  run s hop hinline hw := by
    have hback := hk.run { s with bytes := s.bytes ++ bs, window := w' } hop hinline rfl
    rw [bind_some (hm.run s hop hinline hw), hback, List.append_assoc]

theorem Breaks.after {m : Routine α} {k : α → Routine β} {a : α} {bs bs' : List UInt8}
    (hm : ∀ inline w, Puts inline w m a bs w) (hk : Breaks (k a) bs') :
    Breaks (m >>= k) (bs ++ bs') where
  run s hop := by
    obtain ⟨window, hrun⟩ := hk.run { s with bytes := s.bytes ++ bs } hop
    refine ⟨window, ?_⟩
    rw [bind_some ((hm s.inline s.window).run s hop rfl rfl), hrun, List.append_assoc]

theorem Breaks.bind {m : Routine α} {k : α → Routine β} {bs : List UInt8} (hm : Breaks m bs) :
    Breaks (m >>= k) bs where
  run s hop := by
    obtain ⟨window, hrun⟩ := hm.run s hop
    exact ⟨window, by rw [run_bind, hrun]⟩

theorem Breaks.byOp {e d f : Routine α} {bs : List UInt8} (he : Breaks e bs) :
    Breaks (byOp e d f) bs where
  run s hop := by
    rw [byOp_encode hop]
    exact he.run s hop

theorem Breaks.fail : Breaks (fail : Routine α) [] where
  run s _ := ⟨s.window, by rw [List.append_nil]; rfl⟩

theorem Puts.congr {m : Routine α} {a : α} {bs bs' : List UInt8} (h : Puts inline w m a bs w')
    (hbs : bs = bs') : Puts inline w m a bs' w' :=
  hbs ▸ h

theorem Puts.put (bs : List UInt8) : Puts inline w (put bs) () bs w where
  run s _ _ hw := by
    rw [← hw]
    rfl

theorem Puts.byOp {e d f : Routine α} {a : α} {bs : List UInt8} (he : Puts inline w e a bs w') :
    Puts inline w (byOp e d f) a bs w' where
  run s hop hinline hw := by
    rw [byOp_encode hop]
    exact he.run s hop hinline hw

theorem Puts.ixdrPut (v : UInt32) : Puts inline (w + 1) (ixdrPut v) () (word v) w where
  run s _ _ hw := by
    simp only [Xdr.ixdrPut, hw]

theorem Puts.inlined {A B : Routine α} {a : α} {bs : List UInt8} {n : Nat}
    (hA : Puts true n A a bs 0) :
    Puts true 0 (inlineOr n A B) a bs 0 where
  run s hop hinline hw := by
    have hanswer := xdrInline_handed (n := n) hinline (fun h => by rw [hop] at h; cases h)
    rw [inlineOr, bind_some hanswer]
    exact hA.run { s with window := n } hop hinline rfl

theorem Puts.notInlined {A B : Routine α} {a : α} {bs : List UInt8} {n : Nat}
    (hB : Puts false w B a bs w') : Puts false w (inlineOr n A B) a bs w' where
  run s hop hinline hw := by
    rw [inlineOr, bind_some (xdrInline_refused (.inl hinline))]
    exact hB.run s hop hinline hw

theorem Gets.pure (a : α) : Gets inline w (pure a) (.pure a) w where
  some {s v rest} _ _ hw h := by
    obtain ⟨rfl, rfl⟩ := Prod.mk.inj (Option.some.inj h)
    exact ⟨s.blocks, by rw [← hw]; rfl⟩
  none _ _ _ h := by cases h

/-- What comes next depends only on the value that the first routine made its
object of. -/
theorem Gets.bindMap {γ : Type} {m : Routine α} {k : α → Routine β} {d : Decoder γ} {g : γ → α}
    {e : γ → Decoder β} (hm : Gets inline w m (d.map g) w')
    (hk : ∀ v, Gets inline w' (k (g v)) (e v) w'') : Gets inline w (m >>= k) (d.bind e) w'' where
  some {s b rest} hop hinline hw h := by
    obtain ⟨⟨v, mid⟩, hv, hb⟩ := Option.bind_eq_some_iff.mp h
    obtain ⟨blocks, hrun⟩ := hm.some hop hinline hw (Decoder.map_eq hv g)
    rw [bind_some hrun]
    exact (hk v).some hop hinline rfl hb
  none {s} hop hinline hw h := by
    cases hv : d s.bytes with
    | none =>
        have hread : d.map g s.bytes = Option.none := by rw [Decoder.map, Decoder.bind, hv]; rfl
        exact bind_none (hm.none hop hinline hw hread)
    | some x =>
        obtain ⟨v, mid⟩ := x
        obtain ⟨blocks, hrun⟩ := hm.some hop hinline hw (Decoder.map_eq hv g)
        rw [bind_some hrun]
        rw [Decoder.bind_eq hv] at h
        exact (hk v).none hop hinline rfl h

theorem Gets.bind {m : Routine α} {k : α → Routine β} {d : Decoder α} {e : α → Decoder β}
    (hm : Gets inline w m d w') (hk : ∀ a, Gets inline w' (k a) (e a) w'') :
    Gets inline w (m >>= k) (d.bind e) w'' :=
  Gets.bindMap (g := id) (by rwa [Decoder.map_id]) hk

theorem Gets.get (d : Decoder α) : Gets inline w (get d) d w where
  some {s v rest} _ _ hw h := ⟨s.blocks, by simp only [Xdr.get, h, ← hw]⟩
  none _ _ _ h := by simp only [Xdr.get, h]

theorem Gets.byOp {e d f : Routine α} {r : Decoder α} (hd : Gets inline w d r w') :
    Gets inline w (byOp e d f) r w' where
  some hop hinline hw h := by
    rw [byOp_decode hop]
    exact hd.some hop hinline hw h
  none hop hinline hw h := by
    rw [byOp_decode hop]
    exact hd.none hop hinline hw h

theorem Gets.ixdrGet : Gets inline (w + 1) ixdrGet takeWord w where
  some {s v rest} _ _ hw h := ⟨s.blocks, by simp only [Xdr.ixdrGet, hw, h]⟩
  none _ _ hw h := by simp only [Xdr.ixdrGet, hw, h]

theorem Gets.congr {m : Routine α} {d d' : Decoder α} (h : Gets inline w m d w')
    (hd : ∀ bs, d' bs = d bs) : Gets inline w m d' w' := by
  obtain rfl : d' = d := funext hd
  exact h

theorem Gets.allocate : Gets inline w allocate (.pure ()) w where
  some {s v rest} _ _ hw h := by
    obtain ⟨-, rfl⟩ := Prod.mk.inj (Option.some.inj h)
    subst hw
    by_cases hpreset : s.preset = true
    · exact ⟨s.blocks, congrArg (Prod.mk _) (if_pos hpreset)⟩
    · exact ⟨s.blocks + 1, congrArg (Prod.mk _) (if_neg hpreset)⟩
  none _ _ _ h := by cases h

theorem Gets.orRelease {m : Routine α} {d : Decoder α} (hm : Gets inline w m d w') :
    Gets inline w (orRelease m) d w' where
  some hop hinline hw h := by
    obtain ⟨blocks, hrun⟩ := hm.some hop hinline hw h
    exact ⟨blocks, by simp only [Xdr.orRelease, hrun]⟩
  none {s} hop hinline hw h := by
    have hnone := hm.none hop hinline hw h
    simp only [Xdr.orRelease]
    generalize m.run s = x at hnone
    obtain ⟨o, t⟩ := x
    subst hnone
    rfl

theorem Gets.fail : Gets inline w (fail : Routine α) .fail w' where
  some _ _ _ h := by cases h
  none _ _ _ _ := rfl

theorem Gets.notInlined {A B : Routine α} {d : Decoder α} {n : Nat}
    (hB : Gets false w B d w') : Gets false w (inlineOr n A B) d w' where
  some hop hinline hw h := by
    rw [inlineOr, bind_some (xdrInline_refused (.inl hinline))]
    exact hB.some hop hinline hw h
  none hop hinline hw h := by
    rw [inlineOr, bind_some (xdrInline_refused (.inl hinline))]
    exact hB.none hop hinline hw h

end Rules

/-- A decoder that takes n units of every input that it accepts. -/
structure Sized (n : Nat) (d : Decoder α) : Prop where
  length : ∀ {bs v rest}, d bs = some (v, rest) → bs.length = n * bytesPerXdrUnit + rest.length

namespace Sized

theorem takeWord : Sized 1 takeWord where
  length h := by
    rw [takeWord_eq_some.mp h, List.length_append]
    rfl

theorem pure (a : α) : Sized 0 (Decoder.pure a) where
  length h := by
    obtain ⟨-, rfl⟩ := Prod.mk.inj (Option.some.inj h)
    rw [Nat.zero_mul, Nat.zero_add]

theorem bind {m n : Nat} {d : Decoder α} {e : α → Decoder β} (hd : Sized m d)
    (he : ∀ a, Sized n (e a)) : Sized (m + n) (d.bind e) where
  length h := by
    obtain ⟨⟨a, mid⟩, ha, hv⟩ := Option.bind_eq_some_iff.mp h
    rw [hd.length ha, (he a).length hv, Nat.add_mul, Nat.add_assoc]

theorem map {n : Nat} {d : Decoder α} (f : α → β) (hd : Sized n d) : Sized n (d.map f) :=
  hd.bind fun a => pure (f a)

theorem refuses {n : Nat} {d : Decoder α} (hd : Sized n d) {bs : List UInt8}
    (h : bs.length < n * bytesPerXdrUnit) : d bs = none := by
  cases hbs : d bs with
  | none => rfl
  | some x =>
      have hlen := hd.length hbs
      omega

end Sized

def units : Ty → Option Nat
  | .void => some 0
  | .bytes _ | .string _ => none
  | .seq first rest => do return (← units first) + (← units rest)
  | .int | .unsignedInt | .unsignedShort | .char | .unsignedChar | .bool | .enum => some 1

theorem sized_decode {t : Ty} {n : Nat} (h : units t = some n) : Sized n (decode t) := by
  induction t generalizing n with
  | void =>
      cases h
      exact .pure ()
  | unsignedInt =>
      cases h
      exact .takeWord
  | int | unsignedShort | char | unsignedChar | bool | enum =>
      cases h
      exact .map _ .takeWord
  | bytes | string => cases h
  | seq first rest ihFirst ihRest =>
      obtain ⟨m, hfirst, h⟩ := Option.bind_eq_some_iff.mp h
      obtain ⟨k, hrest, h⟩ := Option.bind_eq_some_iff.mp h
      cases h
      exact (ihFirst hfirst).bind fun _ => (ihRest hrest).map _

/-- Units read from an in-line buffer, or one by one where the stream has too few
of them for the buffer. -/
theorem Gets.inlined {A B : Routine α} {d e : Decoder α} {n : Nat} (hA : Gets true n A d 0)
    (hB : Gets true 0 B e 0) (hd : Sized n d) (he : Sized n e) :
    Gets true 0 (inlineOr n A B) d 0 where
  some {s v rest} hop hinline hw h := by
    have hhas : n * bytesPerXdrUnit ≤ s.bytes.length := by
      rw [hd.length h]
      exact Nat.le_add_right _ _
    rw [inlineOr, bind_some (xdrInline_handed hinline fun _ => hhas)]
    exact hA.some (s := { s with window := n }) hop hinline rfl h
  none {s} hop hinline hw h := by
    by_cases hhas : n * bytesPerXdrUnit ≤ s.bytes.length
    · rw [inlineOr, bind_some (xdrInline_handed hinline fun _ => hhas)]
      exact hA.none (s := { s with window := n }) hop hinline rfl h
    · have hlt : s.bytes.length < n * bytesPerXdrUnit := Nat.lt_of_not_le hhas
      rw [inlineOr, bind_some (xdrInline_refused (.inr ⟨hop, hlt⟩))]
      exact hB.none hop hinline hw (he.refuses hlt)

section InlineOr

variable {inline : Bool} {A B : Routine α} {n : Nat}

theorem Puts.inlineOr {a : α} {bs : List UInt8} (hA : inline = true → Puts true n A a bs 0)
    (hB : Puts inline 0 B a bs 0) : Puts inline 0 (inlineOr n A B) a bs 0 := by
  cases inline with
  | true => exact .inlined (hA rfl)
  | false => exact .notInlined hB

theorem Gets.inlineOr {d : Decoder α} (hA : Gets true n A d 0) (hB : Gets inline 0 B d 0)
    (hd : Sized n d) : Gets inline 0 (inlineOr n A B) d 0 := by
  cases inline with
  | true => exact .inlined hA hB hd hd
  | false => exact .notInlined hB

end InlineOr

section Fields

variable {inline : Bool} {w w' w'' : Nat} {t ts : Ty}

theorem Puts.field {m : Routine α} {k : α → Routine β} {a : α} {b : β} {v : t.Val} {vs : ts.Val}
    (hm : Puts inline w m a (encode t v) w') (hk : Puts inline w' (k a) b (encode ts vs) w'') :
    Puts inline w (m >>= k) b (encode (.seq t ts) (v, vs)) w'' :=
  hm.bind hk

theorem Gets.field {m : Routine α} {k : α → Routine β} {g : t.Val → α} {f : t.Val × ts.Val → β}
    (hm : Gets inline w m ((decode t).map g) w')
    (hk : ∀ v, Gets inline w' (k (g v)) ((decode ts).map fun vs => f (v, vs)) w'') :
    Gets inline w (m >>= k) ((decode (.seq t ts)).map f) w'' := by
  refine (hm.bindMap hk).congr fun bs => ?_
  simp only [decode, Decoder.map, Decoder.bind_assoc, Decoder.pure_bind]

theorem Gets.done {b : β} {f : Unit → β} (h : f () = b) :
    Gets inline w (Pure.pure b) ((decode .void).map f) w := by
  subst h
  exact Gets.pure _

end Fields

section Primitives

variable {inline : Bool} {w : Nat} {toWord : α → UInt32} {ofWord : UInt32 → α}

theorem Puts.unit (x : α) : Puts inline w (xdrUnit toWord ofWord x) x (word (toWord x)) w := by
  refine Puts.byOp ?_
  rw [← List.append_nil (word (toWord x))]
  exact (Puts.put _).bind (.pure x)

theorem Gets.unit (x : α) : Gets inline w (xdrUnit toWord ofWord x) (takeWord.map ofWord) w :=
  Gets.byOp (Gets.get _)

theorem counted_le {max : UInt32} {bs : List UInt8} (h : bs.length ≤ max.toNat) :
    UInt32.ofNat bs.length ≤ max := by
  have hlt : bs.length < 2 ^ 32 := lt_of_le_of_lt h max.toNat_lt
  rw [UInt32.le_iff_toNat_le, UInt32.toNat_ofNat_of_lt' hlt]
  exact h

theorem Puts.counted {max : UInt32} {bs : List UInt8} (h : bs.length ≤ max.toNat) :
    Puts inline w (putCounted max bs) () (counted bs) w := by
  have hle : ¬ UInt32.ofNat bs.length > max := UInt32.not_lt.mpr (counted_le h)
  rw [putCounted, if_neg hle]
  exact (Puts.put _).bind (.put _)

theorem Puts.bytes {max : UInt32} {v : Bytes} (h : v.bytes.length ≤ max.toNat) :
    Puts inline w (xdrBytes max v) v (XdrLanguage.counted v.bytes) w := by
  refine Puts.byOp ?_
  rw [← List.append_nil (XdrLanguage.counted v.bytes)]
  exact (Puts.counted h).bind (.pure v)

theorem Puts.string {max : UInt32} (hmax : textMax ≤ max) (v : Text) :
    Puts inline w (xdrString max v) v (XdrLanguage.counted v.bytes) w := by
  have hbounded := v.bounded.trans (UInt32.le_iff_toNat_le.mp hmax)
  refine Puts.byOp ?_
  rw [← List.append_nil (XdrLanguage.counted v.bytes)]
  exact (Puts.counted hbounded).bind (.pure v)

theorem Breaks.bytes {max : UInt32} {v : Bytes} (h : max < UInt32.ofNat v.bytes.length) :
    Breaks (xdrBytes max v) (word (UInt32.ofNat v.bytes.length)) := by
  refine .byOp (.bind ?_)
  rw [putCounted, if_pos h, ← List.append_nil (word _)]
  exact .after (fun _ _ => .put _) .fail

theorem takeCounted_beyond {max n : UInt32} (h : max < n) (rest : List UInt8) :
    takeCounted max (word n ++ rest) = none := by
  rw [takeCounted, takeWord_bind, dif_neg (UInt32.not_le.mpr h)]
  rfl

theorem Gets.counted {max : UInt32} {m : UInt32 → Routine β} {f : Counted max → β}
    (hm : ∀ n (h : n ≤ max), Gets inline w (m n)
      ((takePadded n.toNat).map fun v => f (ofPadded h v)) w)
    (hfail : ∀ n, ¬ n ≤ max → m n = Xdr.fail) :
    Gets inline w (Xdr.get takeWord >>= m) ((takeCounted max).map f) w := by
  have hd : (takeCounted max).map f = takeWord.bind fun n =>
      if h : n ≤ max then
        (takePadded n.toNat).map fun v => f (ofPadded h v)
      else .fail := by
    simp only [takeCounted, Decoder.map, Decoder.bind_assoc]
    congr 1
    funext n
    split
    · rw [Decoder.bind_assoc]
      rfl
    · rfl
  rw [hd]
  refine Gets.bind (Gets.get takeWord) fun n => ?_
  by_cases h : n ≤ max
  · rw [dif_pos h]
    exact hm n h
  · rw [dif_neg h, hfail n h]
    exact Gets.fail

theorem Gets.bytes (max : UInt32) (v : Bytes) :
    Gets inline w (xdrBytes max v) ((takeCounted max).map asBytes) w := by
  refine Gets.byOp (Gets.counted (fun n h => ?_) fun n h => dif_neg h)
  rw [dif_pos h]
  split
  · rename_i hzero
    subst n
    exact Gets.congr (Gets.pure noBytes) fun bs => rfl
  · exact Gets.congr (Gets.allocate.bind fun _ => (Gets.get _).orRelease) fun bs => rfl

theorem Gets.string {max : UInt32} (hmax : textMax ≤ max) (v : Text) :
    Gets inline w (xdrString max v) ((decode (.string textMax)).map id) w := by
  rw [Decoder.map_id]
  refine Gets.byOp (Gets.counted (fun n h => ?_) fun n h => dif_neg fun hle => h hle.2)
  rw [dif_pos ⟨UInt32.le_trans h hmax, h⟩]
  exact Gets.congr (Gets.allocate.bind fun _ => (Gets.get _).orRelease) fun bs => rfl

theorem truthOf_toInt32 (w : UInt32) : truthOf w.toInt32 = decide (w ≠ 0) := by
  have hzero : w.toInt32 = 0 ↔ w = 0 :=
    ⟨fun h => congrArg Int32.toUInt32 h, fun h => congrArg UInt32.toInt32 h⟩
  simp only [truthOf, ne_eq, hzero]

theorem truthOf_ofBool (b : Bool) : truthOf (ofBool b) = b := by
  cases b <;> rfl

theorem truth_eq (b : BoolT) : truth b = boolWord (truthOf b) := by
  rw [truth, boolWord, truthOf]
  split <;> simp_all

theorem takeTruth : takeWord.map ofTruth = (decode .bool).map ofBool := by
  rw [decode, Decoder.map, Decoder.map, Decoder.map, Decoder.bind_assoc]
  congr 1
  funext w
  rw [Decoder.pure_bind, ofBool, ofTruth]
  split <;> simp_all

theorem Puts.bool (x : BoolT) : Puts inline w (xdrBool x) x (encode .bool (truthOf x)) w := by
  have h : Puts inline w (xdrBool x) x (word (truth x)) w := Puts.unit x
  rwa [truth_eq] at h

theorem Gets.bool (x : BoolT) : Gets inline w (xdrBool x) ((decode .bool).map ofBool) w := by
  rw [← takeTruth]
  exact Gets.unit x

theorem Gets.int (x : Int32) : Gets inline w (xdrInt x) ((decode .int).map id) w := by
  rw [Decoder.map_id]
  exact Gets.unit x

theorem Gets.uint (x : UInt32) : Gets inline w (xdrUInt x) ((decode .unsignedInt).map id) w :=
  Gets.unit x

theorem Gets.ushort (x : UInt16) :
    Gets inline w (xdrUShort x) ((decode .unsignedShort).map id) w := by
  rw [Decoder.map_id]
  exact Gets.unit x

theorem Gets.char (x : Int8) : Gets inline w (xdrChar x) ((decode .char).map id) w := by
  rw [Decoder.map_id]
  exact Gets.unit x

theorem Gets.uchar (x : UInt8) : Gets inline w (xdrUChar x) ((decode .unsignedChar).map id) w := by
  rw [Decoder.map_id]
  exact Gets.unit x

theorem Gets.enum (x : Int32) : Gets inline w (xdrEnum x) ((decode .enum).map id) w := by
  rw [Decoder.map_id]
  exact Gets.unit x

theorem Puts.ixdrULong (v : UInt32) :
    Puts inline (w + 1) (ixdrPutULong v) () (encode .unsignedInt v) w :=
  .ixdrPut _

theorem Gets.ixdrULong : Gets inline (w + 1) ixdrGetULong ((decode .unsignedInt).map id) w := by
  rw [Decoder.map_id]
  exact .ixdrGet

theorem Gets.ixdrBool : Gets inline (w + 1) ixdrGetBool (takeWord.map UInt32.toInt32) w :=
  Gets.ixdrGet.bind fun _ => .pure _

end Primitives

/-- How the objects of a C type stand for values of a type of the language. -/
structure Representation (α : Type) (t : Ty) where
  value : α → Option t.Val
  object : t.Val → α
  value_object : ∀ v, value (object v) = some v

/-- A decoder for objects that stand for what is read. An encoding is read as the
object that was made for the value. -/
structure Reads {t : Ty} (rep : Representation α t) (d : Decoder α) : Prop where
  value : d.map rep.value = (decode t).map some
  object : ∀ v rest, d (encode t v ++ rest) = some (rep.object v, rest)

section Reads

variable {t : Ty} {rep : Representation α t} {d : Decoder α} {bs rest : List UInt8}

theorem Reads.eq (h : Reads rep d) (bs : List UInt8) :
    (d bs).map (fun x => (rep.value x.1, x.2)) = (decode t bs).map (fun x => (some x.1, x.2)) := by
  have hbs := congrFun h.value bs
  rw [Decoder.map, Decoder.bind, Decoder.map, Decoder.bind] at hbs
  cases hd : d bs <;> cases ht : decode t bs <;> rw [hd, ht] at hbs <;> exact hbs

theorem Reads.some (h : Reads rep d) {y : α} (hd : d bs = some (y, rest)) :
    ∃ v, rep.value y = some v ∧ decode t bs = some (v, rest) := by
  have heq := h.eq bs
  rw [hd] at heq
  obtain ⟨⟨v, rest'⟩, hv, hpair⟩ := Option.map_eq_some_iff.mp heq.symm
  obtain ⟨hvalue, rfl⟩ := Prod.mk.inj hpair
  exact ⟨v, hvalue.symm, hv⟩

theorem Reads.none_iff (h : Reads rep d) : d bs = none ↔ decode t bs = none := by
  rw [← Option.map_eq_none_iff, h.eq, Option.map_eq_none_iff]

end Reads

/-- A routine does with its objects what the type of the language says. On a stream
that hands out in-line buffers it puts only some of its objects so. -/
structure Implements {t : Ty} (r : α → Routine α) (rep : Representation α t) (safe : α → Prop) :
    Prop where
  puts : ∀ {inline x v}, rep.value x = some v → (inline = true → safe x) →
    Puts inline 0 (r x) x (encode t v) 0
  refuses : ∀ {x}, rep.value x = none → ∃ bs, Breaks (r x) bs ∧ decode t bs = none
  gets : ∀ inline x, ∃ d, Gets inline 0 (r x) d 0 ∧ Reads rep d

theorem Reads.of_object {t : Ty} (rep : Representation α t) :
    Reads rep ((decode t).map rep.object) where
  value := by
    rw [Decoder.map, Decoder.map, Decoder.bind_assoc]
    simp only [Decoder.pure_bind, rep.value_object]
    rfl
  object v rest := Decoder.map_eq (decode_encode t v rest) _

end LibLxi.XdrRules

import Mathlib.Data.List.TakeWhile
import Mathlib.Tactic.Ring

namespace LibLxi.XdrLanguage

/-- The types of the XDR language that describe messages. A bound that a
description leaves open is the largest u_int. -/
inductive Ty
  | void
  | int
  | unsignedInt
  | unsignedShort
  | char
  | unsignedChar
  | bool
  | enum
  | bytes (max : UInt32)
  | string (max : UInt32)
  | seq (first rest : Ty)
  deriving DecidableEq

def Ty.struct (fields : List Ty) : Ty := fields.foldr .seq .void

structure Counted (max : UInt32) where
  bytes : List UInt8
  bounded : bytes.length ≤ max.toNat
  deriving DecidableEq

/-- A text within its bound, without the zero that ends it. -/
structure CText (max : UInt32) where
  bytes : List UInt8
  bounded : bytes.length ≤ max.toNat
  nonzero : 0 ∉ bytes
  deriving DecidableEq

@[reducible] def Ty.Val : Ty → Type
  | .void => Unit
  | .int => Int32
  | .unsignedInt => UInt32
  | .unsignedShort => UInt16
  | .char => Int8
  | .unsignedChar => UInt8
  | .bool => Bool
  | .enum => Int32
  | .bytes max => Counted max
  | .string max => CText max
  | .seq first rest => first.Val × rest.Val

def word (v : UInt32) : List UInt8 :=
  [UInt8.ofNat (v.toNat / 2 ^ 24), UInt8.ofNat (v.toNat / 2 ^ 16), UInt8.ofNat (v.toNat / 2 ^ 8),
    UInt8.ofNat v.toNat]

def ofBytes (a b c d : UInt8) : UInt32 :=
  UInt32.ofNat (a.toNat * 2 ^ 24 + b.toNat * 2 ^ 16 + c.toNat * 2 ^ 8 + d.toNat)

def padding (n : Nat) : Nat := (4 - n % 4) % 4

def padded (bs : List UInt8) : List UInt8 := bs ++ List.replicate (padding bs.length) 0

def counted (bs : List UInt8) : List UInt8 := word (UInt32.ofNat bs.length) ++ padded bs

def boolWord (b : Bool) : UInt32 := if b then 1 else 0

def encode : (t : Ty) → t.Val → List UInt8
  | .void, _ => []
  | .int, v => word v.toUInt32
  | .unsignedInt, v => word v
  | .unsignedShort, v => word v.toUInt32
  | .char, v => word v.toInt32.toUInt32
  | .unsignedChar, v => word v.toUInt32
  | .bool, v => word (boolWord v)
  | .enum, v => word v.toUInt32
  | .bytes _, v => counted v.bytes
  | .string _, v => counted v.bytes
  | .seq first rest, v => encode first v.1 ++ encode rest v.2

/-- What takes a value from the front of some bytes, with the bytes behind it. -/
abbrev Decoder (α : Type) := List UInt8 → Option (α × List UInt8)

namespace Decoder

variable {α β : Type}

def pure (a : α) : Decoder α := fun bs => some (a, bs)

def fail : Decoder α := fun _ => none

def bind (d : Decoder α) (e : α → Decoder β) : Decoder β := fun bs => (d bs).bind fun x => e x.1 x.2

def map (f : α → β) (d : Decoder α) : Decoder β := d.bind fun a => .pure (f a)

@[simp] theorem pure_bind (a : α) (e : α → Decoder β) : (pure a).bind e = e a := rfl

@[simp] theorem bind_assoc {γ : Type} (d : Decoder α) (e : α → Decoder β) (f : β → Decoder γ) :
    (d.bind e).bind f = d.bind fun a => (e a).bind f := by
  funext bs
  exact Option.bind_assoc ..

theorem bind_eq {d : Decoder α} {bs rest : List UInt8} {a : α} (h : d bs = some (a, rest))
    (e : α → Decoder β) : d.bind e bs = e a rest := by
  rw [bind, h]
  rfl

theorem map_eq {d : Decoder α} {bs rest : List UInt8} {a : α} (h : d bs = some (a, rest))
    (f : α → β) : d.map f bs = some (f a, rest) :=
  bind_eq h _

theorem map_eq_some {d : Decoder α} {f : α → β} {bs rest : List UInt8} {b : β}
    (h : d.map f bs = some (b, rest)) : ∃ a, d bs = some (a, rest) ∧ f a = b := by
  obtain ⟨⟨a, rest'⟩, ha, hb⟩ := Option.bind_eq_some_iff.mp h
  obtain ⟨rfl, rfl⟩ := Prod.mk.inj (Option.some.inj hb)
  exact ⟨a, ha, rfl⟩

theorem bind_pure (d : Decoder α) : d.bind pure = d := by
  funext bs
  rw [bind]
  cases d bs <;> rfl

theorem map_id (d : Decoder α) : d.map id = d := bind_pure d

end Decoder

def takeWord : Decoder UInt32
  | a :: b :: c :: d :: rest => some (ofBytes a b c d, rest)
  | _ => none

def takePadded (n : Nat) : Decoder { v : List UInt8 // v.length = n } := fun bs =>
  if h : n + padding n ≤ bs.length then
    some (⟨bs.take n, List.length_take_of_le (by omega)⟩, bs.drop (n + padding n))
  else none

def ofPadded {n max : UInt32} (h : n ≤ max) (v : { v : List UInt8 // v.length = n.toNat }) :
    Counted max where
  bytes := v.1
  bounded := v.2.trans_le (UInt32.le_iff_toNat_le.mp h)

def takeCounted (max : UInt32) : Decoder (Counted max) :=
  takeWord.bind fun n =>
    if h : n ≤ max then (takePadded n.toNat).map (ofPadded h) else .fail

/-- A text ends at its first zero, also where the count goes further. -/
def textOf {max : UInt32} (v : Counted max) : CText max where
  bytes := v.bytes.takeWhile (· ≠ 0)
  bounded := le_trans (List.takeWhile_sublist _).length_le v.bounded
  nonzero h := by simpa using List.mem_takeWhile_imp h

def decode : (t : Ty) → Decoder t.Val
  | .void => .pure ()
  | .int => takeWord.map UInt32.toInt32
  | .unsignedInt => takeWord
  | .unsignedShort => takeWord.map UInt32.toUInt16
  | .char => takeWord.map fun w => w.toInt32.toInt8
  | .unsignedChar => takeWord.map UInt32.toUInt8
  | .bool => takeWord.map fun w => decide (w ≠ 0)
  | .enum => takeWord.map UInt32.toInt32
  | .bytes max => takeCounted max
  | .string max => (takeCounted max).map textOf
  | .seq first rest => (decode first).bind fun a => (decode rest).map (Prod.mk a)

section Words

theorem ofBytes_toNat (a b c d : UInt8) :
    (ofBytes a b c d).toNat =
      a.toNat * 2 ^ 24 + b.toNat * 2 ^ 16 + c.toNat * 2 ^ 8 + d.toNat := by
  have ha := a.toNat_lt
  have hb := b.toNat_lt
  have hc := c.toNat_lt
  have hd := d.toNat_lt
  rw [ofBytes, UInt32.toNat_ofNat']
  omega

@[simp] theorem takeWord_word (v : UInt32) (rest : List UInt8) :
    takeWord (word v ++ rest) = some (v, rest) := by
  have hv := v.toNat_lt
  have hof : ofBytes (UInt8.ofNat (v.toNat / 2 ^ 24)) (UInt8.ofNat (v.toNat / 2 ^ 16))
      (UInt8.ofNat (v.toNat / 2 ^ 8)) (UInt8.ofNat v.toNat) = v := by
    apply UInt32.toNat_inj.mp
    rw [ofBytes_toNat]
    simp only [UInt8.toNat_ofNat']
    omega
  rw [word]
  exact congrArg (fun w => some (w, rest)) hof

theorem takeWord_bind {α : Type} (v : UInt32) (rest : List UInt8) (e : UInt32 → Decoder α) :
    takeWord.bind e (word v ++ rest) = e v rest :=
  Decoder.bind_eq (takeWord_word v rest) e

@[simp] theorem word_length (v : UInt32) : (word v).length = 4 := rfl

theorem takeWord_eq_some {bs rest : List UInt8} {v : UInt32} :
    takeWord bs = some (v, rest) ↔ bs = word v ++ rest := by
  constructor
  · intro h
    match bs with
    | [] | [_] | [_, _] | [_, _, _] => cases h
    | a :: b :: c :: d :: tail =>
        obtain ⟨rfl, rfl⟩ := Prod.mk.inj (Option.some.inj h)
        have ha := a.toNat_lt
        have hb := b.toNat_lt
        have hc := c.toNat_lt
        have hd := d.toNat_lt
        have hword : word (ofBytes a b c d) = [a, b, c, d] := by
          simp only [word, ofBytes_toNat, List.cons.injEq, and_true, ← UInt8.toNat_inj,
            UInt8.toNat_ofNat']
          omega
        rw [hword]
        rfl
  · rintro rfl
    exact takeWord_word v rest

theorem padding_dvd (n : Nat) : 4 ∣ n + padding n := by
  rw [padding]
  omega

@[simp] theorem padded_length (bs : List UInt8) : (padded bs).length = bs.length + padding bs.length := by
  simp [padded]

theorem takePadded_padded {n : Nat} {bs : List UInt8} (hn : bs.length = n) (rest : List UInt8) :
    takePadded n (padded bs ++ rest) = some (⟨bs, hn⟩, rest) := by
  subst n
  have hle : bs.length + padding bs.length ≤ (padded bs ++ rest).length := by
    rw [List.length_append, padded_length]
    exact Nat.le_add_right _ _
  have htake : (padded bs ++ rest).take bs.length = bs := by
    rw [padded, List.append_assoc, List.take_left]
  have hdrop : (padded bs ++ rest).drop (bs.length + padding bs.length) = rest := by
    rw [← padded_length, List.drop_left]
  rw [takePadded, dif_pos hle, hdrop]
  exact congrArg some (Prod.ext (Subtype.ext htake) rfl)

theorem takeCounted_counted {max : UInt32} (v : Counted max) (rest : List UInt8) :
    takeCounted max (counted v.bytes ++ rest) = some (v, rest) := by
  have hlt : v.bytes.length < 2 ^ 32 := lt_of_le_of_lt v.bounded max.toNat_lt
  have hlen : (UInt32.ofNat v.bytes.length).toNat = v.bytes.length :=
    UInt32.toNat_ofNat_of_lt' hlt
  have hle : UInt32.ofNat v.bytes.length ≤ max := by
    rw [UInt32.le_iff_toNat_le, hlen]
    exact v.bounded
  rw [counted, List.append_assoc, takeCounted, takeWord_bind, dif_pos hle]
  exact Decoder.map_eq (takePadded_padded hlen.symm rest) _

theorem textOf_self {max : UInt32} (v : CText max) : textOf ⟨v.bytes, v.bounded⟩ = v := by
  have hbytes : v.bytes.takeWhile (· ≠ 0) = v.bytes := by
    rw [List.takeWhile_eq_self_iff]
    intro b hb
    have hne : b ≠ 0 := fun h => v.nonzero (h ▸ hb)
    simpa using hne
  rw [textOf]
  simp only [hbytes]

end Words

/-- What was written is read back, and nothing behind it. -/
theorem decode_encode (t : Ty) (v : t.Val) (rest : List UInt8) :
    decode t (encode t v ++ rest) = some (v, rest) := by
  induction t generalizing rest with
  | void => rfl
  | int | unsignedInt | unsignedShort | char | unsignedChar | enum =>
      simp [encode, decode, Decoder.map, Decoder.bind, Decoder.pure]
  | bool => cases v <;> simp [encode, decode, Decoder.map, Decoder.bind, Decoder.pure, boolWord]
  | bytes max => exact takeCounted_counted v rest
  | string max =>
      rw [encode, decode, Decoder.map_eq (takeCounted_counted ⟨v.bytes, v.bounded⟩ rest)]
      exact congrArg (fun x => some (x, rest)) (textOf_self v)
  | seq first rest' ihFirst ihRest =>
      rw [encode, List.append_assoc, decode, Decoder.bind_eq (ihFirst _ _)]
      exact Decoder.map_eq (ihRest _ rest) _

theorem decode_seq_none {t u : Ty} {bs : List UInt8} (h : decode u bs = none) (v : t.Val) :
    decode (.seq t u) (encode t v ++ bs) = none := by
  rw [decode, Decoder.bind_eq (decode_encode t v bs), Decoder.map, Decoder.bind, h]
  rfl

/-- A decoder that takes whole units and looks at nothing behind them. -/
structure Framed {α : Type} (d : Decoder α) : Prop where
  takes : ∀ {bs v rest}, d bs = some (v, rest) →
    ∃ taken, bs = taken ++ rest ∧ 4 ∣ taken.length ∧ ∀ rest', d (taken ++ rest') = some (v, rest')

namespace Framed

variable {α β : Type} {d : Decoder α}

theorem pure (a : α) : Framed (Decoder.pure a) where
  takes {bs v rest} h := by
    obtain ⟨rfl, rfl⟩ := Prod.mk.inj (Option.some.inj h)
    exact ⟨[], rfl, Nat.dvd_zero 4, fun _ => rfl⟩

theorem fail : Framed (Decoder.fail : Decoder α) where
  takes h := by cases h

theorem bind {e : α → Decoder β} (hd : Framed d) (he : ∀ a, Framed (e a)) :
    Framed (d.bind e) where
  takes {bs v rest} h := by
    obtain ⟨⟨a, mid⟩, ha, hv⟩ := Option.bind_eq_some_iff.mp h
    obtain ⟨front, rfl, hfront, hread⟩ := hd.takes ha
    obtain ⟨back, rfl, hback, hread'⟩ := (he a).takes hv
    refine ⟨front ++ back, (List.append_assoc ..).symm, ?_, fun rest' => ?_⟩
    · rw [List.length_append]
      exact Nat.dvd_add hfront hback
    · rw [Decoder.bind, List.append_assoc, hread, Option.bind_some, hread']

theorem map (f : α → β) (hd : Framed d) : Framed (d.map f) := hd.bind fun a => .pure (f a)

theorem takeWord : Framed takeWord where
  takes {_ v _} h := ⟨word v, takeWord_eq_some.mp h, Nat.dvd_refl 4, takeWord_word v⟩

theorem takePadded (n : Nat) : Framed (takePadded n) where
  takes {bs v rest} h := by
    rw [XdrLanguage.takePadded] at h
    split at h
    · rename_i hle
      obtain ⟨rfl, rfl⟩ := Prod.mk.inj (Option.some.inj h)
      obtain ⟨front, back, rfl, hlen⟩ : ∃ front back, bs = front ++ back ∧
          front.length = n + padding n :=
        ⟨_, _, (List.take_append_drop (n + padding n) bs).symm, List.length_take_of_le hle⟩
      have htake (tail : List UInt8) : (front ++ tail).take n = front.take n :=
        List.take_append_of_le_length (by omega)
      have hdrop (tail : List UInt8) : (front ++ tail).drop (n + padding n) = tail := by
        rw [← hlen, List.drop_left]
      refine ⟨front, by rw [hdrop], hlen ▸ padding_dvd n, fun rest' => ?_⟩
      rw [XdrLanguage.takePadded, dif_pos (by rw [List.length_append]; omega), hdrop]
      exact congrArg some (Prod.ext (Subtype.ext ((htake rest').trans (htake back).symm)) rfl)
    · cases h

theorem takeCounted (max : UInt32) : Framed (takeCounted max) := by
  refine bind takeWord fun n => ?_
  split
  · exact (takePadded _).map _
  · exact fail

/-- What was cut off is not read as something else. -/
theorem truncated (hd : Framed d) {front back : List UInt8} {v : α}
    (h : d (front ++ back) = some (v, [])) (hback : back ≠ []) : d front = none := by
  cases hfront : d front with
  | none => rfl
  | some x =>
      obtain ⟨w, rest⟩ := x
      obtain ⟨taken, rfl, -, hread⟩ := hd.takes hfront
      rw [List.append_assoc, hread] at h
      obtain ⟨-, hnil⟩ := Prod.mk.inj (Option.some.inj h)
      exact absurd (List.append_eq_nil_iff.mp hnil).2 hback

end Framed

theorem framed_decode (t : Ty) : Framed (decode t) := by
  induction t with
  | void => exact Framed.pure ()
  | unsignedInt => exact Framed.takeWord
  | int | unsignedShort | char | unsignedChar | bool | enum => exact Framed.takeWord.map _
  | bytes max => exact Framed.takeCounted max
  | string max => exact (Framed.takeCounted max).map _
  | seq first rest ihFirst ihRest => exact ihFirst.bind fun a => ihRest.map _

theorem encode_injective (t : Ty) : Function.Injective (encode t) := by
  intro v w h
  have hv := decode_encode t v []
  rw [h, decode_encode t w []] at hv
  exact (Prod.mk.inj (Option.some.inj hv)).1.symm

end LibLxi.XdrLanguage

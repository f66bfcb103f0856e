import LibLxi.XdrRules

namespace LibLxi.XdrMemory

open Xdr XdrLanguage XdrRules

variable {α β : Type}

/-- What a finished call may leave allocated: the blocks of its object, unless the
caller had set the pointers, or one block where it failed and the library keeps it. -/
def Kept (s : Xdr.Stream) (owned : α → Int) (n : Int) : Option α → Prop
  | some a => n = if s.preset = true then 0 else owned a
  | none => n = 0 ∨ n = 1 ∧ s.preset = false ∧ s.releases = false

/-- Decoding leaves the blocks of its object allocated and no others. -/
structure Owns (m : Routine α) (owned : α → Int) : Prop where
  run : ∀ {s : Stream}, s.op = .decode → ∃ o t n, m.run s = (o, t) ∧ t.op = .decode ∧
    t.preset = s.preset ∧ t.releases = s.releases ∧ Kept s owned n o ∧ t.blocks = s.blocks + n

structure Skips (m : Routine α) (a : α) : Prop where
  run : ∀ {s : Stream}, s.op = .free → m.run s = (some a, s)

/-- Freeing gives that many blocks back, and does not fail. -/
structure Frees (m : Routine α) (n : Int) : Prop where
  run : ∀ {s : Stream}, s.op = .free → ∃ a, m.run s = (some a, { s with blocks := s.blocks - n })

abbrev nothing : α → Int := fun _ => 0

section Kept

variable {s t : Xdr.Stream} {owned : α → Int} {n : Int}

theorem kept_nothing (s : Xdr.Stream) (o : Option α) : Kept s nothing 0 o := by
  cases o with
  | none => exact .inl rfl
  | some a => exact (ite_self 0).symm

theorem kept_some (s : Xdr.Stream) {a : α} (h : owned a = 0) : Kept s owned 0 (some a) := by
  rw [Kept, h, ite_self]

theorem Kept.congr {o : Option α} (h : Kept t owned n o) (hpreset : t.preset = s.preset)
    (hreleases : t.releases = s.releases) : Kept s owned n o := by
  cases o with
  | none =>
      rw [Kept, ← hpreset, ← hreleases]
      exact h
  | some a =>
      rw [Kept, ← hpreset]
      exact h

theorem Kept.map {owned' : β → Int} {f : α → β} {o : Option α} (h : Kept s owned n o)
    (hf : ∀ a, owned' (f a) = owned a) : Kept s owned' n (o.map f) := by
  cases o with
  | none => exact h
  | some a =>
      rw [Option.map_some, Kept, hf]
      exact h

theorem Kept.none_eq (h : Kept s owned n none) (hreleases : s.preset = true ∨ s.releases = true) :
    n = 0 := by
  rcases h with h | ⟨-, hpreset, hkeeps⟩
  · exact h
  · rw [hpreset, hkeeps] at hreleases
    rcases hreleases with h | h <;> cases h

end Kept

section Owns

theorem Owns.quiet {m : Routine α} (h : ∀ s : Stream, ∃ o t, m.run s = (o, t) ∧ t.op = s.op ∧
    t.preset = s.preset ∧ t.releases = s.releases ∧ t.blocks = s.blocks) : Owns m nothing where
  run {s} hop := by
    obtain ⟨o, t, hrun, hop', hpreset, hreleases, hblocks⟩ := h s
    exact ⟨o, t, 0, hrun, hop'.trans hop, hpreset, hreleases, kept_nothing s o,
      by rw [Int.add_zero, hblocks]⟩

theorem Owns.pure {a : α} {owned : α → Int} (h : owned a = 0) : Owns (Pure.pure a) owned where
  run {s} hop := ⟨some a, s, 0, rfl, hop, rfl, rfl, kept_some s h, (Int.add_zero _).symm⟩

theorem Owns.fail {owned : α → Int} : Owns (fail : Routine α) owned where
  run {s} hop := ⟨none, s, 0, rfl, hop, rfl, rfl, .inl rfl, (Int.add_zero _).symm⟩

theorem Owns.get (d : Decoder α) : Owns (get d) nothing := by
  refine .quiet fun s => ?_
  cases h : d s.bytes with
  | none => exact ⟨none, s, by simp only [Xdr.get, h], rfl, rfl, rfl, rfl⟩
  | some x =>
      exact ⟨some x.1, { s with bytes := x.2 }, by simp only [Xdr.get, h], rfl, rfl, rfl, rfl⟩

theorem Owns.xdrInline (len : Nat) : Owns (xdrInline len) nothing := by
  refine .quiet fun s => ?_
  by_cases h : s.inline = true ∧ (s.op = .decode → len ≤ s.bytes.length)
  · exact ⟨some true, _, if_pos h, rfl, rfl, rfl, rfl⟩
  · exact ⟨some false, s, if_neg h, rfl, rfl, rfl, rfl⟩

theorem Owns.ixdrGet : Owns ixdrGet nothing := by
  refine .quiet fun s => ?_
  cases hw : s.window with
  | zero => exact ⟨none, s, by simp only [Xdr.ixdrGet, hw], rfl, rfl, rfl, rfl⟩
  | succ n =>
      cases h : takeWord s.bytes with
      | none => exact ⟨none, s, by simp only [Xdr.ixdrGet, hw, h], rfl, rfl, rfl, rfl⟩
      | some x =>
          exact ⟨some x.1, { s with bytes := x.2, window := n }, by simp only [Xdr.ixdrGet, hw, h], rfl,
            rfl, rfl, rfl⟩

/-- Only the last part of a routine owns anything. -/
theorem Owns.bind {m : Routine α} {k : α → Routine β} {owned : β → Int} (hm : Owns m nothing)
    (hk : ∀ a, Owns (k a) owned) : Owns (m >>= k) owned where
  run {s} hop := by
    obtain ⟨o, t, n, hrun, hop', hpreset, hreleases, hkept, hblocks⟩ := hm.run hop
    cases o with
    | none =>
        refine ⟨none, t, n, ?_, hop', hpreset, hreleases, hkept, hblocks⟩
        rw [run_bind, hrun]
    | some a =>
        obtain rfl : n = 0 := hkept.trans (ite_self 0)
        obtain ⟨o, u, n, hrest, hop, hpreset', hreleases', hkept, hblocks'⟩ := (hk a).run hop'
        rw [hblocks, Int.add_zero] at hblocks'
        exact ⟨o, u, n, by rw [bind_some hrun, hrest], hop, hpreset'.trans hpreset,
          hreleases'.trans hreleases, hkept.congr hpreset hreleases, hblocks'⟩

theorem Owns.map {m : Routine α} {f : α → β} {owned : α → Int} {owned' : β → Int}
    (hm : Owns m owned) (h : ∀ a, owned' (f a) = owned a) :
    Owns (m >>= fun a => Pure.pure (f a)) owned' where
  run {s} hop := by
    obtain ⟨o, t, n, hrun, hop', hpreset, hreleases, hkept, hblocks⟩ := hm.run hop
    refine ⟨o.map f, t, n, ?_, hop', hpreset, hreleases, hkept.map h, hblocks⟩
    rw [run_bind, hrun]
    cases o <;> rfl

theorem Owns.byOp {e d f : Routine α} {owned : α → Int} (hd : Owns d owned) :
    Owns (byOp e d f) owned where
  run hop := by
    rw [byOp_decode hop]
    exact hd.run hop

theorem Owns.inlineOr {n : Nat} {buffer plain : Routine α} (hbuffer : Owns buffer nothing)
    (hplain : Owns plain nothing) : Owns (inlineOr n buffer plain) nothing := by
  refine .bind (.xdrInline _) fun handed => ?_
  cases handed with
  | false => exact hplain
  | true => exact hbuffer

theorem Owns.unit {toWord : α → UInt32} {ofWord : UInt32 → α} (x : α) :
    Owns (xdrUnit toWord ofWord x) nothing :=
  .byOp (.get _)

theorem orRelease_some {m : Routine α} {s t : Xdr.Stream} {a : α} (h : m.run s = (some a, t)) :
    (orRelease m).run s = (some a, t) := by
  simp only [orRelease, h]

theorem orRelease_none {m : Routine α} {s t : Xdr.Stream} (h : m.run s = (none, t)) :
    (orRelease m).run s =
      (none, if t.preset = false ∧ t.releases = true then { t with blocks := t.blocks - 1 } else t) := by
  simp only [orRelease, h]

/-- The block taken for a decoded pointer stays with the object. Where the rest fails
it goes back, or is left. -/
theorem Owns.pointer {d : Decoder α} {owned : α → Int}
    (h : ∀ {bs a rest}, d bs = some (a, rest) → owned a = 1) :
    Owns (do allocate; orRelease (Xdr.get d)) owned where
  run {s} hop := by
    let t := if s.preset = true then s else { s with blocks := s.blocks + 1 }
    have hrun : (do allocate; orRelease (Xdr.get d) : Routine α).run s =
      (orRelease (Xdr.get d)).run t := rfl
    have ht : t.op = s.op ∧ t.preset = s.preset ∧ t.releases = s.releases ∧ t.bytes = s.bytes ∧
        t.blocks = s.blocks + if s.preset = true then 0 else 1 := by
      cases hs : s.preset <;> simp [t, hs]
    obtain ⟨htop, htpreset, htreleases, htbytes, htblocks⟩ := ht
    rw [hrun]
    cases hd : d s.bytes with
    | none =>
        have hfails : (Xdr.get d).run t = (none, t) := by simp only [Xdr.get, htbytes, hd]
        rw [orRelease_none hfails]
        cases hs : s.preset with
        | true =>
            refine ⟨none, t, 0, ?_, htop.trans hop, htpreset.trans hs, htreleases, .inl rfl, ?_⟩
            · simp [htpreset, hs]
            · simp [htblocks, hs]
        | false =>
            cases hl : s.releases with
            | true =>
                refine ⟨none, { t with blocks := t.blocks - 1 }, 0, ?_, htop.trans hop,
                  htpreset.trans hs, htreleases.trans hl, .inl rfl, ?_⟩
                · simp [htpreset, htreleases, hs, hl]
                · simp [htblocks, hs]
            | false =>
                refine ⟨none, t, 1, ?_, htop.trans hop, htpreset.trans hs, htreleases.trans hl,
                  .inr ⟨rfl, hs, hl⟩, ?_⟩
                · simp [htreleases, hl]
                · simp [htblocks, hs]
    | some x =>
        refine ⟨some x.1, { t with bytes := x.2 }, if s.preset = true then 0 else 1, ?_,
          htop.trans hop, htpreset, htreleases, ?_, htblocks⟩
        · exact orRelease_some (by simp only [Xdr.get, htbytes, hd])
        · rw [Kept, h hd]

end Owns

section Frees

variable {m : Routine α} {a : α} {k : α → Routine β} {n : Int}

theorem Skips.pure (a : α) : Skips (Pure.pure a) a where
  run _ := rfl

theorem Skips.unit {toWord : α → UInt32} {ofWord : UInt32 → α} (x : α) :
    Skips (xdrUnit toWord ofWord x) x where
  run hop := byOp_free hop

theorem Skips.bind {b : β} (hm : Skips m a) (hk : Skips (k a) b) : Skips (m >>= k) b where
  run hop := by rw [bind_some (hm.run hop), hk.run hop]

theorem Skips.frees (h : Skips m a) : Frees m 0 where
  run {s} hop := ⟨a, by rw [h.run hop, Int.sub_zero]⟩

theorem Frees.bind (hm : Skips m a) (hk : Frees (k a) n) : Frees (m >>= k) n where
  run hop := by
    obtain ⟨b, hrun⟩ := hk.run hop
    exact ⟨b, by rw [bind_some (hm.run hop), hrun]⟩

theorem Frees.map {f : α → β} (hm : Frees m n) : Frees (m >>= fun a => Pure.pure (f a)) n where
  run hop := by
    obtain ⟨a, hrun⟩ := hm.run hop
    exact ⟨f a, by rw [bind_some hrun]; rfl⟩

theorem Frees.byOp {e d f : Routine α} (hf : Frees f n) : Frees (byOp e d f) n where
  run hop := by
    rw [byOp_free hop]
    exact hf.run hop

theorem Frees.release (a : α) : Frees (do release; return a) 1 where
  run _ := ⟨a, rfl⟩

end Frees

def bytesBlocks (v : Bytes) : Int := if v.bytes = [] then 0 else 1

theorem Owns.bytes (max : UInt32) (v : Bytes) : Owns (xdrBytes max v) bytesBlocks := by
  refine .byOp (.bind (.get _) fun n => ?_)
  split
  · split
    · exact .pure rfl
    · rename_i hle hne
      refine .pointer fun {bs a rest} h => ?_
      obtain ⟨⟨v, hlen⟩, -, heq⟩ := Decoder.map_eq_some h
      have hsome : n.toNat ≠ 0 := fun h0 => hne (UInt32.toNat_inj.mp h0)
      cases heq
      exact if_neg fun hnil => hsome (by rw [← hlen]; exact congrArg List.length hnil)
  · exact .fail

theorem Frees.bytes (max : UInt32) (v : Bytes) : Frees (xdrBytes max v) (bytesBlocks v) := by
  refine .byOp ?_
  rw [bytesBlocks]
  split
  · exact (Skips.pure v).frees
  · exact .release noBytes

theorem Owns.string (max : UInt32) (v : Text) : Owns (xdrString max v) fun _ => 1 := by
  refine .byOp (.bind (.get _) fun n => ?_)
  split
  · exact .pointer fun _ => rfl
  · exact .fail

theorem Frees.string (max : UInt32) (v : Text) : Frees (xdrString max v) 1 :=
  .byOp (.release v)

end LibLxi.XdrMemory

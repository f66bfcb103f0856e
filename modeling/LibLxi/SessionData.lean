import LibLxi.SessionInvariant

namespace LibLxi.SessionData

open Lxi SessionInvariant

variable {σ X : Type}

/-- The handle i is a live session of the backend with x in its data block. -/
def Holding (backend : Backend) (data : σ → Block → X) (s : State σ) (i : Nat) (x : X) : Prop :=
  ∃ b, Live s i ⟨backend, b⟩ ∧ data s.world b = x

variable {backend : Backend} {data : σ → Block → X} {s t : State σ} {i j : Nat} {x y : X}
variable {c : Conn} {w : σ}

theorem Holding.unique (h : Holding backend data s i x) (h' : Holding backend data s i y) :
    y = x := by
  obtain ⟨b, hb, rfl⟩ := h
  obtain ⟨d, hd, rfl⟩ := h'
  cases hb.unique hd
  rfl

theorem holding_congr (hlive : ∀ b, Live t i ⟨backend, b⟩ ↔ Live s i ⟨backend, b⟩)
    (hdata : ∀ b, Live s i ⟨backend, b⟩ → data t.world b = data s.world b) (x : X) :
    Holding backend data t i x ↔ Holding backend data s i x := by
  apply exists_congr
  intro b
  rw [hlive]
  exact and_congr_right fun hb => by rw [hdata b hb]

theorem holding_connectFailed (hs : WellFormed s) (hfree : (s.session j).allocated = false)
    (hw : ∀ b, b ≠ s.nextBlock → data w b = data s.world b) (i : Nat) (x : X) :
    Holding backend data (connectFailed s j c w) i x ↔ Holding backend data s i x := by
  apply holding_congr
  · exact fun b => live_connectFailed hfree
  · exact fun b hb => hw b (hs.fresh hb)

theorem holding_connectDone (hs : WellFormed s) (hj : j < sessionsMax)
    (hfree : (s.session j).allocated = false)
    (hw : ∀ b, b ≠ s.nextBlock → data w b = data s.world b) (i : Nat) (x : X) :
    Holding backend data (connectDone s j ⟨backend, s.nextBlock⟩ w) i x ↔
      i = j ∧ x = data w s.nextBlock ∨ Holding backend data s i x := by
  constructor
  · rintro ⟨b, hb, rfl⟩
    rcases (live_connectDone hj hfree).mp hb with ⟨rfl, hc⟩ | hb
    · cases hc
      exact .inl ⟨rfl, rfl⟩
    · exact .inr ⟨b, hb, (hw b (hs.fresh hb)).symm⟩
  · rintro (⟨rfl, rfl⟩ | ⟨b, hb, rfl⟩)
    · exact ⟨_, (live_connectDone hj hfree).mpr (.inl ⟨rfl, rfl⟩), rfl⟩
    · exact ⟨b, (live_connectDone hj hfree).mpr (.inr hb), hw b (hs.fresh hb)⟩

theorem holding_connectDone_other (hs : WellFormed s) (hj : j < sessionsMax)
    (hfree : (s.session j).allocated = false) (hc : c.backend ≠ backend)
    (hw : ∀ b, b ≠ s.nextBlock → data w b = data s.world b) (i : Nat) (x : X) :
    Holding backend data (connectDone s j c w) i x ↔ Holding backend data s i x := by
  apply holding_congr
  · intro b
    rw [live_connectDone hj hfree]
    apply or_iff_right
    rintro ⟨-, rfl⟩
    exact hc rfl
  · exact fun b hb => hw b (hs.fresh hb)

theorem holding_connect (hs : WellFormed s) (hi : freeSession s.session = some j)
    {other : Backend} {n r : Int}
    (h : n ≠ 0 ∧ r = lxiError ∧ t = connectFailed s j ⟨other, s.nextBlock⟩ w ∨
      n = 0 ∧ r = j ∧ t = connectDone s j ⟨other, s.nextBlock⟩ w)
    (hw : ∀ b, b ≠ s.nextBlock → data w b = data s.world b) (i : Nat) (x : X) :
    Holding backend data t i x ↔
      n = 0 ∧ other = backend ∧ i = j ∧ x = data w s.nextBlock ∨ Holding backend data s i x := by
  obtain ⟨hlt, hfree, -⟩ := freeSession_some.mp hi
  rcases h with ⟨hn, -, rfl⟩ | ⟨hn, -, rfl⟩
  · rw [holding_connectFailed hs hfree hw]
    exact (or_iff_right fun h => hn h.1).symm
  · by_cases hb : other = backend
    · subst hb
      rw [holding_connectDone hs hlt hfree hw]
      simp [hn]
    · rw [holding_connectDone_other hs hlt hfree hb hw]
      exact (or_iff_right fun h => hb h.2.1).symm

theorem holding_called {op : Operation} (hw : data w = data s.world) (i : Nat) (x : X) :
    Holding backend data (called s op c w) i x ↔ Holding backend data s i x := by
  apply holding_congr
  · exact fun _ => Iff.rfl
  · exact fun b _ => congrFun hw b

theorem holding_disconnectDone (hw : data w = data s.world) (i : Nat) (x : X) :
    Holding backend data (disconnectDone s j c w) i x ↔ i ≠ j ∧ Holding backend data s i x := by
  by_cases hi : i = j
  · subst i
    refine iff_of_false ?_ fun h => h.1 rfl
    rintro ⟨b, hb, -⟩
    exact (live_disconnectDone.mp hb).1 rfl
  · rw [and_iff_right hi]
    apply holding_congr
    · intro b
      rw [live_disconnectDone, and_iff_right hi]
    · exact fun b _ => congrFun hw b

theorem holding_disconnectDone_other (hc : Live s j c) (hne : c.backend ≠ backend)
    (hw : data w = data s.world) (i : Nat) (x : X) :
    Holding backend data (disconnectDone s j c w) i x ↔ Holding backend data s i x := by
  rw [holding_disconnectDone hw, and_iff_right_iff_imp]
  rintro ⟨b, hb, -⟩ rfl
  cases hc.unique hb
  exact hne rfl

end LibLxi.SessionData

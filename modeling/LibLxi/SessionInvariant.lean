import LibLxi.Lxi

namespace LibLxi.SessionInvariant

open Lxi Platform

variable {σ : Type}

structure Conn where
  backend : Backend
  block : Block
  deriving DecidableEq, Repr

def Conn.entry (c : Conn) : Session where
  allocated := true
  connected := true
  data := some c.block
  connect := some c.backend
  disconnect := some c.backend
  send := some c.backend
  receive := some c.backend

theorem Conn.entry_injective : Function.Injective Conn.entry := by
  intro c d h
  cases c
  cases d
  simpa [Conn.entry, and_comm] using h

def protocols : List (Protocol × Backend) := [(.vxi11, .vxi11), (.raw, .tcp)]

def spoken (protocol : Protocol) : Option Backend := protocols.lookup protocol

@[simp] theorem spoken_vxi11 : spoken .vxi11 = some .vxi11 := rfl

@[simp] theorem spoken_raw : spoken .raw = some .tcp := rfl

theorem backendOf_eq_spoken (protocol : Protocol) : backendOf protocol = spoken protocol := by
  cases protocol <;> rfl

theorem backendOf_tcp_iff {protocol : Protocol} :
    backendOf protocol = some .tcp ↔ protocol = .raw := by
  cases protocol <;> simp [backendOf]

def Live (s : State σ) (i : Nat) (c : Conn) : Prop := i < sessionsMax ∧ s.session i = c.entry

def UsesLive : List Event → Prop
  | [] => True
  | .call _ _ (some b) :: log => .free (some b) ∉ log ∧ UsesLive log
  | _ :: log => UsesLive log

@[simp] theorem usesLive_nil : UsesLive [] := trivial

@[simp] theorem usesLive_call {op : Operation} {fn : FnPtr} {b : Block} {log : List Event} :
    UsesLive (.call op fn (some b) :: log) ↔ .free (some b) ∉ log ∧ UsesLive log := Iff.rfl

@[simp] theorem usesLive_malloc {b : Block} {log : List Event} :
    UsesLive (.malloc b :: log) ↔ UsesLive log := Iff.rfl

@[simp] theorem usesLive_free {p : DataPtr} {log : List Event} :
    UsesLive (.free p :: log) ↔ UsesLive log := Iff.rfl

@[simp] theorem usesLive_error {m : Message} {log : List Event} :
    UsesLive (.error m :: log) ↔ UsesLive log := Iff.rfl

def freed (s : State σ) (b : Block) : Nat := s.log.count (.free (some b))

/-- The invariant of the session table and the heap. The last three fields
account for every block: a live one is not freed, a block that malloc returned
and no live entry holds is freed once, and no other block was ever freed. -/
structure WellFormed (s : State σ) : Prop where
  free_entry : ∀ i < sessionsMax, (s.session i).allocated = false → (s.session i).connected = false
  live_entry : ∀ i < sessionsMax, (s.session i).allocated = true → ∃ c, Live s i c
  distinct : ∀ {i j c d}, Live s i c → Live s j d → c.block = d.block → i = j
  usesLive : UsesLive s.log
  live_block : ∀ {i c}, Live s i c → c.block < s.nextBlock ∧ freed s c.block = 0
  dead_block : ∀ b < s.nextBlock, (∀ i c, Live s i c → c.block ≠ b) → freed s b = 1
  fresh_block : ∀ b, s.nextBlock ≤ b → freed s b = 0

theorem not_freed {s : State σ} {b : Block} (h : freed s b = 0) : .free (some b) ∉ s.log :=
  List.count_eq_zero.mp h

theorem Live.allocated {s : State σ} {i : Nat} {c : Conn} (h : Live s i c) :
    (s.session i).allocated = true := by
  rw [h.2, Conn.entry]

theorem Live.unique {s : State σ} {i : Nat} {c d : Conn} (hc : Live s i c) (hd : Live s i d) :
    c = d :=
  Conn.entry_injective (hc.2.symm.trans hd.2)

theorem Live.isValidSession {s : State σ} {i : Nat} {c : Conn} (h : Live s i c) :
    isValidSession s.session i = true := by
  have hlt : ¬ (i : Int) > sessionsMax := by have := h.1; omega
  simp [Lxi.isValidSession, hlt, h.allocated]

theorem isValidSession_iff {s : State σ} (hs : WellFormed s) {device : Int}
    (hd : device ≠ sessionsMax) :
    isValidSession s.session device = true ↔ 0 ≤ device ∧ ∃ c, Live s device.toNat c := by
  constructor
  · intro h
    rw [Lxi.isValidSession] at h
    split at h
    · simp at h
    · split at h
      · simp at h
      · refine ⟨by omega, hs.live_entry _ (by omega) ?_⟩
        cases ha : (s.session device.toNat).allocated with
        | true => rfl
        | false => simp [ha] at h
  · rintro ⟨h0, c, hc⟩
    have h := hc.isValidSession
    rwa [Int.toNat_of_nonneg h0] at h

theorem freeSession_some {session : Nat → Session} {i : Nat} :
    freeSession session = some i ↔
      i < sessionsMax ∧ (session i).allocated = false ∧
        ∀ j < i, (session j).allocated = true := by
  simp only [freeSession, List.find?_range_eq_some, decide_eq_true_eq, List.mem_range,
    Bool.not_eq_true', decide_eq_false_iff_not, Bool.not_eq_false]
  tauto

theorem freeSession_none {session : Nat → Session} :
    freeSession session = none ↔ ∀ i < sessionsMax, (session i).allocated = true := by
  simp [freeSession]

def connectFailed (s : State σ) (i : Nat) (c : Conn) (w : σ) : State σ where
  session := Function.update s.session i
    { c.entry with allocated := (s.session i).allocated, connected := (s.session i).connected }
  nextBlock := s.nextBlock + 1
  log := .free (some c.block) :: .call .connect (some c.backend) (some c.block) ::
    .malloc c.block :: s.log
  world := w

def connectDone (s : State σ) (i : Nat) (c : Conn) (w : σ) : State σ where
  session := Function.update s.session i c.entry
  nextBlock := s.nextBlock + 1
  log := .call .connect (some c.backend) (some c.block) :: .malloc c.block :: s.log
  world := w

theorem lxiConnect_full {connect : Effect σ} {protocol : Protocol} {s : State σ}
    (hi : freeSession s.session = none) :
    lxiConnect connect protocol s =
      some (lxiError, s.emit (.error (.text "Too many active sessions!\n"))) := by
  -- simp would run the search over the table
  unfold lxiConnect
  rw [hi]

theorem lxiConnect_unsupported {connect : Effect σ} {protocol : Protocol} {s : State σ} {i : Nat}
    (hi : freeSession s.session = some i) (hb : backendOf protocol = none) :
    lxiConnect connect protocol s = some (lxiError, s) := by
  unfold lxiConnect
  rw [hi]
  simp only [hb]

theorem lxiConnect_supported {connect : Effect σ} {protocol : Protocol} {s : State σ} {i : Nat}
    {backend : Backend} (hi : freeSession s.session = some i)
    (hb : backendOf protocol = some backend) :
    lxiConnect connect protocol s =
      (connect (some backend) (some s.nextBlock) s.world).map fun x =>
        if x.1 = 0 then ((i : Int), connectDone s i ⟨backend, s.nextBlock⟩ x.2)
        else (lxiError, connectFailed s i ⟨backend, s.nextBlock⟩ x.2) := by
  unfold lxiConnect
  rw [hi]
  simp only [hb, connectSession, setUp, State.malloc, State.setSession, State.invoke,
    Function.update_self, Option.map_map]
  apply congrArg (Option.map · _)
  funext x
  by_cases h0 : x.1 = 0
  · simp [h0, connectDone, markConnected, State.setSession, Conn.entry]
  · simp [h0, connectFailed, State.emit, Conn.entry]

/-- Everything lxi_connect can do. -/
theorem lxiConnect_cases {connect : Effect σ} {protocol : Protocol} {s s' : State σ} {r : Int}
    (h : lxiConnect connect protocol s = some (r, s')) :
    (freeSession s.session = none ∧ r = lxiError ∧
      s' = s.emit (.error (.text "Too many active sessions!\n"))) ∨
    (∃ i, freeSession s.session = some i ∧ backendOf protocol = none ∧ r = lxiError ∧ s' = s) ∨
    (∃ i backend n w, freeSession s.session = some i ∧ backendOf protocol = some backend ∧
      connect (some backend) (some s.nextBlock) s.world = some (n, w) ∧
      (n ≠ 0 ∧ r = lxiError ∧ s' = connectFailed s i ⟨backend, s.nextBlock⟩ w ∨
        n = 0 ∧ r = i ∧ s' = connectDone s i ⟨backend, s.nextBlock⟩ w)) := by
  cases hi : freeSession s.session with
  | none =>
      rw [lxiConnect_full hi, Option.some.injEq, Prod.mk.injEq] at h
      exact .inl ⟨rfl, h.1.symm, h.2.symm⟩
  | some i =>
      cases hb : backendOf protocol with
      | none =>
          rw [lxiConnect_unsupported hi hb, Option.some.injEq, Prod.mk.injEq] at h
          exact .inr (.inl ⟨i, rfl, rfl, h.1.symm, h.2.symm⟩)
      | some backend =>
          rw [lxiConnect_supported hi hb, Option.map_eq_some_iff] at h
          obtain ⟨⟨n, w⟩, hn, h⟩ := h
          refine .inr (.inr ⟨i, backend, n, w, rfl, rfl, hn, ?_⟩)
          by_cases h0 : n = 0
          · rw [if_pos h0, Prod.mk.injEq] at h
            exact .inr ⟨h0, h.1.symm, h.2.symm⟩
          · rw [if_neg h0, Prod.mk.injEq] at h
            exact .inl ⟨h0, h.1.symm, h.2.symm⟩

def disconnectDone (s : State σ) (i : Nat) (c : Conn) (w : σ) : State σ where
  session := Function.update s.session i { c.entry with allocated := false, connected := false }
  nextBlock := s.nextBlock
  log := .free (some c.block) :: .call .disconnect (some c.backend) (some c.block) :: s.log
  world := w

def called (s : State σ) (op : Operation) (c : Conn) (w : σ) : State σ :=
  { s with log := .call op (some c.backend) (some c.block) :: s.log, world := w }

theorem disconnectSection_live {disconnect : Effect σ} {s : State σ} {i : Nat} {c : Conn}
    (h : Live s i c) :
    disconnectSection disconnect s i =
      (disconnect (some c.backend) (some c.block) s.world).map fun x =>
        (lxiOk, disconnectDone s i c x.2) := by
  simp only [disconnectSection, h.2, Conn.entry, if_true, State.invoke, Option.map_map]
  apply congrArg (Option.map · _)
  funext x
  simp [disconnectDone, markFree, State.emit, State.setSession, h.2, Conn.entry]

theorem lxiDisconnect_live {disconnect : Effect σ} {s : State σ} {i : Nat} {c : Conn}
    (h : Live s i c) :
    lxiDisconnect disconnect i s =
      (disconnect (some c.backend) (some c.block) s.world).map fun x =>
        (lxiOk, disconnectDone s i c x.2) := by
  rw [lxiDisconnect, if_neg (by simp [h.isValidSession]), Int.toNat_natCast,
    disconnectSection_live h]

theorem lxiSend_live {send : Effect σ} {s : State σ} {i : Nat} {c : Conn} (h : Live s i c) :
    lxiSend send i s =
      (send (some c.backend) (some c.block) s.world).map fun x =>
        (transferResult x.1, called s .send c x.2) := by
  rw [lxiSend, if_neg (by simp [h.isValidSession]), Int.toNat_natCast, h.2]
  simp only [Conn.entry, State.invoke, Option.map_map]
  rfl

theorem lxiReceive_live {receive : Effect σ} {s : State σ} {i : Nat} {c : Conn} (h : Live s i c) :
    lxiReceive receive i s =
      (receive (some c.backend) (some c.block) s.world).map fun x =>
        (transferResult x.1, called s .receive c x.2) := by
  rw [lxiReceive, if_neg (by simp [h.isValidSession]), Int.toNat_natCast, h.2]
  simp only [Conn.entry, State.invoke, Option.map_map]
  rfl

theorem lxiDisconnect_invalid {disconnect : Effect σ} {s : State σ} {device : Int}
    (h : isValidSession s.session device = false) :
    lxiDisconnect disconnect device s = some (lxiError, s) := if_pos h

theorem lxiSend_invalid {send : Effect σ} {s : State σ} {device : Int}
    (h : isValidSession s.session device = false) :
    lxiSend send device s = some (lxiError, s) := if_pos h

theorem lxiReceive_invalid {receive : Effect σ} {s : State σ} {device : Int}
    (h : isValidSession s.session device = false) :
    lxiReceive receive device s = some (lxiError, s) := if_pos h

section Preservation

variable {s : State σ} {i j : Nat} {c d : Conn} {w : σ}

theorem not_live_of_free (hfree : (s.session i).allocated = false) : ¬ Live s i c := fun h => by
  rw [h.allocated] at hfree
  cases hfree

theorem live_congr {s' : State σ} (h : s'.session j = s.session j) : Live s' j d ↔ Live s j d := by
  rw [Live, Live, h]

theorem live_connectFailed (hfree : (s.session i).allocated = false) :
    Live (connectFailed s i c w) j d ↔ Live s j d := by
  by_cases hj : j = i
  · subst j
    refine iff_of_false (not_live_of_free ?_) (not_live_of_free hfree)
    simpa [connectFailed] using hfree
  · exact live_congr (Function.update_of_ne hj _ _)

theorem live_connectDone (hi : i < sessionsMax) (hfree : (s.session i).allocated = false) :
    Live (connectDone s i c w) j d ↔ j = i ∧ d = c ∨ Live s j d := by
  by_cases hj : j = i
  · subst j
    simp only [not_live_of_free hfree, or_false, true_and]
    simp [Live, connectDone, hi, Conn.entry_injective.eq_iff, eq_comm]
  · simpa only [hj, false_and, false_or] using live_congr (Function.update_of_ne hj _ _)

theorem live_disconnectDone : Live (disconnectDone s i c w) j d ↔ j ≠ i ∧ Live s j d := by
  by_cases hj : j = i
  · subst j
    exact iff_of_false (not_live_of_free (by simp [disconnectDone])) (by simp)
  · simpa only [ne_eq, hj, not_false_eq_true, true_and] using
      live_congr (Function.update_of_ne hj _ _)

@[simp] theorem freed_called (op : Operation) (b : Block) :
    freed (called s op c w) b = freed s b := by
  simp [freed, called]

theorem freed_connectFailed (b : Block) :
    freed (connectFailed s i c w) b = freed s b + if c.block = b then 1 else 0 := by
  simp [freed, connectFailed, List.count_cons]

@[simp] theorem freed_connectDone (b : Block) : freed (connectDone s i c w) b = freed s b := by
  simp [freed, connectDone]

theorem freed_disconnectDone (b : Block) :
    freed (disconnectDone s i c w) b = freed s b + if c.block = b then 1 else 0 := by
  simp [freed, disconnectDone, List.count_cons]

theorem WellFormed.called (hs : WellFormed s) (h : Live s i c) (op : Operation) :
    WellFormed (called s op c w) where
  free_entry := hs.free_entry
  live_entry := hs.live_entry
  distinct := hs.distinct
  usesLive := usesLive_call.mpr ⟨not_freed (hs.live_block h).2, hs.usesLive⟩
  live_block hd := by
    rw [freed_called]
    exact hs.live_block hd
  dead_block b hb hdead := (freed_called op b).trans (hs.dead_block b hb hdead)
  fresh_block b hb := (freed_called op b).trans (hs.fresh_block b hb)

theorem WellFormed.emit_error (hs : WellFormed s) (m : Message) :
    WellFormed (s.emit (.error m)) := by
  have hfreed (b : Block) : freed (s.emit (.error m)) b = freed s b := by simp [freed, State.emit]
  exact {
    free_entry := hs.free_entry
    live_entry := hs.live_entry
    distinct := hs.distinct
    usesLive := usesLive_error.mpr hs.usesLive
    live_block hd := (hfreed _).symm ▸ hs.live_block hd
    dead_block b hb hdead := (hfreed b).trans (hs.dead_block b hb hdead)
    fresh_block b hb := (hfreed b).trans (hs.fresh_block b hb) }

theorem WellFormed.fresh (hs : WellFormed s) (h : Live s j d) : d.block ≠ s.nextBlock :=
  Nat.ne_of_lt (hs.live_block h).1

theorem WellFormed.connectFailed (hs : WellFormed s) (hfree : (s.session i).allocated = false)
    (hc : c.block = s.nextBlock) : WellFormed (connectFailed s i c w) where
  free_entry j hj ha := by
    by_cases hji : j = i
    · subst j
      simpa [SessionInvariant.connectFailed] using hs.free_entry i hj hfree
    · simp only [SessionInvariant.connectFailed, Function.update_of_ne hji] at ha ⊢
      exact hs.free_entry j hj ha
  live_entry j hj ha := by
    simp only [live_connectFailed hfree]
    refine hs.live_entry j hj ?_
    by_cases hji : j = i
    · subst j
      simpa [SessionInvariant.connectFailed] using ha
    · simpa [SessionInvariant.connectFailed, Function.update_of_ne hji] using ha
  distinct hj hk := hs.distinct ((live_connectFailed hfree).mp hj) ((live_connectFailed hfree).mp hk)
  usesLive := by
    simpa [SessionInvariant.connectFailed, hc] using
      ⟨not_freed (hs.fresh_block _ le_rfl), hs.usesLive⟩
  live_block {j d} hd := by
    rw [live_connectFailed hfree] at hd
    obtain ⟨hlt, hzero⟩ := hs.live_block hd
    exact ⟨Nat.lt_succ_of_lt hlt, by
      rw [freed_connectFailed, hzero, hc, if_neg (hs.fresh hd).symm]⟩
  dead_block b hb hdead := by
    simp only [live_connectFailed hfree] at hdead
    rw [freed_connectFailed, hc]
    by_cases hbn : s.nextBlock = b
    · rw [if_pos hbn, hs.fresh_block b (Nat.le_of_eq hbn)]
    · have hlt : b < s.nextBlock := Nat.lt_of_le_of_ne (Nat.le_of_lt_succ hb) (Ne.symm hbn)
      rw [if_neg hbn, hs.dead_block b hlt hdead]
  fresh_block b hb := by
    have hlt : s.nextBlock < b := hb
    rw [freed_connectFailed, hc, if_neg (Nat.ne_of_lt hlt), hs.fresh_block b (Nat.le_of_lt hlt)]

theorem WellFormed.connectDone (hs : WellFormed s) (hi : i < sessionsMax)
    (hfree : (s.session i).allocated = false) (hc : c.block = s.nextBlock) :
    WellFormed (connectDone s i c w) where
  free_entry j hj ha := by
    by_cases hji : j = i
    · subst j
      simp [SessionInvariant.connectDone, Conn.entry] at ha
    · simp only [SessionInvariant.connectDone, Function.update_of_ne hji] at ha ⊢
      exact hs.free_entry j hj ha
  live_entry j hj ha := by
    simp only [live_connectDone hi hfree]
    by_cases hji : j = i
    · exact ⟨c, .inl ⟨hji, rfl⟩⟩
    · simp only [SessionInvariant.connectDone, Function.update_of_ne hji] at ha
      obtain ⟨d, hd⟩ := hs.live_entry j hj ha
      exact ⟨d, .inr hd⟩
  distinct {j k d e} hj hk he := by
    rw [live_connectDone hi hfree] at hj hk
    rcases hj with ⟨rfl, rfl⟩ | hj <;> rcases hk with ⟨rfl, rfl⟩ | hk
    · rfl
    · exact absurd (he.symm.trans hc) (hs.fresh hk)
    · exact absurd (he.trans hc) (hs.fresh hj)
    · exact hs.distinct hj hk he
  usesLive := by
    simpa [SessionInvariant.connectDone, hc] using
      ⟨not_freed (hs.fresh_block _ le_rfl), hs.usesLive⟩
  live_block {j d} hd := by
    rw [freed_connectDone]
    rcases (live_connectDone hi hfree).mp hd with ⟨-, rfl⟩ | hd
    · exact ⟨hc ▸ Nat.lt_succ_self _, hs.fresh_block _ (Nat.le_of_eq hc.symm)⟩
    · exact ⟨Nat.lt_succ_of_lt (hs.live_block hd).1, (hs.live_block hd).2⟩
  dead_block b hb hdead := by
    simp only [live_connectDone hi hfree] at hdead
    rw [freed_connectDone]
    have hbc : c.block ≠ b := hdead i c (.inl ⟨rfl, rfl⟩)
    have hlt : b < s.nextBlock :=
      Nat.lt_of_le_of_ne (Nat.le_of_lt_succ hb) (hc ▸ Ne.symm hbc)
    exact hs.dead_block b hlt fun j d hd => hdead j d (.inr hd)
  fresh_block b hb := by
    rw [freed_connectDone]
    exact hs.fresh_block b (Nat.le_of_succ_le hb)

theorem WellFormed.disconnectDone (hs : WellFormed s) (h : Live s i c) :
    WellFormed (disconnectDone s i c w) where
  free_entry j hj ha := by
    by_cases hji : j = i
    · subst j
      simp [SessionInvariant.disconnectDone]
    · simp only [SessionInvariant.disconnectDone, Function.update_of_ne hji] at ha ⊢
      exact hs.free_entry j hj ha
  live_entry j hj ha := by
    simp only [live_disconnectDone]
    by_cases hji : j = i
    · subst j
      simp [SessionInvariant.disconnectDone] at ha
    · simp only [SessionInvariant.disconnectDone, Function.update_of_ne hji] at ha
      obtain ⟨d, hd⟩ := hs.live_entry j hj ha
      exact ⟨d, hji, hd⟩
  distinct hj hk := hs.distinct (live_disconnectDone.mp hj).2 (live_disconnectDone.mp hk).2
  usesLive := by
    simpa [SessionInvariant.disconnectDone] using ⟨not_freed (hs.live_block h).2, hs.usesLive⟩
  live_block {j d} hd := by
    obtain ⟨hji, hd⟩ := live_disconnectDone.mp hd
    have hne : c.block ≠ d.block := fun he => hji (hs.distinct hd h he.symm)
    rw [freed_disconnectDone, if_neg hne]
    exact hs.live_block hd
  dead_block b hb hdead := by
    rw [freed_disconnectDone]
    -- the entry's own block has just died; any other dead block was dead before
    by_cases hbc : c.block = b
    · rw [if_pos hbc, ← hbc, (hs.live_block h).2]
    · rw [if_neg hbc]
      apply hs.dead_block b hb
      intro j d hd
      by_cases hji : j = i
      · subst j
        exact h.unique hd ▸ hbc
      · exact hdead j d (live_disconnectDone.mpr ⟨hji, hd⟩)
  fresh_block b hb := by
    have hlt : c.block < b := Nat.lt_of_lt_of_le (hs.live_block h).1 hb
    rw [freed_disconnectDone, if_neg (Nat.ne_of_lt hlt), hs.fresh_block b hb]

end Preservation

theorem WellFormed.freed_le_one {s : State σ} (hs : WellFormed s) (b : Block) : freed s b ≤ 1 := by
  by_cases hb : b < s.nextBlock
  · by_cases hlive : ∃ i c, Live s i c ∧ c.block = b
    · obtain ⟨i, c, hc, rfl⟩ := hlive
      exact (hs.live_block hc).2 ▸ Nat.zero_le 1
    · exact Nat.le_of_eq (hs.dead_block b hb fun i c hc he => hlive ⟨i, c, hc, he⟩)
  · exact hs.fresh_block b (Nat.not_lt.mp hb) ▸ Nat.zero_le 1

def initial (session : Nat → Session) (w : σ) : State σ := (lxiInit ⟨session, 0, [], w⟩).2

theorem initial_free (session : Nat → Session) (w : σ) {i : Nat} (hi : i < sessionsMax) :
    ((initial session w).session i).allocated = false ∧
      ((initial session w).session i).connected = false := by
  simp [initial, lxiInit, hi]

theorem freeSession_initial (session : Nat → Session) (w : σ) :
    freeSession (initial session w).session = some 0 :=
  freeSession_some.mpr ⟨by decide, (initial_free session w (by decide)).1, by simp⟩

theorem not_live_initial (session : Nat → Session) (w : σ) (i : Nat) (c : Conn) :
    ¬ Live (initial session w) i c := fun h =>
  not_live_of_free (initial_free session w h.1).1 h

theorem wellFormed_initial (session : Nat → Session) (w : σ) : WellFormed (initial session w) where
  free_entry i hi _ := (initial_free session w hi).2
  live_entry i hi ha := absurd ha (by simp [(initial_free session w hi).1])
  distinct h := absurd h (not_live_initial _ _ _ _)
  usesLive := trivial
  live_block h := absurd h (not_live_initial _ _ _ _)
  dead_block b hb := absurd hb (Nat.not_lt_zero b)
  fresh_block _ _ := rfl

theorem not_issued_error : ¬ (0 : Int) ≤ lxiError := by decide

theorem lxiConnect_wellFormed {connect : Effect σ} {protocol : Protocol} {s s' : State σ} {r : Int}
    (hs : WellFormed s) (h : lxiConnect connect protocol s = some (r, s')) : WellFormed s' := by
  rcases lxiConnect_cases h with ⟨-, -, rfl⟩ | ⟨i, -, -, -, rfl⟩ | ⟨i, b, n, w, hi, -, -, h⟩
  · exact hs.emit_error _
  · exact hs
  · obtain ⟨hlt, hfree, -⟩ := freeSession_some.mp hi
    rcases h with ⟨-, -, rfl⟩ | ⟨-, -, rfl⟩
    · exact hs.connectFailed hfree rfl
    · exact hs.connectDone hlt hfree rfl

theorem world_connect {s t : State σ} {i : Nat} {c : Conn} {n r : Int} {w : σ}
    (h : n ≠ 0 ∧ r = lxiError ∧ t = connectFailed s i c w ∨
      n = 0 ∧ r = i ∧ t = connectDone s i c w) : t.world = w := by
  rcases h with ⟨-, -, rfl⟩ | ⟨-, -, rfl⟩
  · rfl
  · rfl

theorem lxiConnect_issued {connect : Effect σ} {protocol : Protocol} {s s' : State σ} {r : Int}
    (h : lxiConnect connect protocol s = some (r, s')) (hr : 0 ≤ r) :
    ∃ i backend w, r = (i : Nat) ∧ freeSession s.session = some i ∧
      backendOf protocol = some backend ∧ s' = connectDone s i ⟨backend, s.nextBlock⟩ w := by
  rcases lxiConnect_cases h with ⟨-, rfl, -⟩ | ⟨i, -, -, rfl, -⟩ | ⟨i, b, n, w, hi, hb, -, h⟩
  · exact absurd hr not_issued_error
  · exact absurd hr not_issued_error
  · rcases h with ⟨-, rfl, -⟩ | ⟨-, rfl, rfl⟩
    · exact absurd hr not_issued_error
    · exact ⟨i, b, w, rfl, hi, hb, rfl⟩

theorem lxiConnect_refused {connect : Effect σ} {protocol : Protocol} {s s' : State σ} {r : Int}
    (h : lxiConnect connect protocol s = some (r, s')) (hr : ¬ 0 ≤ r) {j : Nat} {d : Conn} :
    Live s' j d ↔ Live s j d := by
  rcases lxiConnect_cases h with ⟨-, -, rfl⟩ | ⟨i, -, -, -, rfl⟩ | ⟨i, b, n, w, hi, -, -, h⟩
  · exact Iff.rfl
  · exact Iff.rfl
  · rcases h with ⟨-, -, rfl⟩ | ⟨-, rfl, -⟩
    · exact live_connectFailed (freeSession_some.mp hi).2.1
    · exact absurd (Int.natCast_nonneg i) hr

theorem lxiConnect_live {connect : Effect σ} {protocol : Protocol} {s s' : State σ} {r : Int}
    {j : Nat} {d : Conn} (h : lxiConnect connect protocol s = some (r, s')) (hd : Live s j d) :
    Live s' j d := by
  by_cases hr : 0 ≤ r
  · obtain ⟨i, backend, w, -, hi, -, rfl⟩ := lxiConnect_issued h hr
    obtain ⟨hlt, hfree, -⟩ := freeSession_some.mp hi
    exact (live_connectDone hlt hfree).mpr (.inr hd)
  · exact (lxiConnect_refused h hr).mpr hd

end LibLxi.SessionInvariant

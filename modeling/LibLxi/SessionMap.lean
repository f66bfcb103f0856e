import LibLxi.ClientInvariant
import Mathlib.Data.Option.Basic
import Mathlib.Order.Lattice.Nat

namespace LibLxi.SessionMap

open Application ClientInvariant Lxi Platform SessionInvariant

variable {σ : Type}

/-- What the session table is for: a finite map from handles to connections.
The remaining fields are what an application and the backends observe. -/
structure Spec (σ : Type) where
  live : Nat → Option Conn
  nextBlock : Block
  log : List Event
  world : σ

def maxLive : Nat := 1024

def told (n : Int) : Int := max n (-1)

def empty (w : σ) : Spec σ := ⟨fun _ => none, 0, [], w⟩

noncomputable def leastFree (m : Spec σ) : Nat := sInf { i | m.live i = none }

def lookup (m : Spec σ) (device : Int) : Option Conn :=
  if device < 0 then none else m.live device.toNat

/-- A successful backend connect adds one entry, at the least free index; every
failure leaves the map as it was. -/
noncomputable def connect (effect : Effect σ) (protocol : Protocol) (m : Spec σ) :
    Option (Int × Spec σ) :=
  if leastFree m < maxLive then
    match spoken protocol with
    | none => some (lxiError, m)
    | some backend =>
        let c : Conn := ⟨backend, m.nextBlock⟩
        let log : List Event :=
          .call .connect (some backend) (some c.block) :: .malloc c.block :: m.log
        (effect (some backend) (some c.block) m.world).map fun x =>
          if x.1 = 0 then
            (leastFree m, ⟨Function.update m.live (leastFree m) (some c), m.nextBlock + 1, log, x.2⟩)
          else (lxiError, ⟨m.live, m.nextBlock + 1, .free (some c.block) :: log, x.2⟩)
  else some (lxiError, { m with log := .error (.text "Too many active sessions!\n") :: m.log })

def transfer (op : Operation) (effect : Effect σ) (device : Int) (m : Spec σ) :
    Option (Int × Spec σ) :=
  match lookup m device with
  | none => some (lxiError, m)
  | some c =>
      (effect (some c.backend) (some c.block) m.world).map fun x =>
        (told x.1,
          { m with log := .call op (some c.backend) (some c.block) :: m.log, world := x.2 })

def disconnect (effect : Effect σ) (device : Int) (m : Spec σ) : Option (Int × Spec σ) :=
  match lookup m device with
  | none => some (lxiError, m)
  | some c =>
      (effect (some c.backend) (some c.block) m.world).map fun x =>
        (lxiOk, ⟨Function.update m.live device.toNat none, m.nextBlock,
          .free (some c.block) :: .call .disconnect (some c.backend) (some c.block) :: m.log, x.2⟩)

noncomputable def perform (m : Spec σ) : Call σ → Option (Int × Spec σ)
  | .connect protocol effect => connect effect protocol m
  | .send device effect => transfer .send effect device m
  | .receive device effect => transfer .receive effect device m
  | .disconnect device effect => disconnect effect device m

theorem maxLive_eq : maxLive = sessionsMax := rfl

/-- The search of the table finds the least index that is free. -/
theorem freeSession_least {session : Nat → Session} {p : Nat → Prop}
    (hfree : ∀ i < sessionsMax, p i ↔ (session i).allocated = false) (hmax : p sessionsMax) :
    freeSession session = if sInf { i | p i } < maxLive then some (sInf { i | p i }) else none := by
  have hleast : p (sInf { i | p i }) := Nat.sInf_mem (s := { i | p i }) ⟨_, hmax⟩
  have hbelow {i : Nat} (hi : i < sInf { i | p i }) : ¬ p i := Nat.notMem_of_lt_sInf hi
  rw [maxLive_eq]
  split
  · rename_i hlt
    refine freeSession_some.mpr ⟨hlt, (hfree _ hlt).mp hleast, fun j hj => ?_⟩
    rw [← Bool.not_eq_false]
    exact fun ha => hbelow hj ((hfree j (hj.trans hlt)).mpr ha)
  · rename_i hge
    apply freeSession_none.mpr
    intro i hi
    rw [← Bool.not_eq_false]
    exact fun ha => hbelow (by omega) ((hfree i hi).mpr ha)

/-- The table stands for the map: exactly the entries of the map are live, each
with the pointers its own connect wrote, and all that is observed agrees. -/
structure Refines (s : State σ) (m : Spec σ) : Prop where
  wellFormed : WellFormed s
  flags : ∀ i < sessionsMax, (s.session i).allocated = (s.session i).connected
  live_iff : ∀ i c, m.live i = some c ↔ i < sessionsMax ∧ s.session i = c.entry
  allocated_iff : ∀ i < sessionsMax, (s.session i).allocated = true ↔ (m.live i).isSome
  nextBlock : s.nextBlock = m.nextBlock
  log : s.log = m.log
  world : s.world = m.world

theorem refines_of_live {s : State σ} {m : Spec σ} (hs : WellFormed s)
    (hlive : ∀ i c, m.live i = some c ↔ Live s i c) (hnext : s.nextBlock = m.nextBlock)
    (hlog : s.log = m.log) (hworld : s.world = m.world) : Refines s m where
  wellFormed := hs
  flags i hi := by
    cases ha : (s.session i).allocated with
    | false => exact (hs.free_entry i hi ha).symm
    | true =>
        obtain ⟨c, -, hc⟩ := hs.live_entry i hi ha
        rw [hc, Conn.entry]
  live_iff := hlive
  allocated_iff i hi := by
    simp only [Option.isSome_iff_exists, hlive]
    refine ⟨hs.live_entry i hi, ?_⟩
    rintro ⟨c, hc⟩
    exact hc.allocated
  nextBlock := hnext
  log := hlog
  world := hworld

theorem refines_initial (session : Nat → Session) (w : σ) : Refines (initial session w) (empty w) :=
  refines_of_live (wellFormed_initial session w)
    (fun i c => by simp [empty, not_live_initial]) rfl rfl rfl

section Refinement

variable {s : State σ} {m : Spec σ}

theorem Refines.live (h : Refines s m) (i : Nat) (c : Conn) : m.live i = some c ↔ Live s i c :=
  h.live_iff i c

theorem Refines.none_iff (h : Refines s m) (i : Nat) : m.live i = none ↔ ∀ c, ¬ Live s i c := by
  rw [Option.eq_none_iff_forall_ne_some]
  exact forall_congr' fun c => not_congr (h.live i c)

theorem transferResult_eq_told (n : Int) : transferResult n = told n := by
  rw [transferResult, told, lxiError]
  split <;> omega

theorem freeSession_leastFree (h : Refines s m) :
    freeSession s.session = if leastFree m < maxLive then some (leastFree m) else none := by
  apply freeSession_least
  · intro i hi
    rw [← Bool.not_eq_true, h.allocated_iff i hi, Option.not_isSome_iff_eq_none]
  · -- the index behind the table is never live, so a least one exists
    exact (h.none_iff _).mpr fun c hc => Nat.lt_irrefl _ hc.1

theorem lookup_natCast (m : Spec σ) (i : Nat) : lookup m i = m.live i := if_neg (by omega)

theorem lookup_cases (h : Refines s m) {device : Int} (hd : device ≠ sessionsMax) :
    (lookup m device = none ∧ isValidSession s.session device = false) ∨
      ∃ (i : Nat) (c : Conn), device = i ∧ lookup m device = some c ∧ Live s i c := by
  rcases handle_cases h.wellFormed hd with hv | ⟨i, c, rfl, hc⟩
  · refine .inl ⟨?_, hv⟩
    rw [lookup]
    split
    · rfl
    · rename_i h0
      apply (h.none_iff _).mpr
      intro c hc
      have hvalid := (isValidSession_iff h.wellFormed hd).mpr ⟨by omega, c, hc⟩
      rw [hv] at hvalid
      cases hvalid
  · exact .inr ⟨i, c, rfl, (lookup_natCast m i).trans ((h.live i c).mpr hc), hc⟩

def Agree (x : Int × State σ) (y : Int × Spec σ) : Prop := x.1 = y.1 ∧ Refines x.2 y.2

theorem connectDone_refines (h : Refines s m) {i : Nat} (hi : i < sessionsMax)
    (ha : (s.session i).allocated = false) (backend : Backend) (w : σ) :
    Refines (connectDone s i ⟨backend, s.nextBlock⟩ w)
      ⟨Function.update m.live i (some ⟨backend, s.nextBlock⟩), s.nextBlock + 1,
        .call .connect (some backend) (some s.nextBlock) :: .malloc s.nextBlock :: m.log, w⟩ := by
  refine refines_of_live (h.wellFormed.connectDone hi ha rfl) ?_ rfl ?_ rfl
  · intro j d
    simp only [live_connectDone hi ha, Function.update_apply]
    by_cases hj : j = i
    · simp [hj, not_live_of_free ha, eq_comm]
    · simpa [hj] using h.live j d
  · simp [connectDone, h.log]

theorem connectFailed_refines (h : Refines s m) {i : Nat} (ha : (s.session i).allocated = false)
    (backend : Backend) (w : σ) :
    Refines (connectFailed s i ⟨backend, s.nextBlock⟩ w)
      ⟨m.live, s.nextBlock + 1, .free (some s.nextBlock) ::
        .call .connect (some backend) (some s.nextBlock) :: .malloc s.nextBlock :: m.log, w⟩ := by
  refine refines_of_live (h.wellFormed.connectFailed ha rfl) (fun j d => ?_) rfl ?_ rfl
  · exact (h.live j d).trans (live_connectFailed ha).symm
  · simp [connectFailed, h.log]

theorem connect_refines (h : Refines s m) (effect : Effect σ) (protocol : Protocol) :
    Option.Rel Agree (lxiConnect effect protocol s) (connect effect protocol m) := by
  have hfree := freeSession_leastFree h
  rw [connect]
  by_cases hlt : leastFree m < maxLive
  · rw [if_pos hlt] at hfree ⊢
    obtain ⟨hi, ha, -⟩ := freeSession_some.mp hfree
    cases hb : spoken protocol with
    | none =>
        rw [lxiConnect_unsupported hfree ((backendOf_eq_spoken protocol).trans hb)]
        exact .some ⟨rfl, h⟩
    | some backend =>
        replace hb := (backendOf_eq_spoken protocol).trans hb
        rw [lxiConnect_supported hfree hb, ← h.nextBlock, ← h.world]
        apply Machine.rel_map_self
        intro x
        by_cases h0 : x.1 = 0
        · simp only [h0, if_true]
          exact ⟨rfl, connectDone_refines h hi ha backend x.2⟩
        · simp only [h0, if_false]
          exact ⟨rfl, connectFailed_refines h ha backend x.2⟩
  · rw [if_neg hlt] at hfree ⊢
    rw [lxiConnect_full hfree]
    refine .some ⟨rfl, refines_of_live (h.wellFormed.emit_error _) h.live_iff h.nextBlock ?_ h.world⟩
    exact congrArg (_ :: ·) h.log

theorem called_refines (h : Refines s m) {i : Nat} {c : Conn} (hc : Live s i c) (op : Operation)
    (w : σ) :
    Refines (called s op c w)
      { m with log := .call op (some c.backend) (some c.block) :: m.log, world := w } :=
  refines_of_live (h.wellFormed.called hc op) h.live_iff h.nextBlock
    (congrArg (_ :: ·) h.log) rfl

/-- A transfer is refused on a value that is no handle, and otherwise passes the
entry's own pointers on. -/
theorem transfer_refines (h : Refines s m) (op : Operation) (effect : Effect σ) {device : Int}
    (hd : device ≠ sessionsMax) {result : Option (Int × State σ)}
    (hinvalid : isValidSession s.session device = false → result = some (lxiError, s))
    (hlive : ∀ (i : Nat) (c : Conn), device = i → Live s i c →
      result = (effect (some c.backend) (some c.block) s.world).map fun x =>
        (transferResult x.1, called s op c x.2)) :
    Option.Rel Agree result (transfer op effect device m) := by
  rcases lookup_cases h hd with ⟨hl, hv⟩ | ⟨i, c, rfl, hl, hc⟩
  · rw [hinvalid hv, transfer, hl]
    exact .some ⟨rfl, h⟩
  · rw [hlive i c rfl hc, transfer, hl, h.world]
    apply Machine.rel_map_self
    exact fun x => ⟨transferResult_eq_told x.1, called_refines h hc _ _⟩

theorem send_refines (h : Refines s m) (effect : Effect σ) {device : Int}
    (hd : device ≠ sessionsMax) :
    Option.Rel Agree (lxiSend effect device s) (transfer .send effect device m) := by
  apply transfer_refines h .send effect hd lxiSend_invalid
  rintro i c rfl hc
  exact lxiSend_live hc

theorem receive_refines (h : Refines s m) (effect : Effect σ) {device : Int}
    (hd : device ≠ sessionsMax) :
    Option.Rel Agree (lxiReceive effect device s) (transfer .receive effect device m) := by
  apply transfer_refines h .receive effect hd lxiReceive_invalid
  rintro i c rfl hc
  exact lxiReceive_live hc

theorem disconnect_refines (h : Refines s m) (effect : Effect σ) {device : Int}
    (hd : device ≠ sessionsMax) :
    Option.Rel Agree (lxiDisconnect effect device s) (disconnect effect device m) := by
  rcases lookup_cases h hd with ⟨hl, hv⟩ | ⟨i, c, rfl, hl, hc⟩
  · rw [lxiDisconnect_invalid hv, disconnect, hl]
    exact .some ⟨rfl, h⟩
  · rw [lxiDisconnect_live hc, disconnect, hl, h.world]
    apply Machine.rel_map_self
    intro x
    refine ⟨rfl, refines_of_live (h.wellFormed.disconnectDone hc) ?_ h.nextBlock ?_ rfl⟩
    · intro j d
      simp only [live_disconnectDone, Int.toNat_natCast, Function.update_apply]
      by_cases hj : j = i
      · simp [hj]
      · simpa [hj] using h.live j d
    · simp [disconnectDone, h.log]

theorem perform_refines (h : Refines s m) (call : Call σ)
    (hd : ∀ device ∈ call.device, device ≠ sessionsMax) :
    Option.Rel Agree (Application.perform s call) (perform m call) := by
  cases call with
  | connect protocol effect => exact connect_refines h effect protocol
  | send device effect => exact send_refines h effect (hd device rfl)
  | receive device effect => exact receive_refines h effect (hd device rfl)
  | disconnect device effect => exact disconnect_refines h effect (hd device rfl)

theorem outputs_refines (h : Refines s m) {calls : List (Call σ)} (hin : ∀ call ∈ calls, call.Inside) :
    Option.Rel (fun x y => x.1 = y.1 ∧ Refines x.2 y.2)
      (Machine.outputs Application.perform s calls) (Machine.outputs perform m calls) :=
  Machine.outputs_rel (I := Refines) (fun _ _ call hcall h => perform_refines h call hcall) h hin

end Refinement

structure Matches (c : Client (State σ)) (d : Client (Spec σ)) : Prop where
  results : c.results = d.results
  issued : c.issued = d.issued
  refines : Refines c.lib d.lib

theorem step_matches {c : Client (State σ)} {d : Client (Spec σ)} (hc : Sound c) (h : Matches c d)
    (call : Call σ) :
    Option.Rel Matches (step Application.perform c call) (step perform d call) := by
  rw [step, step, ← h.issued]
  split
  · rename_i hguard
    apply Machine.rel_map (perform_refines h.refines call (hc.guard hguard))
    intro x y hxy
    refine ⟨?_, ?_, hxy.2⟩
    · exact congrArg₂ List.cons hxy.1 h.results
    · exact congrArg (issues call · ++ c.issued) hxy.1
  · exact .none

/-- Every run of an application over the session table, from lxi_init on, is a
run over the finite map with the same results, and the other way round. -/
theorem session_table_refines_map (session : Nat → Session) (w : σ) (calls : List (Call σ)) :
    Option.Rel Matches
      (Machine.run (step Application.perform) ⟨initial session w, [], []⟩ calls)
      (Machine.run (step perform) ⟨empty w, [], []⟩ calls) := by
  apply Machine.run_rel (I := Sound)
  · exact fun c call c' hc h => step_sound hc h
  · exact fun c d call hc h => step_matches hc h call
  · exact sound_initial session w
  · exact ⟨rfl, rfl, refines_initial session w⟩

end LibLxi.SessionMap

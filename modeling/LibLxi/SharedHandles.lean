import LibLxi.Threads

namespace LibLxi.SharedHandles

open Lxi Machine SessionInvariant Threads

variable {T : Type}

/-- No call after its validity check overlaps with a teardown of its handle, and
nobody passes the index behind the array. -/
def Exclusive (s : Sys T) : Action T → Prop
  | .check t => ∀ op device, s.pc t = .checking op device → device ≠ sessionsMax
  | .teardown t _ => ∀ device ∈ (s.pc t).within, ∀ u, u ≠ t → device ∉ (s.pc u).within
  | _ => True

def Loaded (c : Conn) : Stage → Prop
  | .reading _ fn data => (∀ f ∈ fn, f = some c.backend) ∧ ∀ d ∈ data, d = some c.block
  | .calling _ fn data => fn = some c.backend ∧ data = some c.block
  | .locking => True

def Sees (lib : State Unit) : Pc → Prop
  | .inside device seen stage =>
      ∃ (i : Nat) (c : Conn), device = i ∧ Live lib i c ∧ seen = some c.block ∧ Loaded c stage
  | _ => True

structure Invariant (s : Sys T) : Prop where
  wellFormed : WellFormed s.lib
  sees : ∀ t, Sees s.lib (s.pc t)
  teardowns : ∀ p ∈ s.teardowns, p.1 = p.2

structure Safe (s : Sys T) : Prop where
  freedOnce : ∀ b, freed s.lib b ≤ 1
  usesLive : UsesLive s.lib.log
  running : ∀ t device seen op fn b, s.pc t = .inside device seen (.calling op fn (some b)) →
    freed s.lib b = 0
  teardowns : ∀ p ∈ s.teardowns, p.1 = p.2

theorem Invariant.inside {s : Sys T} (h : Invariant s) {t : T} {device : Int} {seen : DataPtr}
    {stage : Stage} (hpc : s.pc t = .inside device seen stage) :
    ∃ (i : Nat) (c : Conn), device = i ∧ Live s.lib i c ∧ seen = some c.block ∧ Loaded c stage := by
  have hsees := h.sees t
  rw [hpc] at hsees
  exact hsees

theorem Invariant.safe {s : Sys T} (h : Invariant s) : Safe s where
  freedOnce := h.wellFormed.freed_le_one
  usesLive := h.wellFormed.usesLive
  running t device seen op fn b hpc := by
    obtain ⟨i, c, -, hc, -, -, hdata⟩ := h.inside hpc
    cases hdata
    exact (h.wellFormed.live_block hc).2
  teardowns := h.teardowns

theorem Sees.mono {lib lib' : State Unit} (hlive : ∀ {i c}, Live lib i c → Live lib' i c) {pc : Pc}
    (h : Sees lib pc) : Sees lib' pc := by
  cases pc with
  | idle => trivial
  | checking op device => trivial
  | inside device seen stage =>
      obtain ⟨i, c, hd, hc, hrest⟩ := h
      exact ⟨i, c, hd, hlive hc, hrest⟩

theorem Sees.disconnectDone {lib : State Unit} {i : Nat} {c : Conn} {pc : Pc} (h : Sees lib pc)
    (hi : (i : Int) ∉ pc.within) : Sees (disconnectDone lib i c ()) pc := by
  cases pc with
  | idle => trivial
  | checking op device => trivial
  | inside device seen stage =>
      obtain ⟨j, d, rfl, hd, hrest⟩ := h
      have hji : j ≠ i := fun he => hi (by rw [he]; rfl)
      exact ⟨j, d, rfl, live_disconnectDone.mpr ⟨hji, hd⟩, hrest⟩

section Steps

variable [DecidableEq T] {s s' : Sys T} {t : T}

theorem sees_goto {lib : State Unit} {pc : Pc} (hothers : ∀ u, u ≠ t → Sees lib (s.pc u))
    (ht : Sees lib pc) : ∀ u, Sees lib ((s.goto t pc).pc u) := by
  intro u
  by_cases hu : u = t
  · subst u
    simpa [Sys.goto] using ht
  · simpa [Sys.goto, hu] using hothers u hu

theorem Invariant.goto (h : Invariant s) {pc : Pc} (ht : Sees s.lib pc) :
    Invariant (s.goto t pc) where
  wellFormed := h.wellFormed
  sees := sees_goto (fun u _ => h.sees u) ht
  teardowns := h.teardowns

theorem Invariant.returned {lib : State Unit} {teardowns : List (DataPtr × DataPtr)}
    (hwf : WellFormed lib) (hothers : ∀ u, u ≠ t → Sees lib (s.pc u))
    (hteardowns : ∀ p ∈ teardowns, p.1 = p.2) (r : Int) :
    Invariant (({ s with lib, teardowns } : Sys T).returned t r) where
  wellFormed := hwf
  sees := sees_goto hothers trivial
  teardowns := hteardowns

theorem connectStep_invariant (hs : Invariant s) {protocol : Protocol} {outcome : Int}
    (h : connectStep s t protocol outcome = some s') : Invariant s' := by
  obtain ⟨-, r, lib, hconnect, rfl⟩ := connectStep_cases h
  apply Invariant.returned (lxiConnect_wellFormed hs.wellFormed hconnect) ?_ hs.teardowns
  exact fun u _ => (hs.sees u).mono fun hc => lxiConnect_live hconnect hc

theorem checkStep_invariant (hs : Invariant s)
    (hmax : ∀ op device, s.pc t = .checking op device → device ≠ sessionsMax)
    (h : checkStep s t = some s') : Invariant s' := by
  obtain ⟨op, device, hpc, ⟨-, rfl⟩ | ⟨hvalid, rfl⟩⟩ := checkStep_cases h
  · exact .returned hs.wellFormed (fun u _ => hs.sees u) hs.teardowns _
  · have hd := hmax op device hpc
    obtain ⟨h0, c, hc⟩ := (isValidSession_iff hs.wellFormed hd).mp hvalid
    refine hs.goto ⟨device.toNat, c, (Int.toNat_of_nonneg h0).symm, hc, ?_, ?_⟩
    · rw [hc.2, Conn.entry]
    · cases op <;> simp [stageOf, Loaded]

theorem pointer_entry (c : Conn) (op : Operation) : pointer c.entry op = some c.backend := by
  cases op <;> rfl

theorem loadFnStep_invariant (hs : Invariant s) (h : loadFnStep s t = some s') : Invariant s' := by
  obtain ⟨device, seen, op, data, hpc, rfl⟩ := loadFnStep_cases h
  obtain ⟨i, c, rfl, hc, hseen, -, hdata⟩ := hs.inside hpc
  refine hs.goto ⟨i, c, rfl, hc, hseen, ?_, hdata⟩
  rintro f ⟨⟩
  rw [Int.toNat_natCast, hc.2, pointer_entry]

theorem loadDataStep_invariant (hs : Invariant s) (h : loadDataStep s t = some s') :
    Invariant s' := by
  obtain ⟨device, seen, op, fn, hpc, rfl⟩ := loadDataStep_cases h
  obtain ⟨i, c, rfl, hc, hseen, hfn, -⟩ := hs.inside hpc
  refine hs.goto ⟨i, c, rfl, hc, hseen, hfn, ?_⟩
  rintro d ⟨⟩
  rw [Int.toNat_natCast, hc.2, Conn.entry]

theorem callStep_invariant (hs : Invariant s) (h : callStep s t = some s') : Invariant s' := by
  obtain ⟨device, seen, op, fn, data, hpc, rfl⟩ := callStep_cases h
  obtain ⟨i, c, rfl, hc, hseen, hfn, hdata⟩ := hs.inside hpc
  obtain rfl := hfn fn rfl
  obtain rfl := hdata data rfl
  exact {
    wellFormed := hs.wellFormed.called hc op
    sees := sees_goto (fun u _ => (hs.sees u).mono id) ⟨i, c, rfl, hc, hseen, rfl, rfl⟩
    teardowns := hs.teardowns }

theorem finishStep_invariant (hs : Invariant s) {outcome : Int}
    (h : finishStep s t outcome = some s') : Invariant s' := by
  obtain ⟨-, rfl⟩ := finishStep_cases h
  exact .returned hs.wellFormed (fun u _ => hs.sees u) hs.teardowns _

theorem teardownStep_invariant (hs : Invariant s) {outcome : Int}
    (halone : ∀ device ∈ (s.pc t).within, ∀ u, u ≠ t → device ∉ (s.pc u).within)
    (h : teardownStep s t outcome = some s') : Invariant s' := by
  obtain ⟨device, seen, r, lib, hpc, hsection, rfl⟩ := teardownStep_cases h
  obtain ⟨i, c, rfl, hc, rfl, -⟩ := hs.inside hpc
  rw [hpc] at halone
  rw [Int.toNat_natCast, disconnectSection_live hc] at hsection
  obtain ⟨-, rfl⟩ := Prod.mk.inj (Option.some.inj hsection)
  apply Invariant.returned (hs.wellFormed.disconnectDone hc)
  · exact fun u hu => (hs.sees u).disconnectDone (halone i rfl u hu)
  · refine List.forall_mem_cons.mpr ⟨?_, hs.teardowns⟩
    rw [Int.toNat_natCast, hc.2, Conn.entry]

theorem step_invariant {a : Action T} (hs : Invariant s) (ha : Exclusive s a)
    (h : step s a = some s') :
    Invariant s' := by
  cases a with
  | connect t protocol outcome => exact connectStep_invariant hs h
  | enter t op device =>
      simp only [step] at h
      split at h
      · cases h
        exact hs.goto trivial
      · cases h
  | check t => exact checkStep_invariant hs ha h
  | loadFn t => exact loadFnStep_invariant hs h
  | loadData t => exact loadDataStep_invariant hs h
  | call t => exact callStep_invariant hs h
  | finish t outcome => exact finishStep_invariant hs h
  | teardown t outcome => exact teardownStep_invariant hs ha h

end Steps

theorem invariant_start (session : Nat → Session) : Invariant (start session : Sys T) where
  wellFormed := wellFormed_initial session ()
  sees _ := trivial
  teardowns := by simp [start]

/-- Threads may share handles safely as long as no teardown of a handle overlaps
with another call that has passed its validity check on it. -/
theorem shared_handles_safe [DecidableEq T] {session : Nat → Session} {actions : List (Action T)}
    {s : Sys T} (hexclusive : Along step Exclusive (start session) actions)
    (hrun : run step (start session) actions = some s) : Safe s :=
  (run_preserves_along (fun _ _ _ hs ha h => step_invariant hs ha h) (invariant_start session)
    hexclusive hrun).safe

def turns : List (Action Bool) :=
  [.connect false .raw 0, .enter false .send 0, .enter true .disconnect 0, .check false,
    .loadFn false, .loadData false, .call false, .finish false 0, .check true, .teardown true 0]

theorem shared_handles_safe_turns : ∃ s, run step (start default) turns = some s ∧ Safe s := by
  have hexclusive : Along step Exclusive (start default) turns := by
    refine (along_cons_of_step (step_start _ _)).mpr ⟨trivial, ?_⟩
    iterate 2 refine (along_cons_of_step rfl).mpr ⟨trivial, ?_⟩
    refine (along_cons_of_step rfl).mpr ⟨?_, ?_⟩
    · rintro op device ⟨⟩
      decide
    iterate 4 refine (along_cons_of_step rfl).mpr ⟨trivial, ?_⟩
    refine (along_cons_of_step rfl).mpr ⟨?_, ?_⟩
    · rintro op device ⟨⟩
      decide
    refine (along_cons_of_step rfl).mpr ⟨?_, trivial⟩
    intro device _ u hu h
    cases u with
    | false =>
        have hnone : none = some device := h
        cases hnone
    | true => exact hu rfl
  have hrun : ∃ s, run step (start default) turns = some s := by
    rw [turns, run_cons, step_start, Option.bind_some]
    exact ⟨_, rfl⟩
  obtain ⟨s, hrun⟩ := hrun
  exact ⟨s, hrun, shared_handles_safe hexclusive hrun⟩

/-- Two threads that disconnect one handle both pass the check before either of
them tears the session down. -/
theorem shared_handle_freed_twice :
    ∃ s, run step (start default)
        [.connect false .raw 0, .enter false .disconnect 0, .enter true .disconnect 0, .check false,
          .check true, .teardown false 0, .teardown true 0] = some s ∧ ¬ Safe s := by
  rw [run_cons, step_start, Option.bind_some]
  refine ⟨_, rfl, fun h => ?_⟩
  exact absurd (h.freedOnce 0) (by decide)

end LibLxi.SharedHandles

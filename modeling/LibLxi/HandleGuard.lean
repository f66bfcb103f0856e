import LibLxi.ClientInvariant

namespace LibLxi.HandleGuard

open Application ClientInvariant Lxi Machine Platform SessionInvariant

variable {σ : Type}

def checkSession (session : Nat → Session) (device : Int) : Bool × List Nat :=
  if device < 0 then (false, [])
  else if device > sessionsMax then (false, [])
  else (if (session device.toNat).allocated = false then false else true, [device.toNat])

theorem checkSession_fst (session : Nat → Session) (device : Int) :
    (checkSession session device).1 = isValidSession session device := by
  rw [checkSession, isValidSession]
  split_ifs <;> rfl

/-- The entries that lxi_send, lxi_receive and lxi_disconnect read: that of the
check, and behind it the one whose pointers they use. -/
def entriesRead (session : Nat → Session) (device : Int) : List Nat :=
  let (valid, read) := checkSession session device
  if valid then read ++ [device.toNat] else read

/-- The library under an application that passes any value as a handle, with
the handles some lxi_connect returned and no lxi_disconnect took back. -/
structure Held (σ : Type) where
  lib : State σ
  live : List Int

def hold (call : Call σ) (r : Int) (live : List Int) : List Int :=
  match call with
  | .connect _ _ => if 0 ≤ r then r :: live else live
  | .disconnect device _ => if r = lxiOk then live.filter (· ≠ device) else live
  | .send _ _ | .receive _ _ => live

def step (h : Held σ) (call : Call σ) : Option (Held σ) :=
  (perform h.lib call).map fun x => ⟨x.2, hold call x.1 h.live⟩

/-- On a value that is no live handle the call returns LXI_ERROR, changes
nothing and reads entries of the array only. -/
def RejectsOthers (h : Held σ) (call : Call σ) : Prop :=
  ∀ device ∈ call.device, device ∉ h.live →
    perform h.lib call = some (lxiError, h.lib) ∧
      ∀ i ∈ entriesRead h.lib.session device, i < sessionsMax

structure Tracked (h : Held σ) : Prop where
  wellFormed : WellFormed h.lib
  live_iff : ∀ device, device ∈ h.live ↔ ∃ (i : Nat) (c : Conn), device = i ∧ Live h.lib i c

theorem tracked_initial (session : Nat → Session) (w : σ) :
    Tracked (⟨initial session w, []⟩ : Held σ) where
  wellFormed := wellFormed_initial session w
  live_iff device := by simp [not_live_initial]

section Steps

variable {h h' : Held σ}

theorem Tracked.of_live (hh : Tracked h) (hwf : WellFormed h'.lib) (hlist : h'.live = h.live)
    (hlive : ∀ i c, Live h'.lib i c ↔ Live h.lib i c) : Tracked h' where
  wellFormed := hwf
  live_iff device := by
    rw [hlist, hh.live_iff device]
    simp only [hlive]

theorem Tracked.connect (hh : Tracked h) {connect : Effect σ} {protocol : Protocol} {r : Int}
    {s' : State σ} (hc : lxiConnect connect protocol h.lib = some (r, s')) :
    Tracked ⟨s', hold (.connect protocol connect) r h.live⟩ := by
  have hwf := lxiConnect_wellFormed hh.wellFormed hc
  by_cases hr : 0 ≤ r
  · obtain ⟨i, backend, w, rfl, hi, -, rfl⟩ := lxiConnect_issued hc hr
    obtain ⟨hlt, hfree, -⟩ := freeSession_some.mp hi
    refine ⟨hwf, fun device => ?_⟩
    simp only [hold, hr, if_true, List.mem_cons, hh.live_iff device, live_connectDone hlt hfree]
    constructor
    · rintro (rfl | ⟨j, c, rfl, hj⟩)
      · exact ⟨i, _, rfl, .inl ⟨rfl, rfl⟩⟩
      · exact ⟨j, c, rfl, .inr hj⟩
    · rintro ⟨j, c, rfl, ⟨rfl, -⟩ | hj⟩
      · exact .inl rfl
      · exact .inr ⟨j, c, rfl, hj⟩
  · exact hh.of_live hwf (if_neg hr) fun i c => lxiConnect_refused hc hr

theorem Tracked.disconnectDone (hh : Tracked h) {i : Nat} {c : Conn} {w : σ} {effect : Effect σ}
    (hi : Live h.lib i c) :
    Tracked ⟨SessionInvariant.disconnectDone h.lib i c w,
      hold (.disconnect i effect) lxiOk h.live⟩ := by
  refine ⟨hh.wellFormed.disconnectDone hi, fun device => ?_⟩
  simp only [hold, if_true, List.mem_filter, decide_eq_true_eq, hh.live_iff device,
    live_disconnectDone]
  constructor
  · rintro ⟨⟨j, d, rfl, hj⟩, hne⟩
    exact ⟨j, d, rfl, fun hji => hne (congrArg _ hji), hj⟩
  · rintro ⟨j, d, rfl, hji, hj⟩
    exact ⟨⟨j, d, rfl, hj⟩, fun he => hji (Int.ofNat.inj he)⟩

theorem hold_rejected {call : Call σ} (hdevice : call.device ≠ none) (live : List Int) :
    hold call lxiError live = live := by
  cases call with
  | connect => exact absurd rfl hdevice
  | disconnect device effect =>
      have herror : lxiError ≠ lxiOk := by decide
      rw [hold, if_neg herror]
  | send | receive => rfl

theorem step_tracked (hh : Tracked h) {call : Call σ}
    (hd : call.device ≠ some (sessionsMax : Int)) (hstep : step h call = some h') : Tracked h' := by
  obtain ⟨⟨r, s'⟩, hc, rfl⟩ := Option.map_eq_some_iff.mp hstep
  have hr : Outcome h.lib call r s' := by
    apply perform_outcome hh.wellFormed ?_ hc
    intro device hm he
    exact hd (hm.trans (congrArg some he))
  have hwf := hr.wellFormed hh.wellFormed
  cases hr with
  | connected hc => exact hh.connect hc
  | rejected hdevice => exact hh.of_live hwf (hold_rejected hdevice _) fun _ _ => Iff.rfl
  | sent hi | received hi => exact hh.of_live hwf rfl fun _ _ => Iff.rfl
  | disconnected hi => exact hh.disconnectDone hi

end Steps

theorem perform_invalid {s : State σ} {call : Call σ} {device : Int}
    (hd : call.device = some device) (hv : isValidSession s.session device = false) :
    perform s call = some (lxiError, s) := by
  cases call with
  | connect => cases hd
  | send device effect => cases hd; exact lxiSend_invalid hv
  | receive device effect => cases hd; exact lxiReceive_invalid hv
  | disconnect device effect => cases hd; exact lxiDisconnect_invalid hv

theorem entriesRead_lt {session : Nat → Session} {device : Int} (hd : device ≠ sessionsMax)
    (hv : isValidSession session device = false) :
    ∀ i ∈ entriesRead session device, i < sessionsMax := by
  intro i hi
  simp only [entriesRead, checkSession_fst, hv, Bool.false_eq_true, if_false] at hi
  rw [checkSession] at hi
  split at hi
  · cases hi
  · split at hi
    · cases hi
    · rw [List.mem_singleton.mp hi]
      omega

theorem mem_entriesRead_sessionsMax (session : Nat → Session) :
    sessionsMax ∈ entriesRead session (sessionsMax : Int) := by
  have hread : (checkSession session (sessionsMax : Int)).2 = [sessionsMax] := by
    rw [checkSession, if_neg (by omega), if_neg (Int.lt_irrefl _), Int.toNat_natCast]
  simp only [entriesRead, hread]
  split <;> simp

theorem rejectsOthers_iff {h : Held σ} (hh : Tracked h) (call : Call σ) :
    call.device ≠ some (sessionsMax : Int) ↔ RejectsOthers h call := by
  constructor
  · intro hd device hm hlive
    have hne : device ≠ sessionsMax := fun he => hd (hm.trans (congrArg some he))
    rcases handle_cases hh.wellFormed hne with hv | hi
    · exact ⟨perform_invalid hm hv, entriesRead_lt hne hv⟩
    · exact absurd ((hh.live_iff device).mpr hi) hlive
  · intro hr hd
    have hlive : (sessionsMax : Int) ∉ h.live := by
      rw [hh.live_iff]
      rintro ⟨i, c, he, hi⟩
      exact absurd hi.1 (Int.ofNat.inj he ▸ Nat.lt_irrefl _)
    exact Nat.lt_irrefl _ ((hr _ hd hlive).2 _ (mem_entriesRead_sessionsMax _))

/-- Whatever values an application passes, those that are no live handle are
rejected safely if and only if none of them is SESSIONS_MAX. -/
theorem handles_rejected_iff (session : Nat → Session) (w : σ) (calls : List (Call σ)) :
    Along step RejectsOthers ⟨initial session w, []⟩ calls ↔
      Along step (fun _ call => call.device ≠ some (sessionsMax : Int)) ⟨initial session w, []⟩
        calls :=
  (along_congr_of_invariant (fun _ _ _ hh hd hstep => step_tracked hh hd hstep)
    (fun _ call hh => rejectsOthers_iff hh call) (tracked_initial session w) calls).symm

def behind : Session := ⟨true, true, some 7, some .tcp, some .tcp, some .tcp, some .tcp⟩

theorem handle_beyond_served :
    (∃ s', perform (initial (fun _ => behind) ())
        (.disconnect sessionsMax fun _ _ w => some (0, w)) = some (lxiOk, s') ∧
      s'.log = [.free (some 7), .call .disconnect (some .tcp) (some 7)]) ∧
    ¬ Along step RejectsOthers ⟨initial (fun _ => behind) (), []⟩
      [.disconnect sessionsMax fun _ _ w => some (0, w)] := by
  constructor
  · exact ⟨_, rfl, rfl⟩
  · rintro ⟨h, -⟩
    exact (rejectsOthers_iff (tracked_initial _ _) _).mpr h rfl

end LibLxi.HandleGuard

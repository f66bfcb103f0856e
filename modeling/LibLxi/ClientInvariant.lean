import LibLxi.Application
import LibLxi.SessionInvariant

namespace LibLxi.ClientInvariant

open Application Lxi SessionInvariant

variable {σ : Type} {s s' : State σ} {r : Int}

theorem lxiConnect_lt {connect : Effect σ} {protocol : Protocol}
    (h : lxiConnect connect protocol s = some (r, s')) (hr : 0 ≤ r) : r < sessionsMax := by
  obtain ⟨i, backend, w, rfl, hi, -, -⟩ := lxiConnect_issued h hr
  exact_mod_cast (freeSession_some.mp hi).1

/-- A connect with a supported protocol returns a handle exactly when an entry is
free and the backend's connect returns 0. -/
theorem lxiConnect_handle_iff {connect : Effect σ} {protocol : Protocol} {backend : Backend}
    {n : Int} {w : σ}
    (hb : backendOf protocol = some backend)
    (heffect : connect (some backend) (some s.nextBlock) s.world = some (n, w)) :
    (∃ r s', lxiConnect connect protocol s = some (r, s') ∧ 0 ≤ r) ↔
      freeSession s.session ≠ none ∧ n = 0 := by
  cases hi : freeSession s.session with
  | none => simp [lxiConnect_full hi, lxiError]
  | some i =>
      rw [lxiConnect_supported hi hb, heffect, Option.map_some]
      by_cases h0 : n = 0
      · simp [h0]
      · simp [h0, lxiError]

theorem issues_lt {call : Call σ} (h : Application.perform s call = some (r, s')) :
    ∀ device ∈ issues call r, 0 ≤ device ∧ device < sessionsMax := by
  intro device hd
  rw [issues] at hd
  split at hd
  · rename_i hc
    rw [List.mem_singleton] at hd
    subst device
    cases call with
    | connect protocol effect =>
        have h : lxiConnect effect protocol s = some (r, s') := h
        exact ⟨hc.2, lxiConnect_lt h hc.2⟩
    | send | receive | disconnect => cases hc.1
  · simp at hd

theorem handle_cases (hs : WellFormed s) {device : Int} (hd : device ≠ sessionsMax) :
    isValidSession s.session device = false ∨ ∃ (i : Nat) (c : Conn), device = i ∧ Live s i c := by
  cases hv : isValidSession s.session device with
  | false => exact .inl rfl
  | true =>
      obtain ⟨h0, c, hc⟩ := (isValidSession_iff hs hd).mp hv
      exact .inr ⟨device.toNat, c, (Int.toNat_of_nonneg h0).symm, hc⟩

inductive Outcome (s : State σ) : Call σ → Int → State σ → Prop
  | connected {protocol : Protocol} {effect : Effect σ} {r : Int} {s' : State σ}
      (h : lxiConnect effect protocol s = some (r, s')) :
      Outcome s (.connect protocol effect) r s'
  | rejected {call : Call σ} (h : call.device ≠ none) : Outcome s call lxiError s
  | sent {i : Nat} {c : Conn} {effect : Effect σ} {n : Int} {w : σ} (hc : Live s i c)
      (h : effect (some c.backend) (some c.block) s.world = some (n, w)) :
      Outcome s (.send i effect) (transferResult n) (called s .send c w)
  | received {i : Nat} {c : Conn} {effect : Effect σ} {n : Int} {w : σ} (hc : Live s i c)
      (h : effect (some c.backend) (some c.block) s.world = some (n, w)) :
      Outcome s (.receive i effect) (transferResult n) (called s .receive c w)
  | disconnected {i : Nat} {c : Conn} {effect : Effect σ} {n : Int} {w : σ} (hc : Live s i c)
      (h : effect (some c.backend) (some c.block) s.world = some (n, w)) :
      Outcome s (.disconnect i effect) lxiOk (disconnectDone s i c w)

theorem perform_outcome (hs : WellFormed s) {call : Call σ}
    (hd : ∀ device ∈ call.device, device ≠ sessionsMax)
    (h : Application.perform s call = some (r, s')) : Outcome s call r s' := by
  cases call with
  | connect protocol effect => exact .connected h
  | send device effect =>
      have h : lxiSend effect device s = some (r, s') := h
      rcases handle_cases hs (hd device rfl) with hv | ⟨i, c, rfl, hc⟩
      · rw [lxiSend_invalid hv] at h
        cases h
        exact .rejected (by simp [Call.device])
      · rw [lxiSend_live hc] at h
        obtain ⟨x, hx, h⟩ := Option.map_eq_some_iff.mp h
        cases h
        exact .sent hc hx
  | receive device effect =>
      have h : lxiReceive effect device s = some (r, s') := h
      rcases handle_cases hs (hd device rfl) with hv | ⟨i, c, rfl, hc⟩
      · rw [lxiReceive_invalid hv] at h
        cases h
        exact .rejected (by simp [Call.device])
      · rw [lxiReceive_live hc] at h
        obtain ⟨x, hx, h⟩ := Option.map_eq_some_iff.mp h
        cases h
        exact .received hc hx
  | disconnect device effect =>
      have h : lxiDisconnect effect device s = some (r, s') := h
      rcases handle_cases hs (hd device rfl) with hv | ⟨i, c, rfl, hc⟩
      · rw [lxiDisconnect_invalid hv] at h
        cases h
        exact .rejected (by simp [Call.device])
      · rw [lxiDisconnect_live hc] at h
        obtain ⟨x, hx, h⟩ := Option.map_eq_some_iff.mp h
        cases h
        exact .disconnected hc hx

theorem Outcome.wellFormed (hs : WellFormed s) {call : Call σ} (h : Outcome s call r s') :
    WellFormed s' := by
  cases h with
  | connected h => exact lxiConnect_wellFormed hs h
  | rejected => exact hs
  | sent hc | received hc => exact hs.called hc _
  | disconnected hc => exact hs.disconnectDone hc

theorem perform_wellFormed (hs : WellFormed s) {call : Call σ}
    (hd : ∀ device ∈ call.device, device ≠ sessionsMax)
    (h : Application.perform s call = some (r, s')) : WellFormed s' :=
  (perform_outcome hs hd h).wellFormed hs

structure Sound (c : Client (State σ)) : Prop where
  wellFormed : WellFormed c.lib
  issued : ∀ device ∈ c.issued, 0 ≤ device ∧ device < sessionsMax

theorem Sound.guard {c : Client (State σ)} (hc : Sound c) {call : Call σ}
    (h : ∀ device ∈ call.device, device ∈ c.issued) :
    ∀ device ∈ call.device, device ≠ sessionsMax :=
  fun device hm => Int.ne_of_lt (hc.issued device (h device hm)).2

theorem sound_initial (session : Nat → Session) (w : σ) :
    Sound (⟨initial session w, [], []⟩ : Client (State σ)) :=
  ⟨wellFormed_initial session w, by simp⟩

theorem step_sound {c c' : Client (State σ)} (hc : Sound c) {call : Call σ}
    (h : step Application.perform c call = some c') : Sound c' := by
  obtain ⟨hguard, r, s', hperform, rfl⟩ := step_eq_some.mp h
  refine ⟨perform_wellFormed hc.wellFormed (hc.guard hguard) hperform, fun device hm => ?_⟩
  exact (List.mem_append.mp hm).elim (issues_lt hperform device) (hc.issued device)

end LibLxi.ClientInvariant

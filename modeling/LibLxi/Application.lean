import LibLxi.Lxi
import LibLxi.Machine

namespace LibLxi.Application

open Lxi

variable {σ L : Type}

/-- One call of an application, with what the backend function it reaches does. -/
inductive Call (σ : Type)
  | connect (protocol : Protocol) (effect : Effect σ)
  | send (device : Int) (effect : Effect σ)
  | receive (device : Int) (effect : Effect σ)
  | disconnect (device : Int) (effect : Effect σ)

def Call.device : Call σ → Option Int
  | .connect _ _ => none
  | .send device _ => some device
  | .receive device _ => some device
  | .disconnect device _ => some device

/-- The call does not pass the index behind the array. -/
def Call.Inside (call : Call σ) : Prop := ∀ device ∈ call.device, device ≠ sessionsMax

instance (call : Call σ) : Decidable call.Inside :=
  inferInstanceAs (Decidable (∀ device ∈ call.device, device ≠ sessionsMax))

def perform (s : State σ) : Call σ → Option (Int × State σ)
  | .connect protocol effect => lxiConnect effect protocol s
  | .send device effect => lxiSend effect device s
  | .receive device effect => lxiReceive effect device s
  | .disconnect device effect => lxiDisconnect effect device s

structure Client (L : Type) where
  lib : L
  results : List Int
  issued : List Int

def issues (call : Call σ) (r : Int) : List Int :=
  if call.device = none ∧ 0 ≤ r then [r] else []

/-- The application passes only values some earlier lxi_connect returned. -/
def step (perform : L → Call σ → Option (Int × L)) (c : Client L) (call : Call σ) :
    Option (Client L) :=
  if ∀ device ∈ call.device, device ∈ c.issued then
    (perform c.lib call).map fun x => ⟨x.2, x.1 :: c.results, issues call x.1 ++ c.issued⟩
  else none

theorem step_eq_some {perform : L → Call σ → Option (Int × L)} {c c' : Client L} {call : Call σ} :
    step perform c call = some c' ↔
      (∀ device ∈ call.device, device ∈ c.issued) ∧
        ∃ r lib, perform c.lib call = some (r, lib) ∧
          c' = ⟨lib, r :: c.results, issues call r ++ c.issued⟩ := by
  rw [step, Option.ite_none_right_eq_some, Option.map_eq_some_iff]
  apply and_congr_right
  intro _
  constructor
  · rintro ⟨⟨r, lib⟩, hperform, rfl⟩
    exact ⟨r, lib, hperform, rfl⟩
  · rintro ⟨r, lib, hperform, rfl⟩
    exact ⟨(r, lib), hperform, rfl⟩

end LibLxi.Application

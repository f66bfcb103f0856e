import LibLxi.Backends
import LibLxi.SessionInvariant

namespace LibLxi.RawPieces

open Backends Lxi Memory SessionInvariant Tcp

instance nontrivial_uint8 : Nontrivial UInt8 := ⟨0, 1, by decide⟩

def pieceSizes (results : List Transfer) : List Nat :=
  results.filterMap fun
    | .count 0 => none
    | .count (n + 1) => some (n + 1)
    | .error _ => none

theorem pieceSizes_pos (results : List Transfer) : ∀ n ∈ pieceSizes results, 0 < n := by
  intro n hn
  obtain ⟨t, -, ht⟩ := List.mem_filterMap.mp hn
  split at ht <;> simp at ht
  omega

theorem pieceSizes_count {n : Nat} (hn : 0 < n) (results : List Transfer) :
    pieceSizes (.count n :: results) = n :: pieceSizes results := by
  cases n with
  | zero => omega
  | succ n => rfl

def undelivered (w : World) (b : Block) : List UInt8 := w.pending (w.tcp b).serverSocket

def handedOver (w : World) (b : Block) : List UInt8 := w.handed (w.tcp b).serverSocket

def rawSession (stream : List UInt8) : State World :=
  connectDone (initial default (quiet stream)) 0 ⟨.tcp, 0⟩ (quiet stream)

theorem rawSession_live (stream : List UInt8) : Live (rawSession stream) 0 ⟨.tcp, 0⟩ :=
  ⟨by decide, by simp [rawSession, connectDone]⟩

end LibLxi.RawPieces

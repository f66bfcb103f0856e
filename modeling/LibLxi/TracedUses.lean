import LibLxi.Descriptors
import LibLxi.Tracing

namespace LibLxi.TracedUses

open Descriptors Tracing

variable {D E R α β : Type} [DecidableEq D] {valid : D → Prop} {own : Finset D}
  {f : E → Option (Use D)}

omit [DecidableEq D] in
theorem quiet_foldlM {f : E → Option β} {g : α → D → Trace E R α}
    (h : ∀ a d, Quiet f (g a d)) (a : α) (ds : List D) : Quiet f (ds.foldlM g a) := by
  induction ds generalizing a with
  | nil => exact quiet_pure a
  | cons d ds ih =>
      rw [List.foldlM_cons]
      exact (h a d).bind fun a' => ih a'

theorem closesOwn_of_quiet {t : Trace E R α} (h : Quiet f t) :
    ClosesOwn valid own (t.events.filterMap f) := by
  rw [h]
  exact trivial

theorem closesOwn_bind {t : Trace E R α} {k : α → Trace E R β}
    (ht : ClosesOwn valid own (t.events.filterMap f))
    (hk : ∀ a, ClosesOwn valid own ((k a).events.filterMap f)) :
    ClosesOwn valid own ((t >>= k).events.filterMap f) := by
  cases h : t.result with
  | error r =>
      rw [bind_error h]
      exact ht
  | ok a =>
      rw [bind_ok h, List.filterMap_append]
      exact ht.append (hk a)

theorem closesOwn_forM {g : α → Trace E R PUnit} {as : List α}
    (h : ∀ a ∈ as, ClosesOwn valid own ((g a).events.filterMap f)) :
    ClosesOwn valid own ((as.forM g).events.filterMap f) := by
  induction as with
  | nil => exact trivial
  | cons a as ih =>
      rw [List.forall_mem_cons] at h
      exact closesOwn_bind h.1 fun _ => ih h.2

end LibLxi.TracedUses

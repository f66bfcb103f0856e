import LibLxi.Memory
import Mathlib.Algebra.BigOperators.Group.List.Basic

namespace LibLxi.Spans

open Memory

variable {α : Type}

abbrev Layout := List (Int × Nat)

/-- Every piece starts where the pieces before it end. -/
def running (start : Int) : List Nat → Layout
  | [] => []
  | n :: ns => (start, n) :: running (start + n) ns

@[simp] theorem running_length (start : Int) (ns : List Nat) :
    (running start ns).length = ns.length := by
  induction ns generalizing start with
  | nil => rfl
  | cons n ns ih => rw [running, List.length_cons, List.length_cons, ih]

/-- Every piece starts at the size of the piece before it, whatever came
before that one. -/
def lagging (last : Int) : List Nat → Layout
  | [] => []
  | n :: ns => (last, n) :: lagging n ns

def storeSpans (m : Cells α) (source : List α) : Layout → Cells α
  | [] => m
  | (pos, n) :: spans => storeSpans (store m pos (source.take n)) (source.drop n) spans

def readSpans (m : Cells α) (spans : Layout) : List α := spans.flatMap fun s => read m s.1 s.2

theorem readSpans_cons (m : Cells α) (pos : Int) (n : Nat) (spans : Layout) :
    readSpans m ((pos, n) :: spans) = read m pos n ++ readSpans m spans := rfl

theorem readSpans_running (m : Cells α) (pos : Int) (ns : List Nat) :
    readSpans m (running pos ns) = read m pos ns.sum := by
  induction ns generalizing pos with
  | nil => rfl
  | cons n ns ih => rw [running, readSpans_cons, ih, List.sum_cons, read_add]

theorem storeSpans_outside (m : Cells α) (source : List α) (spans : Layout) {i : Int}
    (h : ∀ s ∈ spans, i < s.1 ∨ s.1 + s.2 ≤ i) : storeSpans m source spans i = m i := by
  induction spans generalizing m source with
  | nil => rfl
  | cons s spans ih =>
      have hlen : (source.take s.2).length ≤ s.2 := by simp
      have hs := h s (by simp)
      rw [storeSpans, ih _ _ fun t ht => h t (List.mem_cons_of_mem _ ht),
        store_outside _ _ _ (by omega)]

theorem running_bounds {pos : Int} {ns : List Nat} {s : Int × Nat} (h : s ∈ running pos ns) :
    pos ≤ s.1 ∧ s.1 + s.2 ≤ pos + ns.sum := by
  induction ns generalizing pos with
  | nil => simp [running] at h
  | cons n ns ih =>
      rw [List.sum_cons]
      rcases List.mem_cons.mp h with rfl | h
      · dsimp only
        omega
      · obtain ⟨hl, hu⟩ := ih h
        omega

theorem read_storeSpans_running (m : Cells α) (pos : Int) (ns : List Nat) (source : List α)
    (hsource : ns.sum ≤ source.length) :
    read (storeSpans m source (running pos ns)) pos ns.sum = source.take ns.sum := by
  induction ns generalizing m pos source with
  | nil => rfl
  | cons n ns ih =>
      rw [List.sum_cons] at hsource ⊢
      have htail := ih (store m pos (source.take n)) (pos + n) (source.drop n)
        (by rw [List.length_drop]; omega)
      have hhead :
          read (storeSpans (store m pos (source.take n)) (source.drop n) (running (pos + n) ns))
            pos n = source.take n := by
        rw [read_congr fun i _ hu => storeSpans_outside _ _ _ fun s hs =>
          .inl (lt_of_lt_of_le hu (running_bounds hs).1)]
        have hread := read_store m pos (source.take n)
        rwa [List.length_take, Nat.min_eq_left (by omega)] at hread
      rw [read_add, running, storeSpans, hhead, htail, List.take_add]

theorem lagging_end_lt {last : Int} (total : Int) (hlast : 0 ≤ last) (htotal : last < total)
    {ns : List Nat} {s : Int × Nat} (h : s ∈ lagging last ns) : s.1 + s.2 < total + ns.sum := by
  induction ns generalizing last total with
  | nil => simp [lagging] at h
  | cons n ns ih =>
      rw [List.sum_cons]
      rcases List.mem_cons.mp h with rfl | h
      · dsimp only
        omega
      · have hs := ih (total + n) (by omega) (by omega) h
        omega

theorem lagging_nonneg {last : Int} (hlast : 0 ≤ last) {ns : List Nat} {s : Int × Nat}
    (h : s ∈ lagging last ns) : 0 ≤ s.1 := by
  induction ns generalizing last with
  | nil => cases h
  | cons n ns ih =>
      rcases List.mem_cons.mp h with rfl | h
      · exact hlast
      · exact ih (Int.natCast_nonneg n) h

theorem lagging_misses_end {ns : List Nat} (hpos : ∀ n ∈ ns, 0 < n) (hlen : 2 < ns.length)
    {s : Int × Nat} (h : s ∈ lagging 0 ns) : s.1 + s.2 < ns.sum := by
  obtain ⟨a, b, c, ns, rfl⟩ : ∃ a b c ms, ns = a :: b :: c :: ms := by
    match ns, hlen with
    | a :: b :: c :: ms, _ => exact ⟨a, b, c, ms, rfl⟩
  have ha := hpos a (by simp)
  have hb := hpos b (by simp)
  have hc := hpos c (by simp)
  simp only [List.sum_cons]
  rw [lagging, lagging, List.mem_cons, List.mem_cons] at h
  rcases h with rfl | rfl | h
  · dsimp only
    omega
  · dsimp only
    omega
  -- the third piece starts at b where the total is already a + b
  · have hs := lagging_end_lt (a + b : Nat) (by omega) (by omega) h
    rw [List.sum_cons] at hs
    omega

theorem lagging_eq_running_iff {ns : List Nat} (hpos : ∀ n ∈ ns, 0 < n) :
    lagging 0 ns = running 0 ns ↔ ns.length ≤ 2 := by
  match ns with
  | [] => simp [lagging, running]
  | [a] => simp [lagging, running]
  | [a, b] => simp [lagging, running]
  | a :: b :: c :: ns =>
      have ha := hpos a (by simp)
      simp [lagging, running]
      omega

def Covers (spans : Layout) (i : Int) : Prop := ∃ s ∈ spans, s.1 ≤ i ∧ i < s.1 + s.2

theorem covers_cons {pos : Int} {n : Nat} {spans : Layout} {i : Int} :
    Covers ((pos, n) :: spans) i ↔ pos ≤ i ∧ i < pos + n ∨ Covers spans i := by
  simp only [Covers, List.exists_mem_cons_iff]

/-- A lagging transfer leaves no gap: every piece starts inside or right behind
the piece before it. -/
theorem lagging_covers_below {last : Int} (hlast : 0 ≤ last) {ns : List Nat} {i j : Int}
    (h : Covers (lagging last ns) i) (hl : last ≤ j) (hu : j ≤ i) : Covers (lagging last ns) j := by
  induction ns generalizing last with
  | nil =>
      obtain ⟨s, hs, -⟩ := h
      cases hs
  | cons n ns ih =>
      rw [lagging, covers_cons] at h ⊢
      rcases h with ⟨-, hend⟩ | h
      · exact .inl ⟨hl, by omega⟩
      · by_cases hj : j < n
        · exact .inl ⟨hl, by omega⟩
        · exact .inr (ih (Int.natCast_nonneg n) h (by omega))

theorem lagging_covers_bounds {ns : List Nat} {i : Int} (h : Covers (lagging 0 ns) i) :
    0 ≤ i ∧ i < ns.sum := by
  obtain ⟨s, hs, hl, hu⟩ := h
  have hend := lagging_end_lt 1 (le_refl 0) one_pos hs
  have hstart := lagging_nonneg (le_refl 0) hs
  omega

section Lagging

variable [Nontrivial α] {ns : List Nat}

theorem sum_pos_of_two_lt (hpos : ∀ n ∈ ns, 0 < n) (hlen : 2 < ns.length) : 0 < ns.sum := by
  cases ns with
  | nil => simp at hlen
  | cons n ns =>
      have hn := hpos n (by simp)
      rw [List.sum_cons]
      omega

/-- Storing a transfer piece by piece at lagging positions fills the target
with the source whatever it held, exactly for at most two pieces. -/
theorem read_storeSpans_lagging_iff (hpos : ∀ n ∈ ns, 0 < n) {source : List α}
    (hsource : ns.sum ≤ source.length) :
    (∀ m : Cells α, read (storeSpans m source (lagging 0 ns)) 0 ns.sum = source.take ns.sum) ↔
      ns.length ≤ 2 := by
  constructor
  · intro h
    by_contra hlen
    have hlen : 2 < ns.length := by omega
    have hsum := sum_pos_of_two_lt hpos hlen
    -- a target that holds anything but the source's last element keeps it there
    obtain ⟨x, hx⟩ := exists_ne (source.get ⟨ns.sum - 1, by omega⟩)
    have hlast := congrArg (fun bytes : List α => bytes[ns.sum - 1]?) (h fun _ => x)
    rw [getElem?_read _ _ (by omega), storeSpans_outside _ _ _ fun s hs =>
      .inr (by have := lagging_misses_end hpos hlen hs; omega),
      List.getElem?_take_of_lt (by omega), List.getElem?_eq_getElem (by omega)] at hlast
    exact hx (Option.some.inj hlast)
  · intro hlen m
    rw [(lagging_eq_running_iff hpos).mpr hlen, read_storeSpans_running _ _ _ _ hsource]

theorem readSpans_lagging_iff (hpos : ∀ n ∈ ns, 0 < n) :
    (∀ m : Cells α, readSpans m (lagging 0 ns) = read m 0 ns.sum) ↔ ns.length ≤ 2 := by
  constructor
  · intro h
    by_contra hlen
    have hlen : 2 < ns.length := by omega
    have hsum := sum_pos_of_two_lt hpos hlen
    -- nothing reads the y in the last place
    obtain ⟨x, y, hxy⟩ := exists_pair_ne α
    have hy : y ∈ read (Function.update (fun _ => x) ((ns.sum : Int) - 1) y) 0 ns.sum :=
      mem_read.mpr ⟨(ns.sum : Int) - 1, by omega, by omega, Function.update_self _ _ _⟩
    rw [← h, readSpans, List.mem_flatMap] at hy
    obtain ⟨s, hs, hy⟩ := hy
    obtain ⟨i, -, hi, hy⟩ := mem_read.mp hy
    have hend := lagging_misses_end hpos hlen hs
    rw [Function.update_of_ne (by omega)] at hy
    exact hxy hy
  · intro hlen m
    rw [(lagging_eq_running_iff hpos).mpr hlen, readSpans_running]

end Lagging

end LibLxi.Spans

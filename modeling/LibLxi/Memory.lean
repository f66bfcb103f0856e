import Mathlib.Logic.Function.Basic
import Mathlib.Tactic.Ring

namespace LibLxi.Memory

variable {α : Type}

/-- The cells around a pointer, addressed by their signed distance from it, so
that a store in front of the pointer or behind its buffer has a cell too. -/
abbrev Cells (α : Type) := Int → α

def read (m : Cells α) (pos : Int) : Nat → List α
  | 0 => []
  | n + 1 => m pos :: read m (pos + 1) n

def store (m : Cells α) (pos : Int) : List α → Cells α
  | [] => m
  | b :: bs => store (Function.update m pos b) (pos + 1) bs

def cString (m : Cells UInt8) (pos : Int) : Nat → Option (List UInt8)
  | 0 => none
  | n + 1 => if m pos = 0 then some [] else (cString m (pos + 1) n).map (m pos :: ·)

def cellsOf (bs : List UInt8) : Cells UInt8 := store (fun _ => 0) 0 bs

/-- The buffer begins with these bytes and a zero behind them. -/
structure Terminated (m : Cells UInt8) (bs : List UInt8) : Prop where
  text : read m 0 bs.length = bs
  zero : m bs.length = 0

@[simp] theorem read_zero (m : Cells α) (pos : Int) : read m pos 0 = [] := rfl

@[simp] theorem store_nil (m : Cells α) (pos : Int) : store m pos [] = m := rfl

@[simp] theorem read_length (m : Cells α) (pos : Int) (n : Nat) : (read m pos n).length = n := by
  induction n generalizing pos with
  | zero => rfl
  | succ n ih => simp [read, ih]

theorem read_add (m : Cells α) (pos : Int) (n k : Nat) :
    read m pos (n + k) = read m pos n ++ read m (pos + n) k := by
  induction n generalizing pos with
  | zero => simp
  | succ n ih =>
      rw [Nat.add_right_comm, read, read, ih, List.cons_append]
      simp only [Nat.cast_add, Nat.cast_one, add_assoc, add_comm (1 : Int)]

theorem read_congr {m m' : Cells α} {pos : Int} {n : Nat}
    (h : ∀ i, pos ≤ i → i < pos + n → m i = m' i) : read m pos n = read m' pos n := by
  induction n generalizing pos with
  | zero => rfl
  | succ n ih =>
      have hhead : m pos = m' pos := h pos (le_refl _) (by omega)
      have htail : read m (pos + 1) n = read m' (pos + 1) n :=
        ih fun i hl hu => h i (by omega) (by omega)
      rw [read, read, hhead, htail]

theorem getElem?_read (m : Cells α) (pos : Int) {n k : Nat} (h : k < n) :
    (read m pos n)[k]? = some (m (pos + k)) := by
  induction n generalizing pos k with
  | zero => omega
  | succ n ih =>
      cases k with
      | zero => simp [read]
      | succ k =>
          rw [read, List.getElem?_cons_succ, ih _ (by omega)]
          push_cast
          rw [add_assoc, add_comm (1 : Int)]

theorem mem_read {m : Cells α} {pos : Int} {n : Nat} {b : α} :
    b ∈ read m pos n ↔ ∃ i, pos ≤ i ∧ i < pos + n ∧ m i = b := by
  induction n generalizing pos with
  | zero => simp only [read, List.not_mem_nil, false_iff]; rintro ⟨i, hl, hu, -⟩; omega
  | succ n ih =>
      rw [read, List.mem_cons, ih]
      constructor
      · rintro (rfl | ⟨i, hl, hu, hb⟩)
        · exact ⟨pos, le_refl _, by omega, rfl⟩
        · exact ⟨i, by omega, by omega, hb⟩
      · rintro ⟨i, hl, hu, rfl⟩
        by_cases hi : i = pos
        · exact .inl (congrArg m hi)
        · exact .inr ⟨i, by omega, by omega, rfl⟩

theorem store_outside (m : Cells α) (pos : Int) (bs : List α) {i : Int}
    (h : i < pos ∨ pos + bs.length ≤ i) : store m pos bs i = m i := by
  induction bs generalizing m pos with
  | nil => rfl
  | cons b bs ih =>
      simp only [List.length_cons] at h
      rw [store, ih _ _ (by omega), Function.update_of_ne (by omega)]

theorem read_store (m : Cells α) (pos : Int) (bs : List α) :
    read (store m pos bs) pos bs.length = bs := by
  induction bs generalizing m pos with
  | nil => rfl
  | cons b bs ih =>
      have hhead : store m pos (b :: bs) pos = b := by
        rw [store, store_outside _ _ _ (.inl (by omega)), Function.update_self]
      rw [List.length_cons, read, hhead, store, ih]

theorem store_append (m : Cells α) (pos : Int) (as bs : List α) :
    store m pos (as ++ bs) = store (store m pos as) (pos + as.length) bs := by
  induction as generalizing m pos with
  | nil => simp
  | cons a as ih =>
      have hpos : pos + ((a :: as).length : Int) = pos + 1 + as.length := by
        push_cast [List.length_cons]
        ring
      rw [List.cons_append, store, ih, hpos, store]

theorem read_store_behind (m : Cells α) (n : Nat) (bs : List α) :
    read (store m n bs) 0 (n + bs.length) = read m 0 n ++ bs := by
  have hbefore : read (store m n bs) 0 n = read m 0 n := by
    apply read_congr
    intro i _ hi
    exact store_outside _ _ _ (.inl (by omega))
  rw [read_add, hbefore, zero_add, read_store]

theorem Terminated.append {m : Cells UInt8} {bs : List UInt8} {n : Nat} (h : read m 0 n = bs)
    (cs : List UInt8) : Terminated (store m n (cs ++ [0])) (bs ++ cs) := by
  have hlength : (bs ++ cs).length = n + cs.length := by
    rw [← h, List.length_append, read_length]
  have hbehind := read_store_behind m n (cs ++ [0])
  rw [List.length_append, ← Nat.add_assoc, read_add, h, ← List.append_assoc] at hbehind
  obtain ⟨htext, hzero⟩ := List.append_inj' hbehind rfl
  constructor
  · rw [hlength, htext]
  · rw [zero_add] at hzero
    rw [hlength]
    exact List.singleton_inj.mp hzero

theorem Terminated.store {m : Cells UInt8} {bs : List UInt8} {n : Nat} (h : read m 0 n = bs) :
    Terminated (store m n [0]) bs := by
  have hends := Terminated.append h []
  rwa [List.append_nil] at hends

section CString

variable {m : Cells UInt8} {pos : Int} {n : Nat}

theorem cString_eq_none : cString m pos n = none ↔ ∀ i, pos ≤ i → i < pos + n → m i ≠ 0 := by
  induction n generalizing pos with
  | zero =>
      refine iff_of_true rfl ?_
      intro i hl hu
      omega
  | succ n ih =>
      rw [cString]
      split_ifs with hzero
      · refine iff_of_false (by simp) fun h => ?_
        exact h pos (le_refl _) (by omega) hzero
      · rw [Option.map_eq_none_iff, ih]
        constructor
        · intro h i hl hu
          by_cases hi : i = pos
          · rwa [hi]
          · exact h i (by omega) (by omega)
        · intro h i hl hu
          exact h i (by omega) (by omega)

theorem cString_some {text : List UInt8} (h : cString m pos n = some text) :
    text.length < n ∧ read m pos text.length = text ∧ m (pos + text.length) = 0 ∧
      ∀ i, pos ≤ i → i < pos + text.length → m i ≠ 0 := by
  induction n generalizing pos text with
  | zero => cases h
  | succ n ih =>
      rw [cString] at h
      split_ifs at h with hzero
      · cases h
        refine ⟨Nat.succ_pos n, rfl, by simpa using hzero, ?_⟩
        intro i hl hu
        simp only [List.length_nil] at hu
        omega
      · obtain ⟨rest, hrest, rfl⟩ := Option.map_eq_some_iff.mp h
        obtain ⟨hlength, hread, hend, hnonzero⟩ := ih hrest
        simp only [List.length_cons]
        refine ⟨Nat.succ_lt_succ hlength, ?_, ?_, ?_⟩
        · rw [read, hread]
        · push_cast
          rwa [add_comm (rest.length : Int), ← add_assoc]
        · intro i hl hu
          by_cases hi : i = pos
          · rwa [hi]
          · exact hnonzero i (by omega) (by omega)

end CString

end LibLxi.Memory

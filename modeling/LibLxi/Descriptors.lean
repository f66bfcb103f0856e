import Mathlib.Order.Interval.Finset.Basic
import Mathlib.Data.Int.Interval
import Mathlib.Data.Fintype.EquivFin

namespace LibLxi.Descriptors

variable {D : Type} [DecidableEq D]

inductive Use (D : Type)
  | opened (d : D)
  | closed (d : D)

def openAfter (s : Finset D) : List (Use D) → Finset D
  | [] => s
  | .opened d :: us => openAfter (insert d s) us
  | .closed d :: us => openAfter (s.erase d) us

def ClosesOpen (s : Finset D) : List (Use D) → Prop
  | [] => True
  | .opened d :: us => ClosesOpen (insert d s) us
  | .closed d :: us => d ∈ s ∧ ClosesOpen (s.erase d) us

@[simp] theorem openAfter_nil (s : Finset D) : openAfter s [] = s := rfl

@[simp] theorem openAfter_opened (s : Finset D) (d : D) (us : List (Use D)) :
    openAfter s (.opened d :: us) = openAfter (insert d s) us := rfl

@[simp] theorem openAfter_closed (s : Finset D) (d : D) (us : List (Use D)) :
    openAfter s (.closed d :: us) = openAfter (s.erase d) us := rfl

@[simp] theorem closesOpen_nil (s : Finset D) : ClosesOpen s [] := trivial

@[simp] theorem closesOpen_opened {s : Finset D} {d : D} {us : List (Use D)} :
    ClosesOpen s (.opened d :: us) ↔ ClosesOpen (insert d s) us := Iff.rfl

@[simp] theorem closesOpen_closed {s : Finset D} {d : D} {us : List (Use D)} :
    ClosesOpen s (.closed d :: us) ↔ d ∈ s ∧ ClosesOpen (s.erase d) us := Iff.rfl

theorem openAfter_append (s : Finset D) (us vs : List (Use D)) :
    openAfter s (us ++ vs) = openAfter (openAfter s us) vs := by
  induction us generalizing s with
  | nil => rfl
  | cons u us ih =>
      cases u with
      | opened d => exact ih _
      | closed d => exact ih _

theorem closesOpen_append {s : Finset D} {us vs : List (Use D)} :
    ClosesOpen s (us ++ vs) ↔ ClosesOpen s us ∧ ClosesOpen (openAfter s us) vs := by
  induction us generalizing s with
  | nil => simp
  | cons u us ih =>
      cases u with
      | opened d => exact ih
      | closed d =>
          simp only [List.cons_append, closesOpen_closed, openAfter_closed, ih, and_assoc]

theorem openAfter_pair {s : Finset D} {d : D} (hd : d ∉ s) :
    openAfter s [.opened d, .closed d] = s :=
  Finset.erase_insert hd

section Own

variable {valid : D → Prop} {s own : Finset D} {us vs : List (Use D)} {d : D}

/-- Whatever is opened is a valid descriptor that is not open already. -/
def Fresh (valid : D → Prop) (s : Finset D) : List (Use D) → Prop
  | [] => True
  | .opened d :: us => valid d ∧ d ∉ s ∧ Fresh valid (insert d s) us
  | .closed d :: us => Fresh valid (s.erase d) us

/-- Of the valid descriptors only such are closed that are the history's own or
become so when it opens them. -/
def ClosesOwn (valid : D → Prop) (own : Finset D) : List (Use D) → Prop
  | [] => True
  | .opened d :: us => ClosesOwn valid (insert d own) us
  | .closed d :: us => (valid d → d ∈ own) ∧ ClosesOwn valid own us

def closesOf (d : D) : List (Use D) → Nat
  | [] => 0
  | .opened e :: us => if e = d then 0 else closesOf d us
  | .closed e :: us => if e = d then closesOf d us + 1 else closesOf d us

theorem fresh_append : Fresh valid s (us ++ vs) ↔
    Fresh valid s us ∧ Fresh valid (openAfter s us) vs := by
  induction us generalizing s with
  | nil => simp [Fresh]
  | cons u us ih =>
      cases u with
      | opened d => simp only [List.cons_append, Fresh, openAfter_opened, ih, and_assoc]
      | closed d => exact ih

theorem ClosesOwn.mono (h : ClosesOwn valid own us) {own' : Finset D} (hsub : own ⊆ own') :
    ClosesOwn valid own' us := by
  induction us generalizing own own' with
  | nil => exact trivial
  | cons u us ih =>
      cases u with
      | opened d => exact ih h (Finset.insert_subset_insert d hsub)
      | closed d => exact ⟨fun hd => hsub (h.1 hd), ih h.2 hsub⟩

theorem ClosesOwn.append (hus : ClosesOwn valid own us) (hvs : ClosesOwn valid own vs) :
    ClosesOwn valid own (us ++ vs) := by
  induction us generalizing own with
  | nil => exact hvs
  | cons u us ih =>
      cases u with
      | opened d => exact ih hus (hvs.mono (Finset.subset_insert d own))
      | closed d => exact ⟨hus.1, ih hus.2 hvs⟩

theorem closesOf_eq_zero (hcloses : ClosesOwn valid own us) (hd : valid d) (hown : d ∉ own) :
    closesOf d us = 0 := by
  induction us generalizing own with
  | nil => rfl
  | cons u us ih =>
      cases u with
      | opened e =>
          rw [closesOf]
          split_ifs with he
          · rfl
          · exact ih hcloses (by simp [hown, Ne.symm he])
      | closed e =>
          have hne : e ≠ d := by
            rintro rfl
            exact hown (hcloses.1 hd)
          rw [closesOf, if_neg hne]
          exact ih hcloses.2 hown

end Own

section Holders

variable {H : Type} {holds holds' : H → D → Prop} {s : Finset D} {us : List (Use D)} {i : H} {d : D}

/-- Nobody holds a descriptor that is not open, or one that another holds. -/
structure Held (holds : H → D → Prop) (s : Finset D) : Prop where
  isOpen : ∀ {i d}, holds i d → d ∈ s
  distinct : ∀ {i j d}, holds i d → holds j d → i = j

omit [DecidableEq D] in
theorem held_of_none (h : ∀ i d, ¬ holds i d) : Held holds s :=
  ⟨fun hi => absurd hi (h _ _), fun hi => absurd hi (h _ _)⟩

omit [DecidableEq D] in
theorem Held.mono {s' : Finset D} (h : Held holds s) (hs : s ⊆ s')
    (hholds : ∀ j e, holds' j e ↔ holds j e) : Held holds' s' where
  isOpen hi := hs (h.isOpen ((hholds _ _).mp hi))
  distinct hi hj := h.distinct ((hholds _ _).mp hi) ((hholds _ _).mp hj)

theorem Held.opened (h : Held holds s) (hd : d ∉ s)
    (hholds : ∀ j e, holds' j e ↔ j = i ∧ e = d ∨ holds j e) : Held holds' (insert d s) where
  isOpen hj := by
    rcases (hholds _ _).mp hj with ⟨-, rfl⟩ | hj
    · exact Finset.mem_insert_self _ _
    · exact Finset.mem_insert_of_mem (h.isOpen hj)
  distinct {j k e} hj hk := by
    have hfree (k : H) : ¬ holds k d := fun hk => hd (h.isOpen hk)
    rw [hholds] at hj hk
    rcases hj with ⟨rfl, rfl⟩ | hj
    · exact hk.elim (fun hk => hk.1.symm) fun hk => absurd hk (hfree k)
    · rcases hk with ⟨rfl, rfl⟩ | hk
      · exact absurd hj (hfree j)
      · exact h.distinct hj hk

theorem Held.closed (h : Held holds s) (hi : holds i d)
    (hholds : ∀ j e, holds' j e ↔ j ≠ i ∧ holds j e) : Held holds' (s.erase d) where
  isOpen {j e} hj := by
    obtain ⟨hji, hj⟩ := (hholds _ _).mp hj
    refine Finset.mem_erase.mpr ⟨?_, h.isOpen hj⟩
    rintro rfl
    exact hji (h.distinct hj hi)
  distinct hj hk := h.distinct ((hholds _ _).mp hj).2 ((hholds _ _).mp hk).2

/-- Only open descriptors were closed, and open are exactly those that someone
holds. -/
structure Accounted (holds : H → D → Prop) (us : List (Use D)) : Prop where
  closes : ClosesOpen ∅ us
  held : ∀ d, d ∈ openAfter ∅ us ↔ ∃ i, holds i d

structure Balanced (holds : H → D → Prop) (us : List (Use D)) : Prop where
  closes : ClosesOpen ∅ us
  held : Held holds (openAfter ∅ us)
  holder : ∀ d ∈ openAfter ∅ us, ∃ i, holds i d

theorem Balanced.accounted (h : Balanced holds us) : Accounted holds us where
  closes := h.closes
  held d := by
    refine ⟨h.holder d, ?_⟩
    rintro ⟨i, hi⟩
    exact h.held.isOpen hi

theorem balanced_nil (h : ∀ i d, ¬ holds i d) : Balanced holds [] :=
  ⟨trivial, held_of_none h, fun d hd => absurd hd (Finset.notMem_empty d)⟩

theorem Balanced.congr (h : Balanced holds us) (hholds : ∀ j e, holds' j e ↔ holds j e) :
    Balanced holds' us where
  closes := h.closes
  held := h.held.mono Finset.Subset.rfl hholds
  holder d hd := by simpa only [hholds] using h.holder d hd

theorem Balanced.opened (h : Balanced holds us) (hd : d ∉ openAfter ∅ us)
    (hholds : ∀ j e, holds' j e ↔ j = i ∧ e = d ∨ holds j e) :
    Balanced holds' (us ++ [.opened d]) where
  closes := closesOpen_append.mpr ⟨h.closes, trivial⟩
  held := by
    rw [openAfter_append]
    exact h.held.opened hd hholds
  holder e he := by
    rw [openAfter_append] at he
    rcases Finset.mem_insert.mp he with rfl | he
    · exact ⟨i, (hholds _ _).mpr (.inl ⟨rfl, rfl⟩)⟩
    · obtain ⟨j, hj⟩ := h.holder e he
      exact ⟨j, (hholds _ _).mpr (.inr hj)⟩

theorem Balanced.closed (h : Balanced holds us) (hi : holds i d) (hfun : ∀ e, holds i e → e = d)
    (hholds : ∀ j e, holds' j e ↔ j ≠ i ∧ holds j e) : Balanced holds' (us ++ [.closed d]) where
  closes := closesOpen_append.mpr ⟨h.closes, h.held.isOpen hi, trivial⟩
  held := by
    rw [openAfter_append]
    exact h.held.closed hi hholds
  holder e he := by
    rw [openAfter_append] at he
    obtain ⟨hne, he⟩ := Finset.mem_erase.mp he
    obtain ⟨j, hj⟩ := h.holder e he
    refine ⟨j, (hholds _ _).mpr ⟨?_, hj⟩⟩
    rintro rfl
    exact hne (hfun e hj)

theorem Balanced.pair (h : Balanced holds us) (hd : d ∉ openAfter ∅ us) :
    Balanced holds (us ++ [.opened d, .closed d]) where
  closes := closesOpen_append.mpr ⟨h.closes, Finset.mem_insert_self _ _, trivial⟩
  held := by
    rw [openAfter_append, openAfter_pair hd]
    exact h.held
  holder e he := by
    rw [openAfter_append, openAfter_pair hd] at he
    exact h.holder e he

theorem Balanced.not_leaked (h : Balanced holds us) (hd : d ∉ openAfter ∅ us) :
    ¬ Accounted holds (us ++ [.opened d]) := by
  intro hleak
  have hopen : d ∈ openAfter ∅ (us ++ [.opened d]) := by simp [openAfter_append]
  obtain ⟨i, hi⟩ := (hleak.held d).mp hopen
  exact hd (h.held.isOpen hi)

end Holders

/-- A descriptor the system hands out next when it takes the lowest unused one. -/
structure LowestUnused (used : Finset Int) (d : Int) : Prop where
  nonneg : 0 ≤ d
  unused : d ∉ used
  below : ∀ e, 0 ≤ e → e < d → e ∈ used

theorem LowestUnused.unique {used : Finset Int} {d e : Int} (hd : LowestUnused used d)
    (he : LowestUnused used e) : d = e := by
  rcases lt_trichotomy d e with hlt | heq | hlt
  · exact absurd (he.below d hd.nonneg hlt) hd.unused
  · exact heq
  · exact absurd (hd.below e he.nonneg hlt) he.unused

theorem exists_unused (used : Finset Int) : ∃ n : Nat, (n : Int) ∉ used := by
  obtain ⟨n, hn⟩ := Infinite.exists_notMem_finset (used.image Int.toNat)
  exact ⟨n, fun h => hn (Finset.mem_image.mpr ⟨n, h, Int.toNat_natCast n⟩)⟩

def lowestUnused (used : Finset Int) : Int := (Nat.find (exists_unused used) : Nat)

theorem lowestUnused_spec (used : Finset Int) : LowestUnused used (lowestUnused used) := by
  refine ⟨Int.natCast_nonneg _, Nat.find_spec (exists_unused used), ?_⟩
  intro e h0 hlt
  obtain ⟨n, rfl⟩ := Int.eq_ofNat_of_zero_le h0
  rw [lowestUnused] at hlt
  exact not_not.mp (Nat.find_min (exists_unused used) (by omega))

def usedBelow (used : Finset Int) (n : Nat) : Nat :=
  ((Finset.range n).filter fun k : Nat => (k : Int) ∈ used).card

theorem LowestUnused.lt_iff_card {used : Finset Int} {d : Int} (h : LowestUnused used d) (n : Nat) :
    d < n ↔ usedBelow used n < n := by
  have hle : usedBelow used n ≤ n :=
    le_of_le_of_eq (Finset.card_filter_le _ _) (Finset.card_range n)
  have hall : usedBelow used n = n ↔ ∀ k ∈ Finset.range n, (k : Int) ∈ used := by
    rw [← Finset.card_filter_eq_iff, Finset.card_range, usedBelow]
  constructor
  · intro hd
    refine lt_of_le_of_ne hle fun heq => h.unused ?_
    obtain ⟨k, rfl⟩ := Int.eq_ofNat_of_zero_le h.nonneg
    exact hall.mp heq k (Finset.mem_range.mpr (by omega))
  · intro hlt
    by_contra hd
    refine hlt.ne (hall.mpr fun k hk => ?_)
    have hkn := Finset.mem_range.mp hk
    exact h.below k (Int.natCast_nonneg k) (by omega)

end LibLxi.Descriptors

import Mathlib.Data.List.Basic

namespace LibLxi.LinkLife

/-- The operations on a handle whose link has an identifier in L. The answer to
create_link is none if the call failed. -/
inductive Op (L : Type)
  | create
  | createLink (answer : Option L)
  | write (lid : L)
  | read (lid : L)
  | destroyLink (lid : L)
  | destroy
  deriving DecidableEq, Repr

variable {I C L : Type}

def Transfers (lid : L) (ops : List (Op L)) : Prop := ∀ op ∈ ops, op = .write lid ∨ op = .read lid

inductive Life : List (Op L) → Prop
  | refused : Life [.create, .createLink none, .destroy]
  | linked (lid : L) (transfers : List (Op L)) (h : Transfers lid transfers) :
      Life ([.create, .createLink (some lid)] ++ transfers ++ [.destroyLink lid, .destroy])

def Closed (ops : List (Op L)) : Prop :=
  ∃ lives : List (List (Op L)), (∀ life ∈ lives, Life life) ∧ ops = lives.flatten

def Open (lid : L) (ops : List (Op L)) : Prop :=
  ∃ before transfers, Closed before ∧ Transfers lid transfers ∧
    ops = before ++ ([.create, .createLink (some lid)] ++ transfers)

def Conforms (ops : List (Op L)) : Prop := Closed ops ∨ ∃ lid, Open lid ops

variable [DecidableEq C]

def opsOn (c : C) (log : List (C × Op L)) : List (Op L) :=
  log.filterMap fun x => if x.1 = c then some x.2 else none

def on (c : C) (ops : List (Op L)) : List (C × Op L) := ops.map fun op => (c, op)

def Idle (c : C) (log : List (C × Op L)) : Prop := ∀ op ∈ (opsOn c log).getLast?, op = .destroy

/-- Who holds a handle holds it alone and knows the link it has; a handle that
nobody holds is at the end of a life. -/
structure Served (holds : I → C × L → Prop) (log : List (C × Op L)) : Prop where
  held : ∀ {i c lid}, holds i (c, lid) → Open lid (opsOn c log)
  distinct : ∀ {i j c lid lid'}, holds i (c, lid) → holds j (c, lid') → i = j
  unheld : ∀ c, (∀ i lid, ¬ holds i (c, lid)) → Closed (opsOn c log)

section Ops

variable {c d : C} {ops : List (Op L)} {log log' : List (C × Op L)}

theorem opsOn_append (c : C) (log log' : List (C × Op L)) :
    opsOn c (log ++ log') = opsOn c log ++ opsOn c log' :=
  List.filterMap_append

theorem opsOn_on_self (c : C) (ops : List (Op L)) : opsOn c (on c ops) = ops := by
  simp [opsOn, on, List.filterMap_map]

theorem opsOn_on_of_ne (h : d ≠ c) (ops : List (Op L)) : opsOn c (on d ops) = [] := by
  simp [opsOn, on, List.filterMap_map, h]

theorem opsOn_append_self (c : C) (log : List (C × Op L)) (ops : List (Op L)) :
    opsOn c (log ++ on c ops) = opsOn c log ++ ops := by
  rw [opsOn_append, opsOn_on_self]

theorem opsOn_append_of_ne (h : d ≠ c) (log : List (C × Op L)) (ops : List (Op L)) :
    opsOn c (log ++ on d ops) = opsOn c log := by
  rw [opsOn_append, opsOn_on_of_ne h, List.append_nil]

end Ops

section Lives

variable {lid : L} {ops life transfers : List (Op L)}

theorem closed_nil : Closed ([] : List (Op L)) := ⟨[], List.forall_mem_nil _, rfl⟩

theorem Closed.append (h : Closed ops) (hlife : Life life) : Closed (ops ++ life) := by
  obtain ⟨lives, hlives, rfl⟩ := h
  refine ⟨lives ++ [life], ?_, by simp⟩
  intro l hl
  rcases List.mem_append.mp hl with hl | hl
  · exact hlives l hl
  · exact List.mem_singleton.mp hl ▸ hlife

theorem Closed.linked (h : Closed ops) (lid : L) :
    Open lid (ops ++ [.create, .createLink (some lid)]) :=
  ⟨ops, [], h, List.forall_mem_nil _, rfl⟩

theorem Open.transferred (h : Open lid ops) (ht : Transfers lid transfers) :
    Open lid (ops ++ transfers) := by
  obtain ⟨before, earlier, hbefore, hearlier, rfl⟩ := h
  refine ⟨before, earlier ++ transfers, hbefore, ?_, by simp⟩
  exact List.forall_mem_append.mpr ⟨hearlier, ht⟩

theorem Open.closed (h : Open lid ops) : Closed (ops ++ [.destroyLink lid, .destroy]) := by
  obtain ⟨before, transfers, hbefore, ht, rfl⟩ := h
  rw [List.append_assoc]
  exact hbefore.append (.linked lid transfers ht)

theorem Open.last (h : Open lid ops) : ∃ op, ops.getLast? = some op ∧ op ≠ .destroy := by
  obtain ⟨before, transfers, -, ht, rfl⟩ := h
  rcases List.eq_nil_or_concat transfers with rfl | ⟨earlier, op, rfl⟩
  · exact ⟨.createLink (some lid), by simp, by simp⟩
  · refine ⟨op, ?_, ?_⟩
    · rw [List.concat_eq_append, ← List.append_assoc, ← List.append_assoc, List.getLast?_append]
      rfl
    · rcases ht op (by simp) with rfl | rfl <;> simp

theorem Open.ne_nil (h : Open lid ops) : ops ≠ [] := by
  obtain ⟨op, hop, -⟩ := h.last
  rintro rfl
  cases hop

end Lives

section Served

variable {holds holds' : I → C × L → Prop} {log : List (C × Op L)} {i : I} {c : C} {lid : L}
variable {ops life transfers : List (Op L)}

theorem served_nil (h : ∀ i x, ¬ holds i x) : Served holds ([] : List (C × Op L)) where
  held hi := absurd hi (h _ _)
  distinct hi := absurd hi (h _ _)
  unheld _ _ := closed_nil

theorem Served.congr (h : Served holds log) (hh : ∀ i x, holds' i x ↔ holds i x) :
    Served holds' log where
  held hi := h.held ((hh _ _).mp hi)
  distinct hi hj := h.distinct ((hh _ _).mp hi) ((hh _ _).mp hj)
  unheld c hc := h.unheld c fun i lid hi => hc i lid ((hh _ _).mpr hi)

theorem Served.conforms (h : Served holds log) (c : C) : Conforms (opsOn c log) := by
  by_cases hc : ∃ i lid, holds i (c, lid)
  · obtain ⟨i, lid, hi⟩ := hc
    exact .inr ⟨lid, h.held hi⟩
  · exact .inl (h.unheld c fun i lid hi => hc ⟨i, lid, hi⟩)

theorem Served.not_held (h : Served holds log) (hidle : Idle c log) (i : I) (lid : L) :
    ¬ holds i (c, lid) := by
  intro hi
  obtain ⟨op, hop, hne⟩ := (h.held hi).last
  exact hne (hidle op hop)

theorem Served.closed_of_idle (h : Served holds log) (hidle : Idle c log) :
    Closed (opsOn c log) :=
  h.unheld c (h.not_held hidle)

theorem Served.append (h : Served holds log)
    (hheld : ∀ i lid, holds' i (c, lid) → Open lid (opsOn c log ++ ops))
    (hdistinct : ∀ i j lid lid', holds' i (c, lid) → holds' j (c, lid') → i = j)
    (hunheld : (∀ i lid, ¬ holds' i (c, lid)) → Closed (opsOn c log ++ ops))
    (hother : ∀ d, c ≠ d → ∀ i lid, holds' i (d, lid) ↔ holds i (d, lid)) :
    Served holds' (log ++ on c ops) where
  held {i d lid} hi := by
    by_cases hd : c = d
    · subst d
      rw [opsOn_append_self]
      exact hheld i lid hi
    · rw [opsOn_append_of_ne hd]
      exact h.held ((hother d hd i lid).mp hi)
  distinct {i j d lid lid'} hi hj := by
    by_cases hd : c = d
    · subst d
      exact hdistinct i j lid lid' hi hj
    · exact h.distinct ((hother d hd _ _).mp hi) ((hother d hd _ _).mp hj)
  unheld d hnone := by
    by_cases hd : c = d
    · subst d
      rw [opsOn_append_self]
      exact hunheld hnone
    · rw [opsOn_append_of_ne hd]
      exact h.unheld d fun i lid hi => hnone i lid ((hother d hd i lid).mpr hi)

theorem Served.lived (h : Served holds log) (hidle : Idle c log) (hlife : Life life) :
    Served holds (log ++ on c life) := by
  apply h.append
  · exact fun i lid hi => absurd hi (h.not_held hidle i lid)
  · exact fun i j lid lid' => h.distinct
  · exact fun _ => (h.closed_of_idle hidle).append hlife
  · exact fun _ _ _ _ => Iff.rfl

theorem Served.linked (h : Served holds log) (hidle : Idle c log)
    (hh : ∀ j x, holds' j x ↔ j = i ∧ x = (c, lid) ∨ holds j x) :
    Served holds' (log ++ on c [.create, .createLink (some lid)]) := by
  have hnew {j : I} {m : L} (hj : holds' j (c, m)) : j = i ∧ m = lid := by
    rcases (hh _ _).mp hj with ⟨rfl, he⟩ | hj
    · exact ⟨rfl, (Prod.mk.inj he).2⟩
    · exact absurd hj (h.not_held hidle j m)
  apply h.append
  · intro j m hj
    rw [(hnew hj).2]
    exact (h.closed_of_idle hidle).linked lid
  · intro j k m n hj hk
    rw [(hnew hj).1, (hnew hk).1]
  · exact fun hnone => absurd ((hh i (c, lid)).mpr (.inl ⟨rfl, rfl⟩)) (hnone i lid)
  · intro d hd j m
    rw [hh]
    exact or_iff_right fun he => hd (Prod.mk.inj he.2).1.symm

/-- Only the holder of a handle makes transfers on it, on the link it knows. -/
theorem Served.transferred (h : Served holds log) (hi : holds i (c, lid))
    (hfun : ∀ x, holds i x → x = (c, lid)) (ht : Transfers lid transfers) :
    Served holds (log ++ on c transfers) := by
  apply h.append
  · intro j m hj
    obtain rfl := h.distinct hj hi
    rw [(Prod.mk.inj (hfun _ hj)).2]
    exact (h.held hi).transferred ht
  · exact fun j k m n => h.distinct
  · exact fun hnone => absurd hi (hnone i lid)
  · exact fun _ _ _ _ => Iff.rfl

theorem Served.closed (h : Served holds log) (hi : holds i (c, lid))
    (hfun : ∀ x, holds i x → x = (c, lid)) (hh : ∀ j x, holds' j x ↔ j ≠ i ∧ holds j x) :
    Served holds' (log ++ on c [.destroyLink lid, .destroy]) := by
  have hnone (j : I) (m : L) : ¬ holds' j (c, m) := fun hj =>
    ((hh _ _).mp hj).1 (h.distinct ((hh _ _).mp hj).2 hi)
  apply h.append
  · exact fun j m hj => absurd hj (hnone j m)
  · exact fun j k m n hj => absurd hj (hnone j m)
  · exact fun _ => (h.held hi).closed
  · intro d hd j m
    rw [hh, and_iff_right_iff_imp]
    rintro hj rfl
    exact hd (Prod.mk.inj (hfun _ hj)).1.symm

end Served

end LibLxi.LinkLife

import Mathlib.Data.Option.Basic
import Mathlib.Order.Basic

namespace LibLxi.Machine

variable {S T A : Type}

/-- Run a list of actions. An action the current state does not permit ends
the run with none. -/
def run (step : S → A → Option S) : S → List A → Option S
  | s, [] => some s
  | s, a :: as => (step s a).bind fun t => run step t as

def Along (step : S → A → Option S) (P : S → A → Prop) : S → List A → Prop
  | _, [] => True
  | s, a :: as => P s a ∧ ∀ t, step s a = some t → Along step P t as

def outputs {R : Type} (step : S → A → Option (R × S)) : S → List A → Option (List R × S)
  | s, [] => some ([], s)
  | s, a :: as => (step s a).bind fun x => (outputs step x.2 as).map fun y => (x.1 :: y.1, y.2)

def total {R : Type} (step : S → A → R × S) : S → List A → List R × S
  | s, [] => ([], s)
  | s, a :: as =>
      let one := step s a
      let others := total step one.2 as
      (one.1 :: others.1, others.2)

theorem total_append {R : Type} (step : S → A → R × S) (s : S) (as bs : List A) :
    total step s (as ++ bs) =
      ((total step s as).1 ++ (total step (total step s as).2 bs).1,
        (total step (total step s as).2 bs).2) := by
  induction as generalizing s with
  | nil => rfl
  | cons a as ih =>
      rw [List.cons_append, total, ih]
      rfl

/-- Every action of a run of such a machine meets P in the state it comes to. -/
def Meets {R : Type} (step : S → A → R × S) (P : S → A → Prop) : S → List A → Prop
  | _, [] => True
  | s, a :: as => P s a ∧ Meets step P (step s a).2 as

theorem meets_append {R : Type} {step : S → A → R × S} {P : S → A → Prop} {s : S} {as bs : List A} :
    Meets step P s (as ++ bs) ↔ Meets step P s as ∧ Meets step P (total step s as).2 bs := by
  induction as generalizing s with
  | nil =>
      rw [List.nil_append, Meets, true_and]
      rfl
  | cons a as ih => rw [List.cons_append, Meets, ih, Meets, and_assoc, total]

theorem meets_of_forall {R : Type} {step : S → A → R × S} {P : A → Prop} {as : List A}
    (h : ∀ a ∈ as, P a) (s : S) : Meets step (fun _ a => P a) s as := by
  induction as generalizing s with
  | nil => exact trivial
  | cons a as ih =>
      obtain ⟨ha, has⟩ := List.forall_mem_cons.mp h
      exact ⟨ha, ih has _⟩

theorem meets_and {R : Type} {step : S → A → R × S} {P Q : S → A → Prop} {s : S} {as : List A}
    (hP : Meets step P s as) (hQ : Meets step Q s as) : Meets step (fun s a => P s a ∧ Q s a) s as := by
  induction as generalizing s with
  | nil => exact trivial
  | cons a as ih => exact ⟨⟨hP.1, hQ.1⟩, ih hP.2 hQ.2⟩

instance instDecidableMeets {R : Type} (step : S → A → R × S) (P : S → A → Prop)
    [∀ s a, Decidable (P s a)] : (s : S) → (as : List A) → Decidable (Meets step P s as)
  | _, [] => isTrue trivial
  | s, a :: as =>
      have := instDecidableMeets step P (step s a).2 as
      inferInstanceAs (Decidable (P s a ∧ Meets step P (step s a).2 as))

variable {step : S → A → Option S}

theorem run_cons (s : S) (a : A) (as : List A) :
    run step s (a :: as) = (step s a).bind fun t => run step t as := rfl

theorem run_cons_eq_some {s t : S} {a : A} {as : List A} :
    run step s (a :: as) = some t ↔ ∃ u, step s a = some u ∧ run step u as = some t :=
  Option.bind_eq_some_iff

theorem outputs_cons {R : Type} {step : S → A → Option (R × S)} {s u : S} {a : A} {r : R}
    (h : step s a = some (r, u)) (as : List A) :
    outputs step s (a :: as) = (outputs step u as).map fun y => (r :: y.1, y.2) := by
  rw [outputs, h, Option.bind_some]

theorem outputs_cons_eq_some {R : Type} {step : S → A → Option (R × S)} {s t : S} {a : A}
    {as : List A} {rs : List R} (h : outputs step s (a :: as) = some (rs, t)) :
    ∃ r u rs', step s a = some (r, u) ∧ outputs step u as = some (rs', t) ∧ rs = r :: rs' := by
  obtain ⟨⟨r, u⟩, hstep, h⟩ := Option.bind_eq_some_iff.mp h
  obtain ⟨⟨rs', t'⟩, hout, heq⟩ := Option.map_eq_some_iff.mp h
  cases heq
  exact ⟨r, u, rs', hstep, hout, rfl⟩

@[simp] theorem along_nil (P : S → A → Prop) (s : S) : Along step P s [] := trivial

theorem along_cons {P : S → A → Prop} {s : S} {a : A} {as : List A} :
    Along step P s (a :: as) ↔ P s a ∧ ∀ t, step s a = some t → Along step P t as := Iff.rfl

theorem along_cons_of_step {P : S → A → Prop} {s t : S} {a : A} {as : List A}
    (h : step s a = some t) :
    Along step P s (a :: as) ↔ P s a ∧ Along step P t as := by
  rw [along_cons, h]
  simp

theorem along_and {P Q : S → A → Prop} {s : S} {as : List A} :
    Along step (fun s a => P s a ∧ Q s a) s as ↔ Along step P s as ∧ Along step Q s as := by
  induction as generalizing s with
  | nil => simp
  | cons a as ih =>
      simp only [along_cons, ih]
      constructor
      · rintro ⟨⟨hP, hQ⟩, h⟩
        exact ⟨⟨hP, fun t ht => (h t ht).1⟩, hQ, fun t ht => (h t ht).2⟩
      · rintro ⟨⟨hP, hP'⟩, hQ, hQ'⟩
        exact ⟨⟨hP, hQ⟩, fun t ht => ⟨hP' t ht, hQ' t ht⟩⟩

theorem along_mono {P Q : S → A → Prop} (hPQ : ∀ s a, P s a → Q s a) {s : S} {as : List A}
    (h : Along step P s as) : Along step Q s as := by
  induction as generalizing s with
  | nil => exact trivial
  | cons a as ih => exact ⟨hPQ s a h.1, fun t ht => ih (h.2 t ht)⟩

instance instDecidableAlong (step : S → A → Option S) (P : S → A → Prop)
    [∀ s a, Decidable (P s a)] : (s : S) → (as : List A) → Decidable (Along step P s as)
  | _, [] => isTrue trivial
  | s, a :: as =>
      match h : step s a with
      | none => decidable_of_iff (P s a) (by simp [along_cons, h])
      | some t =>
          have := instDecidableAlong step P t as
          decidable_of_iff (P s a ∧ Along step P t as) (along_cons_of_step h).symm

/-- What one permitted step preserves under a condition on it, a run whose
steps all meet the condition preserves. -/
theorem run_preserves_along {P : S → A → Prop} {I : S → Prop}
    (hstep : ∀ s a t, I s → P s a → step s a = some t → I t)
    {s t : S} {as : List A} (hs : I s) (hP : Along step P s as) (h : run step s as = some t) :
    I t := by
  induction as generalizing s with
  | nil => exact Option.some.inj h ▸ hs
  | cons a as ih =>
      obtain ⟨u, hu, h⟩ := run_cons_eq_some.mp h
      exact ih (hstep s a u hs hP.1 hu) (hP.2 u hu) h

theorem along_of_invariant {P : S → A → Prop} {I : S → Prop}
    (hstep : ∀ s a t, I s → step s a = some t → I t) (hP : ∀ s a, I s → P s a)
    {s : S} (hs : I s) (as : List A) : Along step P s as := by
  induction as generalizing s with
  | nil => exact trivial
  | cons a as ih => exact ⟨hP s a hs, fun t ht => ih (hstep s a t hs ht)⟩

theorem along_of_forall {P : S → A → Prop} (hP : ∀ s a, P s a) (s : S) (as : List A) :
    Along step P s as :=
  along_of_invariant (I := fun _ => True) (fun _ _ _ _ _ => trivial) (fun s a _ => hP s a)
    trivial as

theorem run_preserves {I : S → Prop} (hstep : ∀ s a t, I s → step s a = some t → I t)
    {s t : S} {as : List A} (hs : I s) (h : run step s as = some t) : I t := by
  have hall : Along step (fun _ _ => True) s as := along_of_forall (fun _ _ => trivial) s as
  exact run_preserves_along (fun s a t hs _ h => hstep s a t hs h) hs hall h

/-- A property of states that a step keeps if and only if the step meets P, a
run keeps if and only if all its steps do. -/
theorem run_keeps_iff_along {P : S → A → Prop} {I G : S → Prop}
    (hinv : ∀ s a t, I s → step s a = some t → I t)
    (hkeeps : ∀ s a t, I s → step s a = some t → (G t ↔ G s ∧ P s a))
    {s t : S} {as : List A} (hs : I s) (h : run step s as = some t) :
    G t ↔ G s ∧ Along step P s as := by
  induction as generalizing s with
  | nil => simp [Option.some.inj h]
  | cons a as ih =>
      obtain ⟨u, hu, h⟩ := run_cons_eq_some.mp h
      rw [ih (hinv s a u hs hu) h, hkeeps s a u hs hu, along_cons_of_step hu, and_assoc]

theorem along_congr_of_invariant {P Q : S → A → Prop} {I : S → Prop}
    (hstep : ∀ s a t, I s → P s a → step s a = some t → I t)
    (hPQ : ∀ s a, I s → (P s a ↔ Q s a)) {s : S} (hs : I s) (as : List A) :
    Along step P s as ↔ Along step Q s as := by
  induction as generalizing s with
  | nil => exact Iff.rfl
  | cons a as ih =>
      rw [along_cons, along_cons, ← hPQ s a hs]
      apply and_congr_right
      intro hP
      exact forall₂_congr fun t ht => ih (hstep s a t hs hP ht)

theorem along_congr_under {P Q R : S → A → Prop} {I : S → Prop}
    (hstep : ∀ s a t, I s → R s a → P s a → step s a = some t → I t)
    (hPQ : ∀ s a, I s → R s a → (P s a ↔ Q s a)) {s : S} (hs : I s) {as : List A}
    (hR : Along step R s as) : Along step P s as ↔ Along step Q s as := by
  have hand : Along step (fun s a => R s a ∧ P s a) s as ↔
      Along step (fun s a => R s a ∧ Q s a) s as :=
    along_congr_of_invariant (fun s a t hs h ht => hstep s a t hs h.1 h.2 ht)
      (fun s a hs => and_congr_right fun hR => hPQ s a hs hR) hs as
  simpa only [along_and, hR, true_and] using hand

theorem along_congr {P Q : S → A → Prop} (hPQ : ∀ s a, P s a ↔ Q s a) (s : S) (as : List A) :
    Along step P s as ↔ Along step Q s as :=
  along_congr_of_invariant (I := fun _ => True) (fun _ _ _ _ _ _ => trivial) (fun s a _ => hPQ s a)
    trivial as

theorem rel_map {S' T' : Type} {R : S → T → Prop} {R' : S' → T' → Prop} {o : Option S} {p : Option T}
    {f : S → S'} {g : T → T'} (h : Option.Rel R o p) (hfg : ∀ s t, R s t → R' (f s) (g t)) :
    Option.Rel R' (o.map f) (p.map g) := by
  cases h with
  | none => exact .none
  | some h => exact .some (hfg _ _ h)

theorem rel_map_self {S' T' : Type} {R' : S' → T' → Prop} (o : Option S) {f : S → S'} {g : S → T'}
    (hfg : ∀ s, R' (f s) (g s)) : Option.Rel R' (o.map f) (o.map g) := by
  cases o with
  | none => exact .none
  | some s => exact .some (hfg s)

theorem rel_bind {S' T' : Type} {R : S → T → Prop} {R' : S' → T' → Prop} {o : Option S} {p : Option T}
    {f : S → Option S'} {g : T → Option T'} (h : Option.Rel R o p)
    (hfg : ∀ s t, R s t → Option.Rel R' (f s) (g t)) : Option.Rel R' (o.bind f) (p.bind g) := by
  cases h with
  | none => exact .none
  | some h => exact hfg _ _ h

theorem outputs_rel {R : Type} {step : S → A → Option (R × S)} {step' : T → A → Option (R × T)}
    {P : A → Prop} {I : S → T → Prop}
    (hstep : ∀ s t a, P a → I s t →
      Option.Rel (fun x y => x.1 = y.1 ∧ I x.2 y.2) (step s a) (step' t a))
    {s : S} {t : T} (h : I s t) {as : List A} (has : ∀ a ∈ as, P a) :
    Option.Rel (fun x y => x.1 = y.1 ∧ I x.2 y.2) (outputs step s as) (outputs step' t as) := by
  induction as generalizing s t with
  | nil => exact .some ⟨rfl, h⟩
  | cons a as ih =>
      obtain ⟨ha, has⟩ := List.forall_mem_cons.mp has
      apply rel_bind (hstep s t a ha h)
      rintro x y ⟨hr, hxy⟩
      apply rel_map (ih hxy has)
      rintro z w ⟨hrs, hzw⟩
      exact ⟨congrArg₂ List.cons hr hrs, hzw⟩

/-- Where some actions see and change only a part of the state that the others leave
alone, they return in a run what they return in it without the others. -/
theorem outputs_filter {R V : Type} {step : S → A → Option (R × S)} {v : S → V} {own : A → Bool}
    (hown : ∀ s t a r s', own a = true → v s = v t → step s a = some (r, s') →
      ∃ t', step t a = some (r, t') ∧ v s' = v t')
    (hother : ∀ s a r s', own a = false → step s a = some (r, s') → v s' = v s)
    {s s' t : S} {as : List A} {rs : List R} (hst : v s = v t)
    (h : outputs step s as = some (rs, s')) :
    ∃ t', outputs step t (as.filter own) =
        some (((as.zip rs).filter fun x => own x.1).map Prod.snd, t') ∧ v s' = v t' := by
  induction as generalizing s t rs with
  | nil =>
      cases h
      exact ⟨t, rfl, hst⟩
  | cons a as ih =>
      obtain ⟨r, u, rs, hstep, htail, rfl⟩ := outputs_cons_eq_some h
      cases ha : own a with
      | true =>
          obtain ⟨w, hstep', hview⟩ := hown s t a r u ha hst hstep
          obtain ⟨t', hout, hview'⟩ := ih hview htail
          simp only [List.zip_cons_cons, List.filter_cons, ha, if_true, List.map_cons]
          rw [outputs_cons hstep', hout]
          exact ⟨t', rfl, hview'⟩
      | false =>
          have hview : v u = v t := (hother s a r u ha hstep).trans hst
          simp only [List.zip_cons_cons, List.filter_cons, ha, Bool.false_eq_true, if_false]
          exact ih hview htail

/-- A machine that with enough fuel does what a total one does does so in all runs
whose actions meet a condition there. -/
theorem outputs_total {R : Type} {step : Nat → S → A → Option (R × S)} {ideal : T → A → R × T}
    {P : T → A → Prop} {I : S → T → Prop}
    (hstep : ∀ s t a, P t a → I s t → ∃ u bound, I u (ideal t a).2 ∧
      ∀ fuel, bound ≤ fuel → step fuel s a = some ((ideal t a).1, u))
    {s : S} {t : T} (h : I s t) {as : List A} (has : Meets ideal P t as) :
    ∃ u bound, I u (total ideal t as).2 ∧
      ∀ fuel, bound ≤ fuel → outputs (step fuel) s as = some ((total ideal t as).1, u) := by
  induction as generalizing s t with
  | nil => exact ⟨s, 0, h, fun _ _ => rfl⟩
  | cons a as ih =>
      obtain ⟨ha, has⟩ := has
      obtain ⟨v, bound, hv, hone⟩ := hstep s t a ha h
      obtain ⟨u, bound', hu, hothers⟩ := ih hv has
      refine ⟨u, max bound bound', hu, fun fuel hfuel => ?_⟩
      rw [outputs_cons (hone fuel (Nat.le_trans (Nat.le_max_left ..) hfuel)),
        hothers fuel (Nat.le_trans (Nat.le_max_right ..) hfuel)]
      rfl

theorem outputs_total_of_rel {R U : Type} {step : Nat → S → A → Option (R × S)}
    {step' : Nat → T → A → Option (R × T)} {ideal : U → A → R × U} {P : A → Prop}
    {Q : U → A → Prop} {I : S → T → Prop} {J : T → U → Prop}
    (hrel : ∀ fuel s t a, P a → I s t →
      Option.Rel (fun x y => x.1 = y.1 ∧ I x.2 y.2) (step fuel s a) (step' fuel t a))
    (hstep : ∀ t u a, Q u a → J t u → ∃ v bound, J v (ideal u a).2 ∧
      ∀ fuel, bound ≤ fuel → step' fuel t a = some ((ideal u a).1, v))
    {s : S} {t : T} {u : U} (hs : I s t) (ht : J t u) {as : List A} (has : ∀ a ∈ as, P a)
    (hmeets : Meets ideal Q u as) :
    ∃ bound, ∀ fuel, bound ≤ fuel → ∃ s' t', outputs (step fuel) s as = some ((total ideal u as).1, s') ∧
      I s' t' ∧ J t' (total ideal u as).2 := by
  obtain ⟨t', bound, ht', houtputs⟩ := outputs_total hstep ht hmeets
  refine ⟨bound, fun fuel hfuel => ?_⟩
  have hagree := outputs_rel (hrel fuel) hs has
  rw [houtputs fuel hfuel] at hagree
  generalize outputs (step fuel) s as = result at hagree ⊢
  cases hagree with
  | some hagree => exact ⟨_, t', congrArg some (Prod.ext hagree.1 rfl), hagree.2, ht'⟩

/-- Lockstep simulation under an invariant of the first machine: machines whose
steps agree up to a relation have runs that agree up to it, also on which runs
are permitted. -/
theorem run_rel {step' : T → A → Option T} {I : S → Prop} {R : S → T → Prop}
    (hinv : ∀ s a s', I s → step s a = some s' → I s')
    (hstep : ∀ s t a, I s → R s t → Option.Rel R (step s a) (step' t a))
    {s : S} {t : T} (hs : I s) (hR : R s t) (as : List A) :
    Option.Rel R (run step s as) (run step' t as) := by
  induction as generalizing s t with
  | nil => exact .some hR
  | cons a as ih =>
      have h := hstep s t a hs hR
      rw [run_cons, run_cons]
      cases hu : step s a with
      | none =>
          rw [hu] at h
          cases ht : step' t a with
          | none => exact .none
          | some v => rw [ht] at h; cases h
      | some u =>
          rw [hu] at h
          cases ht : step' t a with
          | none => rw [ht] at h; cases h
          | some v =>
              rw [ht] at h
              cases h with
              | some huv => exact ih (hinv s a u hs hu) huv

theorem of_guard {p : Prop} [Decidable p] {s t : S} (h : (if p then some s else none) = some t) :
    p ∧ s = t := by
  obtain ⟨hp, h⟩ := Option.ite_none_right_eq_some.mp h
  exact ⟨hp, Option.some.inj h⟩

end LibLxi.Machine

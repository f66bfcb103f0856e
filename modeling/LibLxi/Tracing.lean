import Mathlib.Data.List.Basic

namespace LibLxi.Tracing

/-- What a piece of a program did: its events in order, and its value or why it
does not get to one. -/
structure Trace (E R α : Type) where
  events : List E
  result : Except R α

variable {E F R Q α β : Type}

def done (a : α) : Trace E R α := ⟨[], .ok a⟩

def bind (t : Trace E R α) (f : α → Trace E R β) : Trace E R β :=
  match t.result with
  | .error r => ⟨t.events, .error r⟩
  | .ok a => ⟨t.events ++ (f a).events, (f a).result⟩

instance instMonadTrace : Monad (Trace E R) where
  pure := done
  bind := bind

def emit (e : E) : Trace E R Unit := ⟨[e], .ok ()⟩

def emits (es : List E) : Trace E R Unit := ⟨es, .ok ()⟩

def stop (r : R) : Trace E R α := ⟨[], .error r⟩

def need (r : R) : Option α → Trace E R α
  | none => stop r
  | some a => done a

/-- A part of a program whose events and reasons are told in the words of the
whole. -/
def within (f : E → F) (g : R → Q) (t : Trace E R α) : Trace F Q α :=
  ⟨t.events.map f, t.result.mapError g⟩

@[simp] theorem events_pure (a : α) : (pure a : Trace E R α).events = [] := rfl

@[simp] theorem result_pure (a : α) : (pure a : Trace E R α).result = .ok a := rfl

@[simp] theorem events_within (f : E → F) (g : R → Q) (t : Trace E R α) :
    (within f g t).events = t.events.map f := rfl

theorem result_within_error {f : E → F} {g : R → Q} {t : Trace E R α} {q : Q}
    (h : (within f g t).result = .error q) : ∃ r, q = g r := by
  rw [within] at h
  cases ht : t.result with
  | error r =>
      rw [ht] at h
      exact ⟨r, (Except.error.inj h).symm⟩
  | ok a =>
      rw [ht] at h
      cases h

theorem bind_ok {t : Trace E R α} {f : α → Trace E R β} {a : α} (h : t.result = .ok a) :
    (t >>= f) = ⟨t.events ++ (f a).events, (f a).result⟩ := by
  change bind t f = _
  rw [bind, h]

theorem bind_error {t : Trace E R α} {f : α → Trace E R β} {r : R} (h : t.result = .error r) :
    (t >>= f) = ⟨t.events, .error r⟩ := by
  change bind t f = _
  rw [bind, h]

theorem emit_bind (e : E) (f : Unit → Trace E R β) :
    (emit e >>= f) = ⟨e :: (f ()).events, (f ()).result⟩ := rfl

theorem emits_bind (es : List E) (f : Unit → Trace E R β) :
    (emits es >>= f) = ⟨es ++ (f ()).events, (f ()).result⟩ := rfl

@[simp] theorem need_some (r : R) (a : α) : (need r (some a) : Trace E R α) = pure a := rfl

theorem need_none_bind (r : R) (f : α → Trace E R β) : (need r none >>= f) = stop r := rfl

theorem within_bind (f : E → F) (g : R → Q) (t : Trace E R α) (k : α → Trace E R β) :
    within f g (t >>= k) = within f g t >>= fun a => within f g (k a) := by
  cases h : t.result with
  | error r =>
      have hw : (within f g t).result = .error (g r) := by rw [within, h, Except.mapError]
      rw [bind_error h, bind_error hw]
      rfl
  | ok a =>
      have hw : (within f g t).result = .ok a := by rw [within, h, Except.mapError]
      rw [bind_ok h, bind_ok hw, within, List.map_append]
      rfl

theorem within_within {G P : Type} (f : E → F) (g : R → Q) (f' : F → G) (g' : Q → P)
    (t : Trace E R α) :
    within f' g' (within f g t) = within (f' ∘ f) (g' ∘ g) t := by
  rw [within, within, within, List.map_map]
  cases t.result <;> rfl

@[simp] theorem within_pure (f : E → F) (g : R → Q) (a : α) :
    within f g (pure a : Trace E R α) = pure a := rfl

@[simp] theorem within_emit (f : E → F) (g : R → Q) (e : E) :
    within f g (emit e : Trace E R Unit) = emit (f e) := rfl

theorem within_forM (f : E → F) (g : R → Q) (k : α → Trace E R PUnit) (as : List α) :
    within f g (as.forM k) = as.forM fun a => within f g (k a) := by
  induction as with
  | nil => rfl
  | cons a as ih =>
      rw [List.forM, within_bind, List.forM, ih]

theorem emit_bind_error {e : E} {f : Unit → Trace E R α} {r : R} :
    (emit e >>= f).result = .error r ↔ (f ()).result = .error r := Iff.rfl

theorem result_bind_ok {t : Trace E R α} {f : α → Trace E R β} {b : β} :
    (t >>= f).result = .ok b ↔ ∃ a, t.result = .ok a ∧ (f a).result = .ok b := by
  cases h : t.result with
  | error r => simp [bind_error h]
  | ok a => simp [bind_ok h]

theorem result_bind_error {t : Trace E R α} {f : α → Trace E R β} {r : R} :
    (t >>= f).result = .error r ↔
      t.result = .error r ∨ ∃ a, t.result = .ok a ∧ (f a).result = .error r := by
  cases h : t.result with
  | error r' => simp [bind_error h]
  | ok a => simp [bind_ok h]

theorem mem_bind_left {t : Trace E R α} {k : α → Trace E R β} {e : E} (h : e ∈ t.events) :
    e ∈ (t >>= k).events := by
  cases ht : t.result with
  | error r => rwa [bind_error ht]
  | ok a =>
      rw [bind_ok ht]
      exact List.mem_append_left _ h

theorem filterMap_bind {f : E → Option F} {t : Trace E R α} {k : α → Trace E R β}
    (h : ∀ a, (k a).events.filterMap f = []) :
    (t >>= k).events.filterMap f = t.events.filterMap f := by
  cases ht : t.result with
  | error r => rw [bind_error ht]
  | ok a => rw [bind_ok ht, List.filterMap_append, h a, List.append_nil]

theorem events_bind_pure (t : Trace E R α) (g : α → β) :
    (t >>= fun a => pure (g a)).events = t.events := by
  cases ht : t.result with
  | error r => rw [bind_error ht]
  | ok a => rw [bind_ok ht, events_pure, List.append_nil]

theorem result_bind_pure (t : Trace E R α) (g : α → β) :
    (t >>= fun a => pure (g a)).result = t.result.map g := by
  cases ht : t.result with
  | error r =>
      rw [bind_error ht]
      rfl
  | ok a =>
      rw [bind_ok ht]
      rfl

theorem bind_congr_ok {t : Trace E R α} {f g : α → Trace E R β}
    (h : ∀ a, t.result = .ok a → f a = g a) : (t >>= f) = (t >>= g) := by
  cases ht : t.result with
  | error r => rw [bind_error ht, bind_error ht]
  | ok a => rw [bind_ok ht, bind_ok ht, h a ht]

/-- A loop stops only where one of its turns does. -/
theorem forM_error {f : α → Trace E R PUnit} {as : List α} {r : R}
    (h : (as.forM f).result = .error r) : ∃ a ∈ as, (f a).result = .error r := by
  induction as with
  | nil => cases h
  | cons a as ih =>
      rcases result_bind_error.mp h with ha | ⟨-, -, has⟩
      · exact ⟨a, List.mem_cons_self, ha⟩
      · obtain ⟨b, hb, hr⟩ := ih has
        exact ⟨b, List.mem_cons_of_mem _ hb, hr⟩

theorem bind_done (t : Trace E R α) : (t >>= pure) = t := by
  cases h : t.result with
  | error r =>
      rw [bind_error h, ← h]
  | ok a =>
      rw [bind_ok h, result_pure, events_pure, List.append_nil, ← h]

theorem bind_bind {γ : Type} (t : Trace E R α) (f : α → Trace E R β) (g : β → Trace E R γ) :
    (t >>= f >>= g) = (t >>= fun a => f a >>= g) := by
  cases h : t.result with
  | error r => rw [bind_error h, bind_error rfl, bind_error h]
  | ok a =>
      rw [bind_ok h, bind_ok h]
      cases ha : (f a).result with
      | error r => rw [bind_error ha, bind_error rfl]
      | ok b => rw [bind_ok ha, bind_ok rfl, List.append_assoc]

instance instLawfulMonadTrace : LawfulMonad (Trace E R) :=
  LawfulMonad.mk' (Trace E R) (fun t => bind_done t) (fun _ _ => rfl) bind_bind

theorem bind_returns {t : Trace E R α} {f : α → Trace E R β} {b : β}
    (h : (t >>= f).result = .ok b) :
    ∃ a, t.result = .ok a ∧ (f a).result = .ok b ∧ (t >>= f).events = t.events ++ (f a).events := by
  obtain ⟨a, ha, hb⟩ := result_bind_ok.mp h
  exact ⟨a, ha, hb, by rw [bind_ok ha]⟩

theorem forM_returns {f : α → Trace E R PUnit} {as : List α} (h : (as.forM f).result = .ok ⟨⟩) :
    (∀ a ∈ as, (f a).result = .ok ⟨⟩) ∧ (as.forM f).events = as.flatMap fun a => (f a).events := by
  induction as with
  | nil => exact ⟨List.forall_mem_nil _, rfl⟩
  | cons a as ih =>
      obtain ⟨u, ha, hrest, hevents⟩ := bind_returns h
      obtain ⟨hall, hflat⟩ := ih hrest
      refine ⟨List.forall_mem_cons.mpr ⟨ha, hall⟩, ?_⟩
      rw [List.flatMap_cons, ← hflat]
      exact hevents

def upTo (p : α → Bool) : List α → List α
  | [] => []
  | a :: as => a :: if p a then upTo p as else []

/-- A loop does what its turns do, up to the first one that stops. -/
theorem forM_events {f : α → Trace E R PUnit} (as : List α) :
    (as.forM f).events =
      (upTo (fun a => (f a).result.isOk) as).flatMap fun a => (f a).events := by
  induction as with
  | nil => rfl
  | cons a as ih =>
      rw [List.forM, upTo, List.flatMap_cons]
      cases h : (f a).result with
      | error r =>
          rw [bind_error h]
          exact (List.append_nil _).symm
      | ok u =>
          rw [bind_ok h, ih]
          rfl

theorem forM_ok {f : α → Trace E R PUnit} {as : List α} (h : ∀ a ∈ as, (f a).result = .ok ⟨⟩) :
    (as.forM f).result = .ok ⟨⟩ := by
  induction as with
  | nil => rfl
  | cons a as ih =>
      rw [List.forall_mem_cons] at h
      exact result_bind_ok.mpr ⟨⟨⟩, h.1, ih h.2⟩

theorem foldlM_forget {f : β → α → Trace E R β} {g : α → Trace E R PUnit}
    (h : ∀ b a, (f b a >>= fun _ => pure ⟨⟩) = g a) (b : β) (as : List α) :
    (as.foldlM f b >>= fun _ => pure ⟨⟩) = as.forM g := by
  induction as generalizing b with
  | nil => rfl
  | cons a as ih =>
      rw [List.foldlM_cons, List.forM, ← h b a, bind_assoc, bind_assoc]
      exact bind_congr_ok fun b' _ => ih b'

/-- What an observer sees who notices only some of the events. -/
def observe (f : E → Option F) (t : Trace E R α) : Trace F R α :=
  ⟨t.events.filterMap f, t.result⟩

section Observe

variable (f : E → Option F)

@[simp] theorem observe_pure (a : α) : observe f (pure a : Trace E R α) = pure a := rfl

theorem observe_bind (t : Trace E R α) (k : α → Trace E R β) :
    observe f (t >>= k) = observe f t >>= fun a => observe f (k a) := by
  cases h : t.result with
  | error r =>
      have ho : (observe f t).result = .error r := h
      rw [bind_error h, bind_error ho]
      rfl
  | ok a =>
      have ho : (observe f t).result = .ok a := h
      rw [bind_ok h, bind_ok ho, observe, List.filterMap_append]
      rfl

end Observe

/-- The observer notices nothing. -/
def Quiet (f : E → Option F) (t : Trace E R α) : Prop := t.events.filterMap f = []

section Quiet

variable {f : E → Option F}

theorem Quiet.observe {t : Trace E R α} (ht : Quiet f t) {a : α} (h : t.result = .ok a) :
    observe f t = pure a := by
  rw [Tracing.observe, ht, h]
  rfl

theorem quiet_pure (a : α) : Quiet f (pure a : Trace E R α) := rfl

theorem quiet_stop (r : R) : Quiet f (stop r : Trace E R α) := rfl

theorem quiet_emits {es : List E} (h : ∀ e ∈ es, f e = none) :
    Quiet f (emits es : Trace E R Unit) :=
  List.filterMap_eq_nil_iff.mpr h

theorem quiet_emit {e : E} (h : f e = none) : Quiet f (emit e : Trace E R Unit) :=
  quiet_emits (List.forall_mem_singleton.mpr h)

theorem quiet_need (r : R) (o : Option α) : Quiet f (need r o : Trace E R α) := by
  cases o <;> rfl

theorem quiet_ite {p : Prop} [Decidable p] {t u : Trace E R α} (ht : Quiet f t) (hu : Quiet f u) :
    Quiet f (if p then t else u) := by
  split_ifs
  · exact ht
  · exact hu

theorem Quiet.bind {t : Trace E R α} {k : α → Trace E R β} (ht : Quiet f t)
    (hk : ∀ a, Quiet f (k a)) : Quiet f (t >>= k) :=
  (filterMap_bind hk).trans ht

theorem quiet_within {p : F → E} {q : Q → R} {t : Trace F Q α} {f : E → Option β}
    (h : ∀ e, f (p e) = none) : Quiet f (within p q t) := by
  apply List.filterMap_eq_nil_iff.mpr
  intro e he
  obtain ⟨e', -, rfl⟩ := List.mem_map.mp he
  exact h e'

theorem Quiet.filterMap_bind {t : Trace E R α} {k : α → Trace E R β} (ht : Quiet f t) :
    (t >>= k).events.filterMap f = [] ∨
      ∃ a, t.result = .ok a ∧ (t >>= k).events.filterMap f = (k a).events.filterMap f := by
  cases h : t.result with
  | error r =>
      rw [bind_error h]
      exact .inl ht
  | ok a =>
      refine .inr ⟨a, rfl, ?_⟩
      rw [bind_ok h, List.filterMap_append, ht, List.nil_append]

end Quiet

/-- Nothing is done but what is allowed. -/
def Only (p : E → Prop) (t : Trace E R α) : Prop := ∀ e ∈ t.events, p e

section Only

variable {p : E → Prop} {t : Trace E R α} {f : α → Trace E R β}

theorem only_pure (a : α) : Only p (pure a : Trace E R α) := List.forall_mem_nil _

theorem only_stop (r : R) : Only p (stop r : Trace E R α) := List.forall_mem_nil _

theorem only_need (r : R) (o : Option α) : Only p (need r o : Trace E R α) := by
  cases o with
  | none => exact only_stop r
  | some a => exact only_pure a

theorem only_bind :
    Only p (t >>= f) ↔ Only p t ∧ ∀ a, t.result = .ok a → Only p (f a) := by
  rw [Only, Only]
  cases h : t.result with
  | error r => simp [bind_error h]
  | ok a => simp only [bind_ok h, List.forall_mem_append, Except.ok.injEq, forall_eq', Only]

theorem only_emit_bind {e : E} {g : Unit → Trace E R β} :
    Only p (emit e >>= g) ↔ p e ∧ Only p (g ()) := by
  rw [emit_bind]
  exact List.forall_mem_cons

theorem only_emits_bind {es : List E} {g : Unit → Trace E R β} :
    Only p (emits es >>= g) ↔ (∀ e ∈ es, p e) ∧ Only p (g ()) := by
  rw [emits_bind]
  exact List.forall_mem_append

theorem Only.bind (ht : Only p t) (hf : ∀ a, Only p (f a)) : Only p (t >>= f) :=
  only_bind.mpr ⟨ht, fun a _ => hf a⟩

end Only

def fate (t : Trace E R α) : Option R :=
  match t.result with
  | .error r => some r
  | .ok _ => none

section Fate

variable {t u : Trace E R α} {f g : α → Trace E R β}

theorem fate_of_ok {a : α} (h : t.result = .ok a) : fate t = none := by rw [fate, h]

theorem fate_eq_none : fate t = none ↔ ∃ a, t.result = .ok a := by
  rw [fate]
  cases t.result with
  | error r => simp
  | ok a => simp

theorem fate_bind_error {r : R} (h : t.result = .error r) : fate (t >>= f) = some r := by
  rw [bind_error h]
  rfl

theorem fate_bind_ok {a : α} (h : t.result = .ok a) : fate (t >>= f) = fate (f a) := by
  rw [bind_ok h]
  rfl

theorem fate_bind_congr_result (h : t.result = u.result) (hfg : ∀ a, fate (f a) = fate (g a)) :
    fate (t >>= f) = fate (u >>= g) := by
  cases ht : t.result with
  | error r => rw [fate_bind_error ht, fate_bind_error (h ▸ ht)]
  | ok a => rw [fate_bind_ok ht, fate_bind_ok (h ▸ ht), hfg]

theorem fate_bind_congr (h : fate t = fate u) (hfg : ∀ a b, fate (f a) = fate (g b)) :
    fate (t >>= f) = fate (u >>= g) := by
  rw [fate, fate] at h
  cases ht : t.result with
  | error r =>
      cases hu : u.result with
      | error r' =>
          rw [ht, hu] at h
          rw [fate_bind_error ht, fate_bind_error hu]
          exact h
      | ok b =>
          rw [ht, hu] at h
          cases h
  | ok a =>
      cases hu : u.result with
      | error r =>
          rw [ht, hu] at h
          cases h
      | ok b => rw [fate_bind_ok ht, fate_bind_ok hu, hfg]

end Fate

end LibLxi.Tracing

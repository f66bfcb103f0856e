import LibLxi.SessionMap
import LibLxi.SharedHandles

namespace LibLxi.Linearization

open Application Lxi Machine SessionInvariant SessionMap SharedHandles Threads

variable {T : Type}

/-- The call that an operation is when it is made alone, with this outcome of its
backend function. -/
def alone (op : Operation) (device outcome : Int) : Option (Call Unit) :=
  match op with
  | .connect => none
  | .send => some (.send device (returns outcome))
  | .receive => some (.receive device (returns outcome))
  | .disconnect => some (.disconnect device (returns outcome))

def finishOf [DecidableEq T] (t : T) : Action T → Option Int
  | .finish u outcome => if u = t then some outcome else none
  | _ => none

/-- What the backend function that a thread is about to call will return, if it
does: 0 stands for the outcome of one that does not. -/
def outcomeOf [DecidableEq T] (t : T) (as : List (Action T)) : Int :=
  (as.findSome? (finishOf t)).getD 0

/-- The call that takes effect with a step of a thread, in front of the given
steps: a connect and a teardown in their sections, a transfer where it calls the
backend, and a refused call where its check fails. -/
def point [DecidableEq T] (s : Sys T) (as : List (Action T)) : Action T → Option (Call Unit)
  | .connect _ protocol outcome => some (.connect protocol (returns outcome))
  | .check t =>
      match s.pc t with
      | .checking op device =>
          if isValidSession s.lib.session device = false then alone op device 0 else none
      | _ => none
  | .call t =>
      match s.pc t with
      | .inside device _ (.reading op _ _) => alone op device (outcomeOf t as)
      | _ => none
  | .teardown t outcome =>
      match s.pc t with
      | .inside device _ .locking => some (.disconnect device (returns outcome))
      | _ => none
  | _ => none

def thread : Action T → T
  | .connect t _ _ => t
  | .enter t _ _ => t
  | .check t => t
  | .loadFn t => t
  | .loadData t => t
  | .call t => t
  | .finish t _ => t
  | .teardown t _ => t

abbrev Request := Operation × Option Int

def request : Call Unit → Request
  | .connect _ _ => (.connect, none)
  | .send device _ => (.send, some device)
  | .receive device _ => (.receive, some device)
  | .disconnect device _ => (.disconnect, some device)

def asked : Action T → Option Request
  | .connect _ _ _ => some (.connect, none)
  | .enter _ op device => some (op, some device)
  | _ => none

def pending : Pc → Option Request
  | .idle => none
  | .checking op device => some (op, some device)
  | .inside device _ (.reading op _ _) => some (op, some device)
  | .inside _ _ (.calling _ _ _) => none
  | .inside device _ .locking => some (.disconnect, some device)

def Transferring : Pc → Prop
  | .checking op _ => op ≠ .connect
  | .inside _ _ (.reading op _ _) => op = .send ∨ op = .receive
  | _ => True

/-- What a transfer is to return that has taken effect and runs. -/
def owed [DecidableEq T] (t : T) (as : List (Action T)) : Pc → Option Int
  | .inside _ _ (.calling _ _ _) => some (transferResult (outcomeOf t as))
  | _ => none

theorem request_alone {op : Operation} (hop : op ≠ .connect) (device outcome : Int) :
    (alone op device outcome).map request = some (op, some device) := by
  cases op with
  | connect => exact absurd rfl hop
  | disconnect => rfl
  | send => rfl
  | receive => rfl

section Steps

variable [DecidableEq T] {s s' : Sys T}

def points (s : Sys T) : List (Action T) → List (T × Call Unit)
  | [] => []
  | a :: as =>
      ((point s as a).map (thread a, ·)).toList ++ ((step s a).map fun t => points t as).getD []

def requests (t : T) (order : List (T × Call Unit)) : List Request :=
  order.filterMap fun x => if x.1 = t then some (request x.2) else none

def answered (t : T) (order : List (T × Call Unit)) (results : List Int) : List Int :=
  (order.zip results).filterMap fun x => if x.1.1 = t then some x.2 else none

def requested (t : T) (actions : List (Action T)) : List Request :=
  actions.filterMap fun a => if thread a = t then asked a else none

theorem points_cons {a : Action T} (h : step s a = some s') (as : List (Action T)) :
    points s (a :: as) = ((point s as a).map (thread a, ·)).toList ++ points s' as := by
  rw [points, h, Option.map_some, Option.getD_some]

theorem calls_cons {a : Action T} (h : step s a = some s') (as : List (Action T)) :
    (points s (a :: as)).map (·.2) = (point s as a).toList ++ (points s' as).map (·.2) := by
  rw [points_cons h, List.map_append, Option.toList_map, List.map_map]
  simp [Function.comp_def]

theorem transferring_goto {t : T} {pc : Pc} (h : ∀ u, Transferring (s.pc u)) (ht : Transferring pc)
    (u : T) : Transferring ((s.goto t pc).pc u) := by
  by_cases hu : u = t
  · subst u
    simpa [Sys.goto] using ht
  · simpa [Sys.goto, hu] using h u

theorem step_transferring {a : Action T} (h : ∀ u, Transferring (s.pc u)) (hstep : step s a = some s') :
    ∀ u, Transferring (s'.pc u) := by
  cases a with
  | connect t protocol outcome =>
      obtain ⟨-, r, lib, -, rfl⟩ := connectStep_cases hstep
      exact transferring_goto h trivial
  | enter t op device =>
      obtain ⟨⟨-, hop⟩, rfl⟩ := of_guard hstep
      exact transferring_goto h hop
  | check t =>
      obtain ⟨op, device, hpc, ⟨-, rfl⟩ | ⟨-, rfl⟩⟩ := checkStep_cases hstep
      · exact transferring_goto h trivial
      · have hop : op ≠ .connect := by simpa only [hpc, Transferring] using h t
        refine transferring_goto h ?_
        cases op with
        | connect => exact absurd rfl hop
        | disconnect => trivial
        | send => exact .inl rfl
        | receive => exact .inr rfl
  | loadFn t =>
      obtain ⟨device, seen, op, data, hpc, rfl⟩ := loadFnStep_cases hstep
      have hop : op = .send ∨ op = .receive := by simpa only [hpc, Transferring] using h t
      exact transferring_goto h hop
  | loadData t =>
      obtain ⟨device, seen, op, fn, hpc, rfl⟩ := loadDataStep_cases hstep
      have hop : op = .send ∨ op = .receive := by simpa only [hpc, Transferring] using h t
      exact transferring_goto h hop
  | call t =>
      obtain ⟨device, seen, op, fn, data, -, rfl⟩ := callStep_cases hstep
      exact transferring_goto h trivial
  | finish t outcome =>
      obtain ⟨-, rfl⟩ := finishStep_cases hstep
      exact transferring_goto h trivial
  | teardown t outcome =>
      obtain ⟨device, seen, r, lib, -, -, rfl⟩ := teardownStep_cases hstep
      exact transferring_goto h trivial

def Alone (lib lib' : State Unit) : Option (Call Unit) → Option Int → Prop
  | none, none => lib' = lib
  | some call, some r => call.Inside ∧ Application.perform lib call = some (r, lib')
  | _, _ => False

theorem alone_refused {lib : State Unit} {op : Operation} {device : Int} (hop : op ≠ .connect)
    (hd : device ≠ sessionsMax) (h : isValidSession lib.session device = false) :
    Alone lib lib (alone op device 0) (some lxiError) := by
  have hmem : ∀ d ∈ some device, d ≠ sessionsMax := by
    rintro d ⟨⟩
    exact hd
  cases op with
  | connect => exact absurd rfl hop
  | disconnect => exact ⟨hmem, lxiDisconnect_invalid h⟩
  | send => exact ⟨hmem, lxiSend_invalid h⟩
  | receive => exact ⟨hmem, lxiReceive_invalid h⟩

theorem device_ne {lib : State Unit} {i : Nat} {c : Conn} (h : Live lib i c) :
    ∀ d ∈ some (i : Int), d ≠ sessionsMax := by
  rintro d ⟨⟩
  have := h.1
  omega

theorem alone_called {lib : State Unit} {i : Nat} {c : Conn} (h : Live lib i c) {op : Operation}
    (hop : op = .send ∨ op = .receive) (outcome : Int) :
    Alone lib (lib.emit (.call op (some c.backend) (some c.block))) (alone op i outcome)
      (some (transferResult outcome)) := by
  rcases hop with rfl | rfl
  · exact ⟨device_ne h, lxiSend_live h⟩
  · exact ⟨device_ne h, lxiReceive_live h⟩

def Told (s s' : Sys T) (a : Action T) (as : List (Action T)) (r : Option Int) : Prop :=
  (s.answers (thread a)).reverse ++ (owed (thread a) (a :: as) (s.pc (thread a))).toList ++ r.toList =
    (s'.answers (thread a)).reverse ++ (owed (thread a) as (s'.pc (thread a))).toList

theorem step_alone {a : Action T} (hs : Invariant s) (hpcs : ∀ u, Transferring (s.pc u))
    (ha : Exclusive s a) (hstep : step s a = some s') (as : List (Action T)) :
    ∃ r, Alone s.lib s'.lib (point s as a) r ∧ Told s s' a as r := by
  cases a with
  | connect t protocol outcome =>
      obtain ⟨hidle, r, lib, hconnect, rfl⟩ := connectStep_cases hstep
      refine ⟨some r, ⟨by rintro d ⟨⟩, hconnect⟩, ?_⟩
      simp [Told, thread, owed, hidle, Sys.returned, Sys.goto]
  | enter t op device =>
      obtain ⟨⟨hidle, -⟩, rfl⟩ := of_guard hstep
      refine ⟨none, rfl, ?_⟩
      simp [Told, thread, owed, hidle, Sys.goto]
  | check t =>
      obtain ⟨op, device, hpc, ⟨hvalid, rfl⟩ | ⟨hvalid, rfl⟩⟩ := checkStep_cases hstep
      · have hop : op ≠ .connect := by simpa only [hpc, Transferring] using hpcs t
        refine ⟨some lxiError, ?_, ?_⟩
        · simp only [point, hpc, hvalid, if_true]
          exact alone_refused hop (ha op device hpc) hvalid
        · simp [Told, thread, owed, hpc, Sys.returned, Sys.goto]
      · refine ⟨none, ?_, ?_⟩
        · simp only [point, hpc, hvalid, Bool.true_eq_false, if_false]
          rfl
        · cases op <;> simp [Told, thread, owed, hpc, Sys.goto, stageOf]
  | loadFn t =>
      obtain ⟨device, seen, op, data, hpc, rfl⟩ := loadFnStep_cases hstep
      refine ⟨none, rfl, ?_⟩
      simp [Told, thread, owed, hpc, Sys.goto]
  | loadData t =>
      obtain ⟨device, seen, op, fn, hpc, rfl⟩ := loadDataStep_cases hstep
      refine ⟨none, rfl, ?_⟩
      simp [Told, thread, owed, hpc, Sys.goto]
  | call t =>
      obtain ⟨device, seen, op, fn, data, hpc, rfl⟩ := callStep_cases hstep
      obtain ⟨i, c, rfl, hc, -, hfn, hdata⟩ := hs.inside hpc
      have hop : op = .send ∨ op = .receive := by simpa only [hpc, Transferring] using hpcs t
      obtain rfl := hfn fn rfl
      obtain rfl := hdata data rfl
      refine ⟨some (transferResult (outcomeOf t as)), ?_, ?_⟩
      · simp only [point, hpc]
        exact alone_called hc hop _
      · simp [Told, thread, owed, hpc, Sys.goto]
  | finish t outcome =>
      obtain ⟨⟨device, seen, op, fn, data, hpc⟩, rfl⟩ := finishStep_cases hstep
      refine ⟨none, rfl, ?_⟩
      simp [Told, thread, owed, outcomeOf, finishOf, hpc, Sys.returned, Sys.goto]
  | teardown t outcome =>
      obtain ⟨device, seen, r, lib, hpc, hsection, rfl⟩ := teardownStep_cases hstep
      obtain ⟨i, c, rfl, hc, -⟩ := hs.inside hpc
      refine ⟨some r, ?_, ?_⟩
      · simp only [point, hpc]
        refine ⟨device_ne hc, ?_⟩
        rw [Int.toNat_natCast, disconnectSection_live hc] at hsection
        exact (lxiDisconnect_live hc).trans hsection
      · simp [Told, thread, owed, hpc, Sys.returned, Sys.goto]

theorem pc_goto_self (s : Sys T) (t : T) (pc : Pc) : (s.goto t pc).pc t = pc := by
  simp [Sys.goto]

theorem pc_returned_self (s : Sys T) (t : T) (r : Int) : (s.returned t r).pc t = .idle :=
  Function.update_self _ _ _

theorem goto_other (s : Sys T) {t u : T} (h : t ≠ u) (pc : Pc) :
    (s.goto t pc).pc u = s.pc u ∧ (s.goto t pc).answers u = s.answers u :=
  ⟨Function.update_of_ne h.symm _ _, rfl⟩

theorem returned_other (s : Sys T) {t u : T} (h : t ≠ u) (r : Int) :
    (s.returned t r).pc u = s.pc u ∧ (s.returned t r).answers u = s.answers u :=
  ⟨Function.update_of_ne h.symm _ _, Function.update_of_ne h.symm _ _⟩

theorem step_other {a : Action T} (hstep : step s a = some s') {u : T} (hu : thread a ≠ u) :
    s'.pc u = s.pc u ∧ s'.answers u = s.answers u := by
  cases a with
  | connect t protocol outcome =>
      obtain ⟨-, r, lib, -, rfl⟩ := connectStep_cases hstep
      exact returned_other _ hu _
  | enter t op device =>
      obtain ⟨-, rfl⟩ := of_guard hstep
      exact goto_other s hu _
  | check t =>
      obtain ⟨op, device, -, ⟨-, rfl⟩ | ⟨-, rfl⟩⟩ := checkStep_cases hstep
      · exact returned_other s hu _
      · exact goto_other s hu _
  | loadFn t =>
      obtain ⟨device, seen, op, data, -, rfl⟩ := loadFnStep_cases hstep
      exact goto_other s hu _
  | loadData t =>
      obtain ⟨device, seen, op, fn, -, rfl⟩ := loadDataStep_cases hstep
      exact goto_other s hu _
  | call t =>
      obtain ⟨device, seen, op, fn, data, -, rfl⟩ := callStep_cases hstep
      exact goto_other _ hu _
  | finish t outcome =>
      obtain ⟨-, rfl⟩ := finishStep_cases hstep
      exact returned_other s hu _
  | teardown t outcome =>
      obtain ⟨device, seen, r, lib, -, -, rfl⟩ := teardownStep_cases hstep
      exact returned_other _ hu _

theorem owed_other {a : Action T} {u : T} (hu : thread a ≠ u) (as : List (Action T)) (pc : Pc) :
    owed u (a :: as) pc = owed u as pc := by
  have hnone : finishOf u a = none := by
    cases a with
    | finish t outcome => exact if_neg hu
    | _ => rfl
  cases pc with
  | inside device seen stage => cases stage <;> simp [owed, outcomeOf, hnone]
  | _ => rfl

theorem step_pending {a : Action T} (hpcs : ∀ u, Transferring (s.pc u)) (hstep : step s a = some s')
    (as : List (Action T)) :
    (pending (s.pc (thread a))).toList ++ (asked a).toList =
      ((point s as a).map request).toList ++ (pending (s'.pc (thread a))).toList := by
  cases a with
  | connect t protocol outcome =>
      obtain ⟨hidle, r, lib, -, rfl⟩ := connectStep_cases hstep
      simp [thread, asked, point, pending, request, hidle, pc_returned_self]
  | enter t op device =>
      obtain ⟨⟨hidle, -⟩, rfl⟩ := of_guard hstep
      simp [thread, asked, point, pending, hidle, pc_goto_self]
  | check t =>
      obtain ⟨op, device, hpc, ⟨hvalid, rfl⟩ | ⟨hvalid, rfl⟩⟩ := checkStep_cases hstep
      all_goals have hop : op ≠ .connect := by simpa only [hpc, Transferring] using hpcs t
      · simp [thread, asked, point, pending, hpc, hvalid, pc_returned_self, request_alone hop]
      · cases op with
        | connect => exact absurd rfl hop
        | disconnect => simp [thread, asked, point, pending, hpc, hvalid, pc_goto_self, stageOf]
        | send => simp [thread, asked, point, pending, hpc, hvalid, pc_goto_self, stageOf]
        | receive => simp [thread, asked, point, pending, hpc, hvalid, pc_goto_self, stageOf]
  | loadFn t =>
      obtain ⟨device, seen, op, data, hpc, rfl⟩ := loadFnStep_cases hstep
      simp [thread, asked, point, pending, hpc, pc_goto_self]
  | loadData t =>
      obtain ⟨device, seen, op, fn, hpc, rfl⟩ := loadDataStep_cases hstep
      simp [thread, asked, point, pending, hpc, pc_goto_self]
  | call t =>
      obtain ⟨device, seen, op, fn, data, hpc, rfl⟩ := callStep_cases hstep
      have hop : op = .send ∨ op = .receive := by simpa only [hpc, Transferring] using hpcs t
      have hne : op ≠ .connect := by
        rcases hop with rfl | rfl
        · decide
        · decide
      simp [thread, asked, point, pending, hpc, pc_goto_self, request_alone hne]
  | finish t outcome =>
      obtain ⟨⟨device, seen, op, fn, data, hpc⟩, rfl⟩ := finishStep_cases hstep
      simp [thread, asked, point, pending, hpc, pc_returned_self]
  | teardown t outcome =>
      obtain ⟨device, seen, r, lib, hpc, -, rfl⟩ := teardownStep_cases hstep
      simp [thread, asked, point, pending, request, hpc, pc_returned_self]

theorem step_requests {a : Action T} (hpcs : ∀ u, Transferring (s.pc u)) (hstep : step s a = some s')
    (as : List (Action T)) (u : T) :
    (pending (s.pc u)).toList ++ requested u [a] =
      requests u ((point s as a).map (thread a, ·)).toList ++ (pending (s'.pc u)).toList := by
  by_cases hu : thread a = u
  · subst u
    have h := step_pending hpcs hstep as
    cases hasked : asked a <;> cases hpoint : point s as a <;>
      simpa [requested, requests, hasked, hpoint] using h
  · rw [(step_other hstep hu).1]
    cases point s as a <;> simp [requested, requests, hu]

theorem requested_cons (u : T) (a : Action T) (as : List (Action T)) :
    requested u (a :: as) = requested u [a] ++ requested u as :=
  List.filterMap_append (l := [a])

theorem requests_append (u : T) (xs ys : List (T × Call Unit)) :
    requests u (xs ++ ys) = requests u xs ++ requests u ys :=
  List.filterMap_append

/-- A thread's calls take effect in the order in which it made them, and of its
last one only the point can be missing. -/
theorem run_requests (hpcs : ∀ u, Transferring (s.pc u)) {as : List (Action T)}
    (hrun : run step s as = some s') (u : T) :
    (pending (s.pc u)).toList ++ requested u as =
      requests u (points s as) ++ (pending (s'.pc u)).toList := by
  induction as generalizing s with
  | nil =>
      obtain rfl := Option.some.inj hrun
      simp [requested, requests, points]
  | cons a as ih =>
      obtain ⟨t, hstep, hrun⟩ := run_cons_eq_some.mp hrun
      rw [points_cons hstep, requested_cons, requests_append, ← List.append_assoc,
        step_requests hpcs hstep as u, List.append_assoc, List.append_assoc,
        ih (step_transferring hpcs hstep) hrun]

theorem answered_append (u : T) {xs ys : List (T × Call Unit)} {rs rs' : List Int}
    (h : xs.length = rs.length) :
    answered u (xs ++ ys) (rs ++ rs') = answered u xs rs ++ answered u ys rs' := by
  rw [answered, List.zip_append h, List.filterMap_append]
  rfl

theorem run_alone (hs : Invariant s) (hpcs : ∀ u, Transferring (s.pc u)) {as : List (Action T)}
    (hexclusive : Along step Exclusive s as) (hrun : run step s as = some s') :
    (∀ call ∈ (points s as).map (·.2), call.Inside) ∧
      ∃ results,
        outputs Application.perform s.lib ((points s as).map (·.2)) = some (results, s'.lib) ∧
          ∀ u, (s.answers u).reverse ++ (owed u as (s.pc u)).toList ++
              answered u (points s as) results =
            (s'.answers u).reverse ++ (owed u [] (s'.pc u)).toList := by
  induction as generalizing s with
  | nil =>
      obtain rfl := Option.some.inj hrun
      exact ⟨by simp [points], [], rfl, fun u => List.append_nil _⟩
  | cons a as ih =>
      obtain ⟨t, hstep, hrun⟩ := run_cons_eq_some.mp hrun
      obtain ⟨r, halone, htold⟩ := step_alone hs hpcs hexclusive.1 hstep as
      obtain ⟨hin, results, hout, hanswers⟩ :=
        ih (step_invariant hs hexclusive.1 hstep) (step_transferring hpcs hstep)
          (hexclusive.2 t hstep) hrun
      -- what the point gives is the next result of its thread
      have hown (u : T) (order : List (T × Call Unit)) (hlength : order.length = r.toList.length)
          (horder : ∀ x ∈ order, x.1 = thread a) :
          (s.answers u).reverse ++ (owed u (a :: as) (s.pc u)).toList ++
              answered u (order ++ points t as) (r.toList ++ results) =
            (s'.answers u).reverse ++ (owed u [] (s'.pc u)).toList := by
        rw [answered_append u hlength, ← hanswers u, ← List.append_assoc]
        apply congrArg (· ++ answered u (points t as) results)
        by_cases hu : thread a = u
        · subst u
          have hall : answered (thread a) order r.toList = r.toList := by
            cases r with
            | none => simp [answered]
            | some r =>
                obtain ⟨x, rfl⟩ := List.length_eq_one_iff.mp hlength
                simp [answered, horder x (by simp)]
          rw [hall]
          exact htold
        · have hnone : answered u order r.toList = [] := by
            apply List.filterMap_eq_nil_iff.mpr
            intro x hx
            rw [if_neg]
            rw [horder x.1 (List.of_mem_zip hx).1]
            exact hu
          rw [hnone, List.append_nil, owed_other hu, (step_other hstep hu).1,
            (step_other hstep hu).2]
      rw [calls_cons hstep, points_cons hstep]
      cases hpoint : point s as a with
      | none =>
          rw [hpoint] at halone
          cases r with
          | some r => exact halone.elim
          | none =>
              have hlib : t.lib = s.lib := halone
              rw [hlib] at hout
              exact ⟨hin, results, hout, fun u => hown u [] rfl (by simp)⟩
      | some call =>
          rw [hpoint] at halone
          cases r with
          | none => exact halone.elim
          | some r =>
              obtain ⟨hd, hcall⟩ := halone
              refine ⟨List.forall_mem_cons.mpr ⟨hd, hin⟩, r :: results, ?_, fun u => ?_⟩
              · rw [Option.toList_some, List.singleton_append, outputs_cons hcall, hout,
                  Option.map_some]
              · exact hown u [(thread a, call)] rfl (by simp)

end Steps

/-- Calls one after the other on the library and on the finite map return the same
values and end in states that agree. -/
structure Sequential (lib : State Unit) (m : Spec Unit) (calls : List (Call Unit))
    (results : List Int) (lib' : State Unit) : Prop where
  library : outputs Application.perform lib calls = some (results, lib')
  map : ∃ m', outputs SessionMap.perform m calls = some (results, m') ∧ Refines lib' m'

theorem sequential_of_outputs {lib lib' : State Unit} {m : Spec Unit} (hm : Refines lib m)
    {calls : List (Call Unit)} (hin : ∀ call ∈ calls, call.Inside) {results : List Int}
    (hout : outputs Application.perform lib calls = some (results, lib')) :
    Sequential lib m calls results lib' := by
  have hrel := outputs_refines hm hin
  rw [hout] at hrel
  cases hspec : outputs SessionMap.perform m calls with
  | none =>
      rw [hspec] at hrel
      cases hrel
  | some y =>
      rw [hspec] at hrel
      cases hrel with
      | some hagree =>
          obtain ⟨results', m'⟩ := y
          obtain ⟨rfl, hend⟩ : results = results' ∧ Refines lib' m' := hagree
          exact ⟨hout, m', hspec, hend⟩

/-- The calls of the threads can be put in an order in which they are made one after
the other: with the same answers, and the same library state at the end. -/
structure Linearized [DecidableEq T] (session : Nat → Session) (actions : List (Action T))
    (s : Sys T) (order : List (T × Call Unit)) (results : List Int) : Prop where
  sequential : Sequential (initial session ()) (empty ()) (order.map (·.2)) results s.lib
  requests : ∀ t, requested t actions = requests t order ++ (pending (s.pc t)).toList
  answers : ∀ t, answered t order results = (s.answers t).reverse ++ (owed t [] (s.pc t)).toList

/-- Calls of threads that share handles are linearizable as long as no teardown of a
handle overlaps with another call that has passed its check on it and nobody checks
the index behind the array. Each takes effect at its point, a step between its first
and its last one, and returns what it returns there. -/
theorem threads_linearize [DecidableEq T] {session : Nat → Session} {actions : List (Action T)}
    {s : Sys T} (hexclusive : Along step Exclusive (start session) actions)
    (hrun : run step (start session) actions = some s) :
    ∃ results, Linearized session actions s (points (start session) actions) results := by
  have hpcs (u : T) : Transferring ((start session : Sys T).pc u) := trivial
  obtain ⟨hin, results, hout, hanswers⟩ :=
    run_alone (invariant_start session) hpcs hexclusive hrun
  exact ⟨results, sequential_of_outputs (refines_initial session ()) hin hout,
    fun t => run_requests hpcs hrun t, hanswers⟩

def overlapping : List (Action Bool) :=
  [.connect false .raw 0, .enter false .send 0, .enter true .send 0, .check false, .check true,
    .loadFn true, .loadData false, .loadData true, .loadFn false, .call true, .call false,
    .finish true 7, .enter true .send 3, .check true]

theorem threads_linearize_overlapping :
    ∃ s results, run step (start default) overlapping = some s ∧
      Linearized default overlapping s (points (start default) overlapping) results := by
  have hexclusive : Along step Exclusive (start default) overlapping := by
    refine (along_cons_of_step (step_start _ _)).mpr ⟨trivial, ?_⟩
    iterate 2 refine (along_cons_of_step rfl).mpr ⟨trivial, ?_⟩
    iterate 2
      refine (along_cons_of_step rfl).mpr ⟨?_, ?_⟩
      · rintro op device ⟨⟩
        decide
    iterate 8 refine (along_cons_of_step rfl).mpr ⟨trivial, ?_⟩
    refine (along_cons_of_step rfl).mpr ⟨?_, trivial⟩
    rintro op device ⟨⟩
    decide
  have hrun : ∃ s, run step (start default) overlapping = some s := by
    rw [overlapping, run_cons, step_start, Option.bind_some]
    exact ⟨_, rfl⟩
  obtain ⟨s, hrun⟩ := hrun
  obtain ⟨results, hlinearized⟩ := threads_linearize hexclusive hrun
  exact ⟨s, results, hrun, hlinearized⟩

end LibLxi.Linearization

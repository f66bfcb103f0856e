import LibLxi.SessionMap
import LibLxi.SharedHandles

namespace LibLxi.OwnedHandles

open Lxi Machine SessionInvariant SharedHandles Threads
open SessionMap (freeSession_least maxLive told transferResult_eq_told)

variable {T : Type}

inductive Doing
  | nothing
  | asked (op : Operation) (device : Int)
  | served (op : Operation) (device : Int)

def Doing.device : Doing → Option Int
  | .nothing => none
  | .asked _ device => some device
  | .served _ device => some device

/-- What threads are owed that keep to their own handles: the connections each of
them has made and not given up, what its calls return, and what the backends and
the heap see, newest first. Nothing here is taken from the table. -/
structure Account (T : Type) where
  own : T → Nat → Option Conn
  doing : T → Doing
  answers : T → List Int
  blocks : Block
  log : List Event

def opening : Account T := ⟨fun _ _ => none, fun _ => .nothing, fun _ => [], 0, []⟩

namespace Account

variable [DecidableEq T]

noncomputable def leastUnused (A : Account T) : Nat := sInf { i | ∀ t, A.own t i = none }

def goto (A : Account T) (t : T) (doing : Doing) : Account T :=
  { A with doing := Function.update A.doing t doing }

def returned (A : Account T) (t : T) (r : Int) : Account T :=
  { A with answers := Function.update A.answers t (r :: A.answers t) }.goto t .nothing

def hold (A : Account T) (t : T) (i : Nat) (c : Option Conn) : Account T :=
  { A with own := Function.update A.own t (Function.update (A.own t) i c) }

/-- A connect over a protocol that is spoken takes a new block and calls the
backend on it; if that fails the block is freed at once. -/
noncomputable def connect (A : Account T) (t : T) (protocol : Protocol) (outcome : Int) :
    Account T :=
  if A.leastUnused < maxLive then
    match spoken protocol with
    | none => A.returned t lxiError
    | some backend =>
        let c : Conn := ⟨backend, A.blocks⟩
        let log : List Event :=
          .call .connect (some backend) (some c.block) :: .malloc c.block :: A.log
        if outcome = 0 then
          ({ A with blocks := A.blocks + 1, log }.hold t A.leastUnused (some c)).returned t
            A.leastUnused
        else { A with blocks := A.blocks + 1, log := .free (some c.block) :: log }.returned t lxiError
  else
    { A with log := .error (.text "Too many active sessions!\n") :: A.log }.returned t lxiError

def transfer (A : Account T) (t : T) : Account T :=
  match A.doing t with
  | .asked op device =>
      match A.own t device.toNat with
      | some c =>
          { A with log := .call op (some c.backend) (some c.block) :: A.log }.goto t (.served op device)
      | none => A
  | _ => A

def disconnect (A : Account T) (t : T) : Account T :=
  match A.doing t with
  | .asked .disconnect device =>
      match A.own t device.toNat with
      | some c =>
          ({ A with
            log := .free (some c.block) ::
              .call .disconnect (some c.backend) (some c.block) :: A.log }.hold t device.toNat
              none).returned t lxiOk
      | none => A
  | _ => A

def finish (A : Account T) (t : T) (outcome : Int) : Account T :=
  match A.doing t with
  | .served _ _ => A.returned t (told outcome)
  | _ => A

noncomputable def after (A : Account T) : Action T → Account T
  | .connect t protocol outcome => A.connect t protocol outcome
  | .enter t op device => A.goto t (.asked op device)
  | .check _ | .loadFn _ | .loadData _ => A
  | .call t => A.transfer t
  | .finish t outcome => A.finish t outcome
  | .teardown t _ => A.disconnect t

end Account

/-- A thread passes only handles that its own connects returned and that it has
not disconnected. -/
def OwnedUse (A : Account T) : Action T → Prop
  | .enter t _ device => ∃ (i : Nat) (c : Conn), device = i ∧ A.own t i = some c
  | _ => True

def KeepsToOwn [DecidableEq T] (A : Account T) : List (Action T) → Prop
  | [] => True
  | a :: as => OwnedUse A a ∧ KeepsToOwn (A.after a) as

noncomputable def account [DecidableEq T] (actions : List (Action T)) : Account T :=
  actions.foldl Account.after opening

/-- The threads get what they are owed: their calls return what the account says,
every backend function was called on the block of its own connection, and every
block was taken and freed as the account says. -/
structure Served (A : Account T) (s : Sys T) : Prop where
  log : s.lib.log = A.log
  answers : ∀ t, s.answers t = A.answers t
  distinct : ∀ t u i c d, A.own t i = some c → A.own u i = some d → t = u
  validates : ∀ t op device, s.pc t = .checking op device →
    isValidSession s.lib.session device = true
  reaches : ∀ t device seen stage, s.pc t = .inside device seen stage →
    ∃ (i : Nat) (c : Conn), device = i ∧ A.own t i = some c ∧ s.lib.session i = c.entry ∧
      Loaded c stage
  blocks : ∀ b < A.blocks,
    (∃ t i c, A.own t i = some c ∧ c.block = b) ∧ freed s.lib b = 0 ∨
      (∀ t i c, A.own t i = some c → c.block ≠ b) ∧ freed s.lib b = 1

def doingOf : Pc → Doing
  | .idle => .nothing
  | .checking op device => .asked op device
  | .inside device _ (.reading op _ _) => .asked op device
  | .inside device _ (.calling op _ _) => .served op device
  | .inside device _ .locking => .asked .disconnect device

structure Divided (A : Account T) (lib : State Unit) : Prop where
  own_live : ∀ {t i c}, A.own t i = some c → Live lib i c
  live_own : ∀ {i c}, Live lib i c → ∃ t, A.own t i = some c
  distinct : ∀ {t u i c d}, A.own t i = some c → A.own u i = some d → t = u
  blocks : lib.nextBlock = A.blocks
  log : lib.log = A.log

/-- Every thread is in a call on a handle of its own, as the account says. -/
structure Follows (A : Account T) (s : Sys T) : Prop where
  doing : ∀ t, A.doing t = doingOf (s.pc t)
  answers : ∀ t, s.answers t = A.answers t
  own : ∀ t, ∀ device ∈ (A.doing t).device,
    ∃ (i : Nat) (c : Conn), device = i ∧ A.own t i = some c

structure Owned (A : Account T) (s : Sys T) : Prop where
  shared : SharedHandles.Invariant s
  divided : Divided A s.lib
  follows : Follows A s

theorem doingOf_inside (device : Int) (seen : DataPtr) (stage : Stage) :
    (doingOf (.inside device seen stage)).device = some device := by
  cases stage <;> rfl

variable {A : Account T} {s s' : Sys T} {t : T}

theorem Owned.holds (h : Owned A s) {device : Int} (hd : (doingOf (s.pc t)).device = some device) :
    ∃ (i : Nat) (c : Conn), device = i ∧ A.own t i = some c := by
  apply h.follows.own t
  rw [h.follows.doing]
  exact hd

theorem Owned.served (h : Owned A s) : Served A s where
  log := h.divided.log
  answers := h.follows.answers
  distinct _ _ _ _ _ ht hu := h.divided.distinct ht hu
  validates t op device hpc := by
    obtain ⟨i, c, rfl, hc⟩ := h.holds (by rw [hpc]; rfl)
    exact (h.divided.own_live hc).isValidSession
  reaches t device seen stage hpc := by
    obtain ⟨i, c, rfl, hc⟩ := h.holds (by rw [hpc]; exact doingOf_inside _ _ _)
    obtain ⟨j, d, hij, hd, -, hloaded⟩ := h.shared.inside hpc
    obtain rfl : i = j := Int.ofNat.inj hij
    have hlive := h.divided.own_live hc
    exact ⟨i, c, rfl, hc, hlive.2, hlive.unique hd ▸ hloaded⟩
  blocks b hb := by
    rw [← h.divided.blocks] at hb
    by_cases hown : ∃ t i c, A.own t i = some c ∧ c.block = b
    · obtain ⟨t, i, c, hc, rfl⟩ := hown
      exact .inl ⟨⟨t, i, c, hc, rfl⟩,
        (h.shared.wellFormed.live_block (h.divided.own_live hc)).2⟩
    · refine .inr ⟨fun t i c hc he => hown ⟨t, i, c, hc, he⟩, ?_⟩
      apply h.shared.wellFormed.dead_block b hb
      intro i c hc he
      obtain ⟨t, ht⟩ := h.divided.live_own hc
      exact hown ⟨t, i, c, ht, he⟩

theorem Owned.exclusive (h : Owned A s) (a : Action T) : Exclusive s a := by
  have hlt {t : T} {device : Int} (hd : (doingOf (s.pc t)).device = some device) :
      device ≠ sessionsMax := by
    obtain ⟨i, c, rfl, hc⟩ := h.holds hd
    have := (h.divided.own_live hc).1
    omega
  have hwithin {pc : Pc} {device : Int} (hd : device ∈ pc.within) :
      (doingOf pc).device = some device := by
    cases pc with
    | idle => cases hd
    | checking op d => cases hd
    | inside d seen stage =>
        cases hd
        exact doingOf_inside _ _ _
  cases a with
  | check t =>
      intro op device hpc
      exact hlt (by rw [hpc]; rfl)
  | teardown t outcome =>
      intro device ht u hne hu
      obtain ⟨i, c, rfl, hc⟩ := h.holds (hwithin ht)
      obtain ⟨j, d, hij, hd⟩ := h.holds (hwithin hu)
      obtain rfl : i = j := Int.ofNat.inj hij
      exact hne (h.divided.distinct hd hc)
  | _ => trivial

theorem Divided.fail {i : Nat} {c : Conn} {w : Unit} {lib : State Unit} (h : Divided A lib)
    (hfree : (lib.session i).allocated = false) :
    Divided { A with
      blocks := A.blocks + 1
      log := .free (some c.block) :: .call .connect (some c.backend) (some c.block) ::
        .malloc c.block :: A.log } (connectFailed lib i c w) where
  own_live hd := (live_connectFailed hfree).mpr (h.own_live hd)
  live_own hd := h.live_own ((live_connectFailed hfree).mp hd)
  distinct := h.distinct
  blocks := congrArg (· + 1) h.blocks
  log := congrArg (_ :: _ :: _ :: ·) h.log

theorem Divided.emit {lib : State Unit} (h : Divided A lib) (e : Event) :
    Divided { A with log := e :: A.log } (lib.emit e) where
  own_live := h.own_live
  live_own := h.live_own
  distinct := h.distinct
  blocks := h.blocks
  log := congrArg (_ :: ·) h.log

theorem Divided.freeSession (h : Divided A s.lib) (hwf : WellFormed s.lib) :
    freeSession s.lib.session =
      if A.leastUnused < maxLive then some A.leastUnused else none := by
  have hnone {i : Nat} : (∀ t, A.own t i = none) ↔ ∀ c, ¬ Live s.lib i c := by
    constructor
    · intro h' c hc
      obtain ⟨t, ht⟩ := h.live_own hc
      rw [h' t] at ht
      cases ht
    · intro h' t
      cases hown : A.own t i with
      | none => rfl
      | some c => exact absurd (h.own_live hown) (h' c)
  apply freeSession_least
  · intro i hi
    rw [hnone]
    cases ha : (s.lib.session i).allocated with
    | false => exact iff_of_true (fun c => not_live_of_free ha) rfl
    | true =>
        obtain ⟨c, hc⟩ := hwf.live_entry i hi ha
        exact iff_of_false (fun h' => h' c hc) (by simp)
  · rw [hnone]
    exact fun c hc => Nat.lt_irrefl _ hc.1

section Steps

variable [DecidableEq T]

theorem own_hold (A : Account T) (t u : T) (i j : Nat) (c : Option Conn) :
    (A.hold t i c).own u j = if u = t ∧ j = i then c else A.own u j := by
  rw [Account.hold]
  by_cases hu : u = t
  · subst u
    by_cases hj : j = i <;> simp [hj]
  · simp [hu]

theorem Divided.grant {i : Nat} {c : Conn} {w : Unit} {lib : State Unit} (h : Divided A lib)
    (hi : i < sessionsMax) (hfree : (lib.session i).allocated = false)
    (hc : c.block = A.blocks) :
    Divided ({ A with
      blocks := A.blocks + 1
      log := .call .connect (some c.backend) (some c.block) :: .malloc c.block :: A.log }.hold t i
        (some c)) (connectDone lib i c w) := by
  -- an own entry is live, and this one was free
  have hnone {u : T} {d : Conn} : A.own u i ≠ some d := fun hd =>
    not_live_of_free hfree (h.own_live hd)
  refine ⟨?_, ?_, ?_, ?_, ?_⟩
  · intro u j d hd
    rw [own_hold] at hd
    refine (live_connectDone hi hfree).mpr ?_
    split at hd
    · exact .inl ⟨(‹u = t ∧ j = i›).2, (Option.some.inj hd).symm⟩
    · exact .inr (h.own_live hd)
  · intro j d hd
    simp only [own_hold]
    rcases (live_connectDone hi hfree).mp hd with ⟨rfl, rfl⟩ | hd
    · exact ⟨t, by simp⟩
    · obtain ⟨u, hu⟩ := h.live_own hd
      refine ⟨u, ?_⟩
      rw [if_neg fun hut => hnone (hut.2 ▸ hu)]
      exact hu
  · intro u v j d e hd he
    rw [own_hold] at hd he
    split at hd <;> split at he
    · rename_i hu hv
      exact hu.1.trans hv.1.symm
    · rename_i hu hv
      exact absurd (hu.2 ▸ he) hnone
    · rename_i hu hv
      exact absurd (hv.2 ▸ hd) hnone
    · exact h.distinct hd he
  · exact congrArg (· + 1) h.blocks
  · exact congrArg (_ :: _ :: ·) h.log

theorem Divided.release {i : Nat} {c : Conn} {w : Unit} {lib : State Unit} (h : Divided A lib)
    (hc : A.own t i = some c) :
    Divided ({ A with
      log := .free (some c.block) :: .call .disconnect (some c.backend) (some c.block) ::
        A.log }.hold t i none) (disconnectDone lib i c w) := by
  refine ⟨?_, ?_, ?_, h.blocks, congrArg (_ :: _ :: ·) h.log⟩
  · intro u j d hd
    rw [own_hold] at hd
    split at hd
    · cases hd
    · rename_i hut
      refine live_disconnectDone.mpr ⟨fun hj => hut ⟨?_, hj⟩, h.own_live hd⟩
      exact h.distinct (hj ▸ hd) hc
  · intro j d hd
    obtain ⟨hj, hd⟩ := live_disconnectDone.mp hd
    obtain ⟨u, hu⟩ := h.live_own hd
    exact ⟨u, by rw [own_hold, if_neg fun hut => hj hut.2]; exact hu⟩
  · intro u v j d e hd he
    rw [own_hold] at hd he
    split at hd
    · cases hd
    · split at he
      · cases he
      · exact h.distinct hd he

theorem Divided.goto {lib : State Unit} (h : Divided A lib) (t : T) (doing : Doing) :
    Divided (A.goto t doing) lib :=
  ⟨h.own_live, h.live_own, h.distinct, h.blocks, h.log⟩

theorem Divided.returned {lib : State Unit} (h : Divided A lib) (t : T) (r : Int) :
    Divided (A.returned t r) lib :=
  ⟨h.own_live, h.live_own, h.distinct, h.blocks, h.log⟩

theorem Follows.goto (h : Follows A s) (A' : Account T) {lib : State Unit}
    {teardowns : List (DataPtr × DataPtr)} (pc : Pc) (hA : A'.doing = A.doing)
    (hanswers : A'.answers = A.answers) (hown : ∀ u, u ≠ t → A'.own u = A.own u)
    (hpc : ∀ device ∈ (doingOf pc).device,
      ∃ (i : Nat) (c : Conn), device = i ∧ A'.own t i = some c) :
    Follows (A'.goto t (doingOf pc)) (({ s with lib, teardowns } : Sys T).goto t pc) where
  doing u := by
    by_cases hu : u = t
    · subst u
      simp [Account.goto, Sys.goto]
    · simpa [Account.goto, Sys.goto, hu, hA] using h.doing u
  answers u := by
    rw [Account.goto, hanswers]
    exact h.answers u
  own u device hd := by
    by_cases hu : u = t
    · subst u
      exact hpc device (by simpa [Account.goto] using hd)
    · have hd' : device ∈ (A.doing u).device := by simpa [Account.goto, hu, hA] using hd
      obtain ⟨i, c, rfl, hc⟩ := h.own u device hd'
      refine ⟨i, c, rfl, ?_⟩
      rw [Account.goto, hown u hu]
      exact hc

theorem Follows.returned (h : Follows A s) (A' : Account T) {lib : State Unit}
    {teardowns : List (DataPtr × DataPtr)} (hA : A'.doing = A.doing)
    (hanswers : A'.answers = A.answers) (hown : ∀ u, u ≠ t → A'.own u = A.own u) (r : Int) :
    Follows (A'.returned t r) (({ s with lib, teardowns } : Sys T).returned t r) := by
  have hgoto : Follows (A'.goto t (doingOf .idle)) (({ s with lib, teardowns } : Sys T).goto t .idle) :=
    h.goto A' .idle hA hanswers hown (by rintro device ⟨⟩)
  refine ⟨hgoto.doing, fun u => ?_, hgoto.own⟩
  by_cases hu : u = t
  · subst u
    simp [Account.returned, Account.goto, Sys.returned, Sys.goto, hanswers, h.answers]
  · simpa [Account.returned, Account.goto, Sys.returned, Sys.goto, hu, hanswers] using h.answers u

theorem connectStep_owned (hs : Owned A s) {protocol : Protocol} {outcome : Int}
    (h : connectStep s t protocol outcome = some s') :
    Owned (A.connect t protocol outcome) s' := by
  have hshared := connectStep_invariant hs.shared h
  obtain ⟨-, r, lib, hconnect, rfl⟩ := connectStep_cases h
  have hfree := hs.divided.freeSession hs.shared.wellFormed
  have hreturned {A' : Account T} (hA : A'.doing = A.doing) (hanswers : A'.answers = A.answers)
      (hown : ∀ u, u ≠ t → A'.own u = A.own u) (hdivided : Divided A' lib) :
      Owned (A'.returned t r) (({ s with lib } : Sys T).returned t r) :=
    ⟨hshared, hdivided.returned t r, hs.follows.returned A' hA hanswers hown r⟩
  rw [Account.connect]
  by_cases hlt : A.leastUnused < maxLive
  · rw [if_pos hlt] at hfree ⊢
    obtain ⟨hi, hunused, -⟩ := freeSession_some.mp hfree
    cases hb : spoken protocol with
    | none =>
        rw [lxiConnect_unsupported hfree ((backendOf_eq_spoken protocol).trans hb)] at hconnect
        obtain ⟨rfl, rfl⟩ := Prod.mk.inj (Option.some.inj hconnect)
        exact hreturned rfl rfl (fun _ _ => rfl) hs.divided
    | some backend =>
        rw [lxiConnect_supported hfree ((backendOf_eq_spoken protocol).trans hb), returns,
          Option.map_some, hs.divided.blocks] at hconnect
        by_cases h0 : outcome = 0
        · simp only [h0, if_true] at hconnect ⊢
          obtain ⟨rfl, rfl⟩ := Prod.mk.inj (Option.some.inj hconnect)
          refine hreturned rfl rfl (fun u hu => ?_) (hs.divided.grant hi hunused rfl)
          exact Function.update_of_ne hu _ _
        · simp only [h0, if_false] at hconnect ⊢
          obtain ⟨rfl, rfl⟩ := Prod.mk.inj (Option.some.inj hconnect)
          exact hreturned rfl rfl (fun _ _ => rfl) (hs.divided.fail (c := ⟨backend, A.blocks⟩) hunused)
  · rw [if_neg hlt] at hfree ⊢
    rw [lxiConnect_full hfree] at hconnect
    obtain ⟨rfl, rfl⟩ := Prod.mk.inj (Option.some.inj hconnect)
    exact hreturned rfl rfl (fun _ _ => rfl) (hs.divided.emit _)

theorem Owned.goto_same (hs : Owned A s) {pc : Pc} (hpc : doingOf pc = doingOf (s.pc t))
    (hshared : SharedHandles.Invariant (s.goto t pc)) : Owned A (s.goto t pc) where
  shared := hshared
  divided := hs.divided
  follows := by
    refine ⟨fun u => ?_, hs.follows.answers, hs.follows.own⟩
    by_cases hu : u = t
    · subst u
      simpa [Sys.goto, hpc] using hs.follows.doing t
    · simpa [Sys.goto, hu] using hs.follows.doing u

theorem checkStep_owned (hs : Owned A s) (h : checkStep s t = some s') : Owned A s' := by
  have hshared := checkStep_invariant hs.shared (hs.exclusive (.check t)) h
  obtain ⟨op, device, hpc, ⟨hinvalid, -⟩ | ⟨-, rfl⟩⟩ := checkStep_cases h
  · rw [hs.served.validates t op device hpc] at hinvalid
    cases hinvalid
  · refine hs.goto_same ?_ hshared
    rw [hpc]
    cases op <;> rfl

theorem callStep_owned (hs : Owned A s) (h : callStep s t = some s') :
    Owned (A.transfer t) s' := by
  have hshared := callStep_invariant hs.shared h
  obtain ⟨device, seen, op, fn, data, hpc, rfl⟩ := callStep_cases h
  obtain ⟨i, c, rfl, hc, -, hfn, hdata⟩ := hs.served.reaches t _ _ _ hpc
  obtain rfl := hfn fn rfl
  obtain rfl := hdata data rfl
  have hdoing : A.doing t = .asked op i := by rw [hs.follows.doing, hpc, doingOf]
  have htransfer : A.transfer t =
      { A with log := .call op (some c.backend) (some c.block) :: A.log }.goto t (.served op i) := by
    rw [Account.transfer, hdoing]
    simp only [Int.toNat_natCast, hc]
  rw [htransfer]
  refine ⟨hshared, (hs.divided.emit _).goto t _, ?_⟩
  refine hs.follows.goto _ (.inside i seen (.calling op (some c.backend) (some c.block))) rfl rfl
    (fun _ _ => rfl) ?_
  rintro device ⟨⟩
  exact ⟨i, c, rfl, hc⟩

theorem finishStep_owned (hs : Owned A s) {outcome : Int} (h : finishStep s t outcome = some s') :
    Owned (A.finish t outcome) s' := by
  have hshared := finishStep_invariant hs.shared h
  obtain ⟨⟨device, seen, op, fn, data, hpc⟩, rfl⟩ := finishStep_cases h
  have hdoing : A.doing t = .served op device := by rw [hs.follows.doing, hpc, doingOf]
  have hfinish : A.finish t outcome = A.returned t (transferResult outcome) := by
    rw [Account.finish, hdoing, transferResult_eq_told]
  rw [hfinish]
  exact ⟨hshared, hs.divided.returned t _, hs.follows.returned A rfl rfl (fun _ _ => rfl) _⟩

theorem teardownStep_owned (hs : Owned A s) {outcome : Int}
    (h : teardownStep s t outcome = some s') : Owned (A.disconnect t) s' := by
  have hshared := teardownStep_invariant hs.shared (hs.exclusive (.teardown t outcome)) h
  obtain ⟨device, seen, r, lib, hpc, hsection, rfl⟩ := teardownStep_cases h
  obtain ⟨i, c, rfl, hc, -⟩ := hs.served.reaches t _ _ _ hpc
  have hdoing : A.doing t = .asked .disconnect i := by rw [hs.follows.doing, hpc, doingOf]
  have hdisconnect : A.disconnect t = ({ A with
      log := .free (some c.block) :: .call .disconnect (some c.backend) (some c.block) ::
        A.log }.hold t i none).returned t lxiOk := by
    rw [Account.disconnect, hdoing]
    simp only [Int.toNat_natCast, hc]
  rw [Int.toNat_natCast] at hsection hshared
  rw [disconnectSection_live (hs.divided.own_live hc)] at hsection
  obtain ⟨rfl, rfl⟩ := Prod.mk.inj (Option.some.inj hsection)
  rw [hdisconnect, Int.toNat_natCast]
  refine ⟨hshared, (hs.divided.release hc).returned t lxiOk, ?_⟩
  apply hs.follows.returned
  · rfl
  · rfl
  · exact fun u hu => Function.update_of_ne hu _ _

theorem step_owned {a : Action T} (hs : Owned A s) (ha : OwnedUse A a) (h : step s a = some s') :
    Owned (A.after a) s' := by
  have hshared := step_invariant hs.shared (hs.exclusive a) h
  cases a with
  | connect t protocol outcome => exact connectStep_owned hs h
  | enter t op device =>
      obtain ⟨-, rfl⟩ := of_guard h
      refine ⟨hshared, hs.divided.goto t _, ?_⟩
      apply hs.follows.goto A (.checking op device) rfl rfl fun _ _ => rfl
      rintro device ⟨⟩
      exact ha
  | check t => exact checkStep_owned hs h
  | loadFn t =>
      obtain ⟨device, seen, op, data, hpc, rfl⟩ := loadFnStep_cases h
      exact hs.goto_same (by rw [hpc]; rfl) hshared
  | loadData t =>
      obtain ⟨device, seen, op, fn, hpc, rfl⟩ := loadDataStep_cases h
      exact hs.goto_same (by rw [hpc]; rfl) hshared
  | call t => exact callStep_owned hs h
  | finish t outcome => exact finishStep_owned hs h
  | teardown t outcome => exact teardownStep_owned hs h

theorem run_owned {actions : List (Action T)} (hs : Owned A s) (howned : KeepsToOwn A actions)
    (hrun : run step s actions = some s') : Owned (actions.foldl Account.after A) s' := by
  induction actions generalizing A s with
  | nil => exact Option.some.inj hrun ▸ hs
  | cons a as ih =>
      obtain ⟨u, hu, hrun⟩ := run_cons_eq_some.mp hrun
      exact ih (step_owned hs howned.1 hu) howned.2 hrun

end Steps

theorem owned_start [DecidableEq T] (session : Nat → Session) :
    Owned opening (start session : Sys T) where
  shared := invariant_start session
  divided := {
    own_live := fun hc => by cases hc
    live_own := fun hc => absurd hc (not_live_initial session () _ _)
    distinct := fun hc => by cases hc
    blocks := rfl
    log := rfl }
  follows := ⟨fun _ => rfl, fun _ => rfl, fun _ _ hd => by cases hd⟩

/-- In every interleaving of threads that keep to their own handles no handle is
shared, every call makes the backend call it owes, on what its thread's connect set
up, and returns what it owes, and every data block is freed exactly once. -/
theorem owned_handles_served [DecidableEq T] {session : Nat → Session} {actions : List (Action T)}
    {s : Sys T} (howned : KeepsToOwn opening actions)
    (hrun : run step (start session) actions = some s) : Served (account actions) s :=
  (run_owned (owned_start session) howned hrun).served

theorem connect_granted [DecidableEq T] (A : Account T) (t : T) {protocol : Protocol}
    {backend : Backend} {i : Nat} (hi : A.leastUnused = i) (hlt : i < maxLive)
    (hb : spoken protocol = some backend) :
    A.after (.connect t protocol 0) = ({ A with
      blocks := A.blocks + 1
      log := .call .connect (some backend) (some A.blocks) :: .malloc A.blocks :: A.log }.hold t i
        (some ⟨backend, A.blocks⟩)).returned t i := by
  rw [Account.after, Account.connect, hi, if_pos hlt, hb]
  rfl

def sideBySide : List (Action Bool) :=
  [.enter false .disconnect 0, .enter true .send 1, .check true, .loadData true, .check false,
    .teardown false 0, .loadFn true, .call true, .finish true 5]

theorem owned_handles_served_sideBySide :
    ∃ s, run step (start default) (.connect false .raw 0 :: .connect true .vxi11 0 :: sideBySide) =
        some s ∧
      Served (account (.connect false .raw 0 :: .connect true .vxi11 0 :: sideBySide)) s := by
  have hsecond : step ((start default).opened false 0 .tcp) (.connect true .vxi11 0) =
      some (((start default).opened false 0 .tcp).opened true 1 .vxi11) := by
    refine step_opened rfl (freeSession_some.mpr ⟨by decide, rfl, fun j hj => ?_⟩) rfl
    obtain rfl : j = 0 := by omega
    rfl
  have howned : KeepsToOwn (opening : Account Bool)
      (.connect false .raw 0 :: .connect true .vxi11 0 :: sideBySide) := by
    refine ⟨trivial, ?_⟩
    rw [connect_granted (i := 0) _ _ ?_ (by decide) rfl]
    · refine ⟨trivial, ?_⟩
      rw [connect_granted (i := 1) _ _ ?_ (by decide) rfl]
      · refine ⟨⟨0, ⟨.tcp, 0⟩, rfl, rfl⟩, ⟨1, ⟨.vxi11, 1⟩, rfl, rfl⟩, ?_⟩
        exact ⟨trivial, trivial, trivial, trivial, trivial, trivial, trivial, trivial⟩
      · refine IsLeast.csInf_eq ⟨fun t => by cases t <;> rfl, fun j hj => ?_⟩
        by_contra hlt
        obtain rfl : j = 0 := by omega
        cases hj false
    · exact Nat.sInf_eq_zero.mpr (.inl fun _ => rfl)
  obtain ⟨s, hrun⟩ : ∃ s, run step (start default)
      (.connect false .raw 0 :: .connect true .vxi11 0 :: sideBySide) = some s := by
    rw [run_cons, step_start, Option.bind_some, run_cons, hsecond, Option.bind_some]
    exact ⟨_, rfl⟩
  exact ⟨s, hrun, owned_handles_served howned hrun⟩

end LibLxi.OwnedHandles

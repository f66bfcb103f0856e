import LibLxi.Machine
import LibLxi.SessionInvariant

namespace LibLxi.Threads

open Lxi SessionInvariant

inductive Stage
  /-- lxi_send or lxi_receive loads the two pointers of the call, in any order. -/
  | reading (op : Operation) (fn : Option FnPtr) (data : Option DataPtr)
  | calling (op : Operation) (fn : FnPtr) (data : DataPtr)
  /-- lxi_disconnect is about to lock session_mutex again. -/
  | locking
  deriving DecidableEq

/-- Where a thread is. The data pointer that its validity check saw is not
stored by the code; it tells which session the check was about. -/
inductive Pc
  | idle
  | checking (op : Operation) (device : Int)
  | inside (device : Int) (seen : DataPtr) (stage : Stage)
  deriving DecidableEq

def Pc.within : Pc → Option Int
  | .inside device _ _ => some device
  | _ => none

/-- The library under any number of threads, with the values that the calls of
each thread have returned, newest first. The last field is not part of the code:
per teardown the data seen by its check and the data freed. -/
structure Sys (T : Type) where
  lib : State Unit
  pc : T → Pc
  answers : T → List Int
  teardowns : List (DataPtr × DataPtr)

/-- A step of a thread. Sections under session_mutex are one step; the outcome is
what the backend function in it returns. -/
inductive Action (T : Type)
  | connect (t : T) (protocol : Protocol) (outcome : Int)
  | enter (t : T) (op : Operation) (device : Int)
  | check (t : T)
  | loadFn (t : T)
  | loadData (t : T)
  | call (t : T)
  | finish (t : T) (outcome : Int)
  | teardown (t : T) (outcome : Int)

variable {T : Type} [DecidableEq T]

def start (session : Nat → Session) : Sys T :=
  ⟨initial session (), fun _ => .idle, fun _ => [], []⟩

def returns (outcome : Int) : Effect Unit := fun _ _ w => some (outcome, w)

def pointer (entry : Session) : Operation → FnPtr
  | .connect => entry.connect
  | .disconnect => entry.disconnect
  | .send => entry.send
  | .receive => entry.receive

def Sys.goto (s : Sys T) (t : T) (pc : Pc) : Sys T := { s with pc := Function.update s.pc t pc }

def Sys.returned (s : Sys T) (t : T) (r : Int) : Sys T :=
  { s with answers := Function.update s.answers t (r :: s.answers t) }.goto t .idle

def connectStep (s : Sys T) (t : T) (protocol : Protocol) (outcome : Int) : Option (Sys T) :=
  if s.pc t = .idle then
    (lxiConnect (returns outcome) protocol s.lib).map fun x =>
      ({ s with lib := x.2 } : Sys T).returned t x.1
  else none

def stageOf : Operation → Stage
  | .disconnect => .locking
  | op => .reading op none none

def checkStep (s : Sys T) (t : T) : Option (Sys T) :=
  match s.pc t with
  | .checking op device =>
      if isValidSession s.lib.session device = false then some (s.returned t lxiError)
      else some (s.goto t (.inside device (s.lib.session device.toNat).data (stageOf op)))
  | _ => none

def loadFnStep (s : Sys T) (t : T) : Option (Sys T) :=
  match s.pc t with
  | .inside device seen (.reading op none data) =>
      let fn := pointer (s.lib.session device.toNat) op
      some (s.goto t (.inside device seen (.reading op (some fn) data)))
  | _ => none

def loadDataStep (s : Sys T) (t : T) : Option (Sys T) :=
  match s.pc t with
  | .inside device seen (.reading op fn none) =>
      let data := (s.lib.session device.toNat).data
      some (s.goto t (.inside device seen (.reading op fn (some data))))
  | _ => none

def callStep (s : Sys T) (t : T) : Option (Sys T) :=
  match s.pc t with
  | .inside device seen (.reading op (some fn) (some data)) =>
      let s' := { s with lib := s.lib.emit (.call op fn data) }
      some (s'.goto t (.inside device seen (.calling op fn data)))
  | _ => none

def finishStep (s : Sys T) (t : T) (outcome : Int) : Option (Sys T) :=
  match s.pc t with
  | .inside _ _ (.calling _ _ _) => some (s.returned t (transferResult outcome))
  | _ => none

def teardownStep (s : Sys T) (t : T) (outcome : Int) : Option (Sys T) :=
  match s.pc t with
  | .inside device seen .locking =>
      -- the section looks at the entry again, but not whether it is still valid
      (disconnectSection (returns outcome) s.lib device.toNat).map fun x =>
        let s' := { s with
          lib := x.2
          teardowns := (seen, (s.lib.session device.toNat).data) :: s.teardowns }
        s'.returned t x.1
  | _ => none

def step (s : Sys T) : Action T → Option (Sys T)
  | .connect t protocol outcome => connectStep s t protocol outcome
  | .enter t op device =>
      if s.pc t = .idle ∧ op ≠ .connect then some (s.goto t (.checking op device)) else none
  | .check t => checkStep s t
  | .loadFn t => loadFnStep s t
  | .loadData t => loadDataStep s t
  | .call t => callStep s t
  | .finish t outcome => finishStep s t outcome
  | .teardown t outcome => teardownStep s t outcome

section Inversion

variable {s s' : Sys T} {t u : T}

theorem connectStep_cases {protocol : Protocol} {outcome : Int}
    (h : connectStep s t protocol outcome = some s') :
    s.pc t = .idle ∧ ∃ r lib, lxiConnect (returns outcome) protocol s.lib = some (r, lib) ∧
      s' = ({ s with lib } : Sys T).returned t r := by
  rw [connectStep] at h
  split at h
  · rename_i hidle
    rw [Option.map_eq_some_iff] at h
    obtain ⟨⟨r, lib⟩, hx, hs⟩ := h
    exact ⟨hidle, r, lib, hx, hs.symm⟩
  · cases h

theorem checkStep_cases (h : checkStep s t = some s') :
    ∃ op device, s.pc t = .checking op device ∧
      (isValidSession s.lib.session device = false ∧ s' = s.returned t lxiError ∨
        isValidSession s.lib.session device = true ∧
          s' = s.goto t (.inside device (s.lib.session device.toNat).data (stageOf op))) := by
  rw [checkStep] at h
  split at h
  · rename_i op device hpc
    refine ⟨op, device, hpc, ?_⟩
    split at h
    · exact .inl ⟨‹_›, (Option.some.inj h).symm⟩
    · exact .inr ⟨eq_true_of_ne_false ‹_›, (Option.some.inj h).symm⟩
  · cases h

theorem loadFnStep_cases (h : loadFnStep s t = some s') :
    ∃ device seen op data, s.pc t = .inside device seen (.reading op none data) ∧
      s' = s.goto t
        (.inside device seen
          (.reading op (some (pointer (s.lib.session device.toNat) op)) data)) := by
  rw [loadFnStep] at h
  split at h
  · exact ⟨_, _, _, _, ‹_›, (Option.some.inj h).symm⟩
  · cases h

theorem loadDataStep_cases (h : loadDataStep s t = some s') :
    ∃ device seen op fn, s.pc t = .inside device seen (.reading op fn none) ∧
      s' = s.goto t
        (.inside device seen (.reading op fn (some (s.lib.session device.toNat).data))) := by
  rw [loadDataStep] at h
  split at h
  · exact ⟨_, _, _, _, ‹_›, (Option.some.inj h).symm⟩
  · cases h

theorem callStep_cases (h : callStep s t = some s') :
    ∃ device seen op fn data, s.pc t = .inside device seen (.reading op (some fn) (some data)) ∧
      s' = ({ s with lib := s.lib.emit (.call op fn data) } : Sys T).goto t
        (.inside device seen (.calling op fn data)) := by
  rw [callStep] at h
  split at h
  · exact ⟨_, _, _, _, _, ‹_›, (Option.some.inj h).symm⟩
  · cases h

theorem finishStep_cases {outcome : Int} (h : finishStep s t outcome = some s') :
    (∃ device seen op fn data, s.pc t = .inside device seen (.calling op fn data)) ∧
      s' = s.returned t (transferResult outcome) := by
  rw [finishStep] at h
  split at h
  · exact ⟨⟨_, _, _, _, _, ‹_›⟩, (Option.some.inj h).symm⟩
  · cases h

theorem teardownStep_cases {outcome : Int} (h : teardownStep s t outcome = some s') :
    ∃ device seen r lib, s.pc t = .inside device seen .locking ∧
      disconnectSection (returns outcome) s.lib device.toNat = some (r, lib) ∧
      s' = ({ s with
        lib
        teardowns := (seen, (s.lib.session device.toNat).data) :: s.teardowns } : Sys T).returned t
          r := by
  rw [teardownStep] at h
  split at h
  · obtain ⟨⟨r, lib⟩, hx, rfl⟩ := Option.map_eq_some_iff.mp h
    exact ⟨_, _, r, lib, ‹_›, hx, rfl⟩
  · cases h

end Inversion

def Sys.opened (s : Sys T) (t : T) (i : Nat) (backend : Backend) : Sys T :=
  ({ s with lib := connectDone s.lib i ⟨backend, s.lib.nextBlock⟩ () } : Sys T).returned t i

theorem step_opened {s : Sys T} {t : T} {protocol : Protocol} {backend : Backend} {i : Nat}
    (hidle : s.pc t = .idle) (hi : freeSession s.lib.session = some i)
    (hb : backendOf protocol = some backend) :
    step s (.connect t protocol 0) = some (s.opened t i backend) := by
  have hconnect : lxiConnect (returns 0) protocol s.lib =
      some ((i : Int), connectDone s.lib i ⟨backend, s.lib.nextBlock⟩ ()) := by
    rw [lxiConnect_supported hi hb]
    rfl
  simp only [step, connectStep, hidle, if_true, hconnect, Option.map_some, Sys.opened]

omit [DecidableEq T] in
theorem lib_start (session : Nat → Session) :
    (start session : Sys T).lib = initial session () := rfl

theorem step_start (session : Nat → Session) (t : T) :
    step (start session) (.connect t .raw 0) = some ((start session).opened t 0 .tcp) :=
  step_opened rfl (by rw [lib_start]; exact freeSession_initial session ()) rfl

end LibLxi.Threads

import LibLxi.RpcRules
import LibLxi.Vxi11Service
import LibLxi.WireFormat
import LibLxi.WireMemory

namespace LibLxi.RemoteCalls

open Rpc RpcRules Vxi11Service WireFormat WireMemory WireMessages Xdr XdrLanguage

variable {σ : Type}

def number : Proc → UInt32
  | .deviceAbort => deviceAbort
  | .createLink => createLink
  | .deviceWrite => deviceWrite
  | .deviceRead => deviceRead
  | .deviceReadstb => deviceReadstb
  | .deviceTrigger => deviceTrigger
  | .deviceClear => deviceClear
  | .deviceRemote => deviceRemote
  | .deviceLocal => deviceLocal
  | .deviceLock => deviceLock
  | .deviceUnlock => deviceUnlock
  | .deviceEnableSrq => deviceEnableSrq
  | .deviceDocmd => deviceDocmd
  | .destroyLink => destroyLink
  | .createIntrChan => createIntrChan
  | .destroyIntrChan => destroyIntrChan

inductive Program
  | deviceAsync
  | deviceCore
  deriving DecidableEq

def Program.switch : Program → UInt32 → Option Proc
  | deviceAsync => asyncProc
  | deviceCore => coreProc

def Program.dispatcher (handlers : Handlers σ) : Program → Passes → σ → Call → Served σ
  | deviceAsync => deviceAsync1 handlers
  | deviceCore => deviceCore1 handlers

def Program.declared : Program → List Vxi11Rpcl.Declaration
  | deviceAsync => Vxi11Rpcl.deviceAsync
  | deviceCore => Vxi11Rpcl.deviceCore

def program : Proc → Program
  | .deviceAbort => .deviceAsync
  | _ => .deviceCore

section Tables

theorem switch_number (p : Proc) : (program p).switch (number p) = some p := by
  cases p <;> rfl

theorem number_ne_zero (p : Proc) : number p ≠ 0 := by
  cases p <;> decide

theorem stub_eq (clnt : Clnt σ) (p : Proc) (x : p.argument.Obj) (y : p.result.Obj) :
    p.stub clnt x y =
      clnt.clntCall (number p) p.argument.routine x p.result.routine y := by
  cases p <;> rfl

def types (p : Proc) : Ty × Ty := (p.argument.declared, p.result.declared)

theorem case_declared {n k : UInt32} {p : Proc} {others : Option Proc}
    {declared : List Vxi11Rpcl.Declaration} (h : others.map types = declared.lookup n) :
    (if n = k then some p else others).map types = List.lookup n ((k, types p) :: declared) := by
  by_cases hn : n = k
  · subst hn
    rw [if_pos rfl, List.lookup_cons_self]
    rfl
  · have hne : (n == k) = false := beq_eq_false_iff_ne.mpr hn
    rw [if_neg hn, List.lookup_cons, hne, h]

/-- A dispatcher knows the procedures of the description, with their types. -/
theorem switch_declared (program : Program) (n : UInt32) :
    (program.switch n).map types = program.declared.lookup n := by
  cases program with
  | deviceAsync => exact case_declared rfl
  | deviceCore =>
      change (coreProc n).map types = _
      rw [coreProc]
      repeat refine case_declared ?_
      rfl

end Tables

theorem dispatcher_eq (handlers : Handlers σ) (program : Program) :
    program.dispatcher handlers = dispatch fun n => (program.switch n).map (procedure handlers) := by
  cases program <;> rfl

def typed (handlers : Handlers σ) (p : Proc) : Typed (procedure handlers p) where
  argTy := p.argument.declared
  resTy := p.result.declared
  arg := represented p.argument
  res := represented p.result
  argSafe := InlineSafe p.argument
  resSafe := InlineSafe p.result
  implementsArg := implemented p.argument
  implementsRes := implemented p.result
  owned := owned p.argument
  owns := owns p.argument
  frees := frees p.argument

theorem result_safe (p : Proc) (y : p.result.Obj) : InlineSafe p.result y := by
  cases p <;> exact inlineSafe_of_none rfl

theorem result_value (p : Proc) (y : p.result.Obj) :
    ∃ w, (represented p.result).value y = some w ∧ (represented p.result).object w = y := by
  cases p <;> exact ⟨_, rfl, rfl⟩

/-- A call as if the server's function were one of the caller. An argument loses
nothing but which number its bool_t is. One that has no encoding reaches no function. -/
def direct (handlers : Handlers σ) (p : Proc) (x : p.argument.Obj) (s : σ) :
    σ × Outcome p.result.Obj :=
  match (represented p.argument).value x with
  | none => (s, .error .cantEncodeArgs)
  | some v =>
      let (s', retval, result) := handlers p s ((represented p.argument).object v)
      (s', if retval > 0 then .ok result else .error .timedOut)

theorem typed_direct (handlers : Handlers σ) (p : Proc) (x : p.argument.Obj) (s : σ) :
    (typed handlers p).direct s x = direct handlers p x s := by
  cases hx : (represented p.argument).value x with
  | none =>
      refine (Typed.direct_none (typed handlers p) s hx).trans ?_
      simp only [direct, hx]
      rfl
  | some v =>
      obtain ⟨w, hw, hobject⟩ :=
        result_value p (handlers p s ((represented p.argument).object v)).2.2
      refine (Typed.direct_some (typed handlers p) hx hw).trans ?_
      simp only [direct, hx]
      rw [← hobject]
      rfl

theorem clntCall_direct (handlers : Handlers σ) {passes : Passes} (p : Proc) {clnt : Clnt σ}
    (hclnt : Conveys clnt (served ((program p).dispatcher handlers) passes) passes)
    (x : p.argument.Obj) (y : p.result.Obj) (s : σ)
    (hsafe : passes.putArgs = true → InlineSafe p.argument x) :
    clnt.clntCall (number p) p.argument.routine x p.result.routine y s = direct handlers p x s := by
  have hlookup : ((program p).switch (number p)).map (procedure handlers) =
      some (procedure handlers p) := by
    rw [switch_number]
    rfl
  rw [dispatcher_eq] at hclnt
  rw [← typed_direct]
  exact clntCall_served hclnt (number_ne_zero p) hlookup (typed handlers p) s x y hsafe
    fun result _ => result_safe p result

/-- Every stub over the dispatcher of its program is the direct call. -/
theorem stub_direct (handlers : Handlers σ) {passes : Passes} (p : Proc) {clnt : Clnt σ}
    (hclnt : Conveys clnt (served ((program p).dispatcher handlers) passes) passes)
    (x : p.argument.Obj) (y : p.result.Obj) (s : σ)
    (hsafe : passes.putArgs = true → InlineSafe p.argument x) :
    p.stub clnt x y s = direct handlers p x s :=
  (congrFun (stub_eq clnt p x y) s).trans (clntCall_direct handlers p hclnt x y s hsafe)

def zeroing : Handlers Unit := fun p s _ => (s, 1, zeroed p.result)

theorem stub_direct_createLink :
    createLink1 (tirpcClnt (served (deviceCore1 zeroing) ⟨true, false, true, false, true⟩)
        ⟨true, false, true, false, true⟩) linkParms (zeroed .createLinkResp) () =
      ((), .ok ⟨0, 0, 0, 0⟩) :=
  stub_direct zeroing .createLink (tirpcClnt_conveys _ _) linkParms (zeroed .createLinkResp) ()
    fun _ => linkParms_safe

structure Request where
  program : Program
  passes : Passes
  call : Call

def Request.handle (handlers : Handlers σ) (r : Request) (s : σ) : Served σ :=
  r.program.dispatcher handlers r.passes s r.call

/-- What the description asks for: one of the server's functions runs for each request
that names its procedure and has arguments of its type, and for no other one. -/
def Request.Handled (handlers : Handlers σ) (r : Request) (s : σ) : Served σ → Prop :=
  RpcRules.Handled r.program.switch (typed handlers) r.passes s r.call

/-- Whatever requests reach the server, for both programs and in any order: it goes on
and does with every one what the description asks for, in the state that the requests
before it have left. No argument stays allocated where the library frees what it fails
to decode. -/
theorem server_serves (handlers : Handlers σ) (s : σ) (requests : List Request) :
    Serves (Request.Handled handlers) s requests (serveAll (Request.handle handlers) s requests) ∧
      (∀ r ∈ requests, (r.program.switch r.call.proc).map types =
        r.program.declared.lookup r.call.proc) ∧
      ((∀ r ∈ requests, r.passes.releases = true) →
        ∀ one ∈ serveAll (Request.handle handlers) s requests, one.blocks = 0) := by
  have hserves : Serves (Request.Handled handlers) s requests
      (serveAll (Request.handle handlers) s requests) := by
    refine serveAll_serves (fun r s => ?_) (fun h => h.stays) s requests
    rw [Request.handle, dispatcher_eq]
    exact dispatch_handled r.program.switch (typed handlers) (fun p result => result_safe p result)
      r.passes s r.call
  exact ⟨hserves, fun r _ => switch_declared r.program r.call.proc,
    fun hreleases => hserves.all fun r hr _ _ h => h.blocks (hreleases r hr)⟩

end LibLxi.RemoteCalls

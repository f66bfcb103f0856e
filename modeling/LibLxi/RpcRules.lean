import LibLxi.Rpc

namespace LibLxi.RpcRules

open Rpc Xdr XdrLanguage XdrMemory XdrRules

variable {σ α β : Type}

/-- The types of the language behind the routines of a procedure, and the blocks that
its arguments own. -/
structure Typed (p : Procedure σ) where
  argTy : Ty
  resTy : Ty
  arg : Representation p.Arg argTy
  res : Representation p.Res resTy
  argSafe : p.Arg → Prop
  resSafe : p.Res → Prop
  implementsArg : Implements p.xdrArgument arg argSafe
  implementsRes : Implements p.xdrResult res resSafe
  owned : p.Arg → Int
  owns : ∀ x, Owns (p.xdrArgument x) owned
  frees : ∀ x, Frees (p.xdrArgument x) (owned x)

section Reply

variable {t : Ty} {r : β → Routine β} {rep : Representation β t} {safe : β → Prop}

theorem sendReply_some (h : Implements r rep safe) {inline : Bool} {x : β} {w : t.Val}
    (hw : rep.value x = some w) (hsafe : inline = true → safe x) :
    sendReply inline (r x) = .success (encode t w) := by
  have hrun := (h.puts hw hsafe).run (putStream inline) rfl rfl rfl
  rw [sendReply, hrun]
  exact congrArg Reply.success (List.nil_append _)

theorem sendReply_none (h : Implements r rep safe) {inline : Bool} {x : β}
    (hx : rep.value x = none) : sendReply inline (r x) = .systemErr := by
  obtain ⟨bs, hbreaks, -⟩ := h.refuses hx
  obtain ⟨window, hrun⟩ := hbreaks.run (putStream inline) rfl
  rw [sendReply, hrun]

def replyTo (rep : Representation β t) (x : β) : Reply :=
  match rep.value x with
  | some w => .success (encode t w)
  | none => .systemErr

theorem sendReply_eq (h : Implements r rep safe) {inline : Bool} {x : β}
    (hsafe : inline = true → safe x) : sendReply inline (r x) = replyTo rep x := by
  rw [replyTo]
  cases hx : rep.value x with
  | none => exact sendReply_none h hx
  | some w => exact sendReply_some h hx hsafe

end Reply

section Dispatch

variable {table : UInt32 → Option (Procedure σ)} {passes : Passes} {s : σ} {call : Call}

theorem dispatch_null (h : call.proc = 0) :
    dispatch table passes s call = ⟨s, [.replied (.success [])], 0⟩ :=
  if_pos h

theorem dispatch_unknown (h0 : call.proc ≠ 0) (h : table call.proc = none) :
    dispatch table passes s call = ⟨s, [.replied .procUnavail], 0⟩ := by
  rw [dispatch, if_neg h0, h]

variable {p : Procedure σ}

theorem dispatch_garbage (h0 : call.proc ≠ 0) (hp : table call.proc = some p) (h : Typed p)
    (hargs : decode h.argTy call.args = none) :
    ∃ blocks, dispatch table passes s call = ⟨s, [.replied .garbageArgs], blocks⟩ ∧
      (blocks = 0 ∨ blocks = 1 ∧ passes.releases = false) := by
  let stream := getStream passes.getArgs false passes.releases call.args
  obtain ⟨d, hgets, hreads⟩ := h.implementsArg.gets passes.getArgs p.zeroed
  obtain ⟨o, t, n, hrun, -, -, -, hkept, hblocks⟩ := (h.owns p.zeroed).run (s := stream) rfl
  have hnone := hgets.none (s := stream) rfl rfl rfl (hreads.none_iff.mpr hargs)
  rw [hrun] at hnone
  obtain rfl : o = none := hnone
  refine ⟨t.blocks, ?_, ?_⟩
  · rw [dispatch, if_neg h0, hp]
    simp only [stream] at hrun
    simp only [hrun]
  · rw [hblocks, show stream.blocks = 0 from rfl, Int.zero_add]
    exact hkept.imp id fun hkeeps => ⟨hkeeps.1, hkeeps.2.2⟩

theorem dispatch_ran (h0 : call.proc ≠ 0) (hp : table call.proc = some p) (h : Typed p)
    {d : Decoder p.Arg} (hgets : Gets passes.getArgs 0 (p.xdrArgument p.zeroed) d 0)
    {argument : p.Arg} {rest : List UInt8} (hargs : d call.args = some (argument, rest))
    (hsafe : ∀ result, passes.putResult = true → h.resSafe result) :
    dispatch table passes s call =
      ⟨(p.svc s argument).1, .ran :: (if (p.svc s argument).2.1 > 0 then
        [.replied (replyTo h.res (p.svc s argument).2.2)] else []), 0⟩ := by
  let stream := getStream passes.getArgs false passes.releases call.args
  obtain ⟨o, t, n, hrun, -, -, -, hkept, hblocks⟩ := (h.owns p.zeroed).run (s := stream) rfl
  obtain ⟨blocks, hsome⟩ := hgets.some (s := stream) rfl rfl rfl hargs
  obtain ⟨rfl, rfl⟩ := Prod.mk.inj (hrun.symm.trans hsome)
  have howned : blocks = h.owned argument := by
    rw [← Int.zero_add (h.owned argument)]
    exact hblocks.trans (congrArg _ hkept)
  obtain ⟨z, hfreed⟩ := (h.frees argument).run
    (s := { stream with op := .free, bytes := rest, window := 0, blocks }) rfl
  have hback : blocks - h.owned argument = 0 := by rw [howned, Int.sub_self]
  rw [dispatch, if_neg h0, hp]
  simp only [stream] at hrun hfreed
  simp only [hrun, hfreed, hback, sendReply_eq h.implementsRes (hsafe _), Option.isNone_some,
    Bool.false_eq_true, if_false, List.append_nil]

end Dispatch

section Direct

variable {p : Procedure σ}

def Typed.direct (h : Typed p) (s : σ) (x : p.Arg) : σ × Outcome p.Res :=
  match h.arg.value x with
  | none => (s, .error .cantEncodeArgs)
  | some v =>
      let (s', retval, result) := p.svc s (h.arg.object v)
      (s',
        if retval > 0 then
          match h.res.value result with
          | some w => .ok (h.res.object w)
          | none => .error .systemError
        else .error .timedOut)

theorem Typed.direct_none (h : Typed p) (s : σ) {x : p.Arg} (hx : h.arg.value x = none) :
    h.direct s x = (s, .error .cantEncodeArgs) := by
  rw [Typed.direct, hx]

theorem Typed.direct_some (h : Typed p) {s : σ} {x : p.Arg} {v : h.argTy.Val} {w : h.resTy.Val}
    (hx : h.arg.value x = some v)
    (hw : h.res.value (p.svc s (h.arg.object v)).2.2 = some w) :
    h.direct s x = ((p.svc s (h.arg.object v)).1,
      if (p.svc s (h.arg.object v)).2.1 > 0 then .ok (h.res.object w) else .error .timedOut) := by
  simp only [Typed.direct, hx, hw]

theorem outcomeOf_encode {t : Ty} {r : β → Routine β} {rep : Representation β t} {safe : β → Prop}
    (h : Implements r rep safe) (passes : Passes) (y : β) (w : t.Val) :
    outcomeOf passes (r y) (some (.success (encode t w))) = .ok (rep.object w) := by
  let stream := getStream passes.getResult true passes.releases (encode t w)
  obtain ⟨d, hgets, hreads⟩ := h.gets passes.getResult y
  have hread := hreads.object w []
  rw [List.append_nil] at hread
  obtain ⟨blocks, hrun⟩ := hgets.some (s := stream) rfl rfl rfl hread
  rw [outcomeOf, hrun]

variable {table : UInt32 → Option (Procedure σ)} {proc : UInt32} {passes : Passes}

/-- A record that breaks off where its argument has no encoding is refused. -/
theorem dispatch_broken (h0 : proc ≠ 0) (hp : table proc = some p) (h : Typed p) {x : p.Arg}
    (hx : h.arg.value x = none) {t : Xdr.Stream}
    (hrun : (p.xdrArgument x).run (putStream passes.putArgs) = (none, t)) (s : σ) :
    (dispatch table passes s ⟨proc, t.bytes⟩).state = s := by
  obtain ⟨bs, hbreaks, hdecode⟩ := h.implementsArg.refuses hx
  obtain ⟨window, hbroken⟩ := hbreaks.run (putStream passes.putArgs) rfl
  obtain ⟨-, rfl⟩ := Prod.mk.inj (hrun.symm.trans hbroken)
  obtain ⟨blocks, hgarbage, -⟩ : ∃ blocks,
      dispatch table passes s ⟨proc, bs⟩ = ⟨s, [.replied .garbageArgs], blocks⟩ ∧ _ :=
    dispatch_garbage h0 hp h hdecode
  exact congrArg Served.state hgarbage

theorem clntCall_served {clnt : Clnt σ} (hclnt : Conveys clnt (served (dispatch table) passes) passes)
    (h0 : proc ≠ 0) (hp : table proc = some p) (h : Typed p) (s : σ) (x : p.Arg) (y : p.Res)
    (harg : passes.putArgs = true → h.argSafe x)
    (hres : ∀ result, passes.putResult = true → h.resSafe result) :
    clnt.clntCall proc p.xdrArgument x p.xdrResult y s = h.direct s x := by
  rw [Typed.direct]
  cases hx : h.arg.value x with
  | none =>
      obtain ⟨bs, hbreaks, -⟩ := h.implementsArg.refuses hx
      obtain ⟨window, hrun⟩ := hbreaks.run (putStream passes.putArgs) rfl
      obtain ⟨s', hcall, hstate⟩ := hclnt.unsent proc p.xdrResult y s hrun
      have hkept := dispatch_broken h0 hp h hx hrun s
      rw [hcall]
      rcases hstate with rfl | rfl
      · rfl
      · exact congrArg (fun s => (s, _)) hkept
  | some v =>
      have hput := (h.implementsArg.puts hx harg).run (putStream passes.putArgs) rfl rfl rfl
      obtain ⟨d, hgets, hreads⟩ := h.implementsArg.gets passes.getArgs p.zeroed
      have hread := hreads.object v []
      have hbytes : (putStream passes.putArgs).bytes ++ encode h.argTy v = encode h.argTy v ++ [] := by
        rw [List.append_nil]
        rfl
      have hran : dispatch table passes s ⟨proc, encode h.argTy v ++ []⟩ = _ :=
        dispatch_ran h0 hp h hgets hread hres
      rw [hclnt.sent proc p.xdrResult y s hput]
      simp only [hbytes, served, hran]
      by_cases hret : (p.svc s (h.arg.object v)).2.1 > 0
      · simp only [hret, if_true, List.filterMap_cons, List.filterMap_nil, replyOf, List.head?_cons,
          replyTo]
        cases hw : h.res.value (p.svc s (h.arg.object v)).2.2 with
        | none => rfl
        | some w => simp only [outcomeOf_encode h.implementsRes]
      · simp only [hret, if_false, List.filterMap_cons, List.filterMap_nil, replyOf, List.head?_nil,
          outcomeOf]

end Direct

section Service

variable {ι : Type} {procedure : ι → Procedure σ}

/-- What a dispatcher does with a request. One of these procedures runs on what the
arguments stand for, and its result is what is sent. Any other request is answered with
what it lacks and leaves the state alone. -/
inductive Handled (lookup : UInt32 → Option ι) (typed : ∀ i, Typed (procedure i)) (passes : Passes)
    (s : σ) (call : Call) : Served σ → Prop
  | null (h0 : call.proc = 0) : Handled lookup typed passes s call ⟨s, [.replied (.success [])], 0⟩
  | unknown (h0 : call.proc ≠ 0) (hi : lookup call.proc = none) :
      Handled lookup typed passes s call ⟨s, [.replied .procUnavail], 0⟩
  | garbage {i : ι} {blocks : Int} (h0 : call.proc ≠ 0) (hi : lookup call.proc = some i)
      (hargs : decode (typed i).argTy call.args = none)
      (hblocks : blocks = 0 ∨ blocks = 1 ∧ passes.releases = false) :
      Handled lookup typed passes s call ⟨s, [.replied .garbageArgs], blocks⟩
  | ran {i : ι} {argument : (procedure i).Arg} {v : (typed i).argTy.Val} {rest : List UInt8}
      (h0 : call.proc ≠ 0) (hi : lookup call.proc = some i)
      (hargs : decode (typed i).argTy call.args = some (v, rest))
      (hvalue : (typed i).arg.value argument = some v) :
      Handled lookup typed passes s call ⟨((procedure i).svc s argument).1,
        .ran :: (if ((procedure i).svc s argument).2.1 > 0 then
          [.replied (replyTo (typed i).res ((procedure i).svc s argument).2.2)] else []), 0⟩

theorem dispatch_handled (lookup : UInt32 → Option ι) (typed : ∀ i, Typed (procedure i))
    (hsafe : ∀ i result, (typed i).resSafe result) (passes : Passes) (s : σ) (call : Call) :
    Handled lookup typed passes s call
      (dispatch (fun n => (lookup n).map procedure) passes s call) := by
  by_cases h0 : call.proc = 0
  · rw [dispatch_null h0]
    exact .null h0
  cases hi : lookup call.proc with
  | none =>
      rw [dispatch_unknown h0 (by rw [hi]; rfl)]
      exact .unknown h0 hi
  | some i =>
      have hp : (lookup call.proc).map procedure = some (procedure i) := by
        rw [hi]
        rfl
      obtain ⟨d, hgets, hreads⟩ := (typed i).implementsArg.gets passes.getArgs (procedure i).zeroed
      cases hd : d call.args with
      | none =>
          have hargs := hreads.none_iff.mp hd
          obtain ⟨blocks, hgarbage, hblocks⟩ : ∃ blocks,
              dispatch (fun n => (lookup n).map procedure) passes s call =
                ⟨s, [.replied .garbageArgs], blocks⟩ ∧ _ := dispatch_garbage h0 hp (typed i) hargs
          rw [hgarbage]
          exact .garbage h0 hi hargs hblocks
      | some read =>
          obtain ⟨argument, rest⟩ := read
          obtain ⟨v, hvalue, hargs⟩ := hreads.some hd
          rw [dispatch_ran h0 hp (typed i) hgets hd fun _ _ => hsafe i _]
          exact .ran h0 hi hargs hvalue

section Handled

variable {lookup : UInt32 → Option ι} {typed : ∀ i, Typed (procedure i)} {passes : Passes} {s : σ}
  {call : Call} {one : Served σ}

theorem Handled.stays (h : Handled lookup typed passes s call one) : .exited ∉ one.events := by
  cases h with
  | null | unknown | garbage => simp
  | ran => split <;> simp

theorem Handled.blocks (h : Handled lookup typed passes s call one) (hreleases : passes.releases = true) :
    one.blocks = 0 := by
  cases h with
  | null | unknown | ran => rfl
  | garbage h0 hi hargs hblocks =>
      rcases hblocks with h | ⟨-, hkeeps⟩
      · exact h
      · rw [hreleases] at hkeeps
        cases hkeeps

end Handled

/-- What became of requests that came one after the other, each in the state that the
one before it left, with none left out. -/
inductive Serves {ρ : Type} (handled : ρ → σ → Served σ → Prop) : σ → List ρ → List (Served σ) → Prop
  | nil (s : σ) : Serves handled s [] []
  | cons {s : σ} {request : ρ} {one : Served σ} {requests : List ρ} {others : List (Served σ)}
      (h : handled request s one) (hs : Serves handled one.state requests others) :
      Serves handled s (request :: requests) (one :: others)

theorem Serves.all {ρ : Type} {handled : ρ → σ → Served σ → Prop} {P : Served σ → Prop} {s : σ}
    {requests : List ρ} {served : List (Served σ)} (hs : Serves handled s requests served)
    (h : ∀ r ∈ requests, ∀ s one, handled r s one → P one) : ∀ one ∈ served, P one := by
  induction hs with
  | nil s => exact fun _ hone => absurd hone List.not_mem_nil
  | cons hone _ ih =>
      rintro one (_ | ⟨_, hmem⟩)
      · exact h _ List.mem_cons_self _ _ hone
      · exact ih (fun r hr => h r (List.mem_cons_of_mem _ hr)) one hmem

theorem serveAll_serves {ρ : Type} {handle : ρ → σ → Served σ} {handled : ρ → σ → Served σ → Prop}
    (h : ∀ request s, handled request s (handle request s))
    (hstays : ∀ {request s one}, handled request s one → .exited ∉ one.events) (s : σ)
    (requests : List ρ) : Serves handled s requests (serveAll handle s requests) := by
  induction requests generalizing s with
  | nil => exact .nil s
  | cons request requests ih =>
      rw [serveAll, if_neg (hstays (h request s))]
      exact .cons (h request s) (ih _)

end Service

end LibLxi.RpcRules

import LibLxi.RemoteSession

namespace LibLxi.RemoteIsolation

open Machine Memory RemoteSession Rpc Vxi11 Vxi11Service
open Platform (Length)

variable {σ V α β : Type} {view : σ → Int32 → V} {lid : Int32}

/-- What sees and changes only what a server has for one link. -/
structure Confined (view : σ → Int32 → V) (lid : Int32) (f : σ → σ × α) : Prop where
  own : ∀ {s t}, view s lid = view t lid → (f s).2 = (f t).2 ∧ view (f s).1 lid = view (f t).1 lid
  other : ∀ s {other}, other ≠ lid → view (f s).1 other = view s other

section Confined

variable {f : σ → σ × α}

theorem Confined.pure (a : α) : Confined view lid fun s => (s, a) where
  own h := ⟨rfl, h⟩
  other _ _ _ := rfl

theorem Confined.bind (hf : Confined view lid f) {k : α → σ → σ × β}
    (hk : ∀ a, Confined view lid (k a)) : Confined view lid fun s => k (f s).2 (f s).1 where
  own {s t} h := by
    obtain ⟨hvalue, hview⟩ := hf.own h
    rw [hvalue]
    exact (hk _).own hview
  other s _ hne := ((hk _).other _ hne).trans (hf.other s hne)

theorem Confined.map (hf : Confined view lid f) (g : α → β) :
    Confined view lid fun s => ((f s).1, g (f s).2) :=
  hf.bind fun a => .pure (g a)

end Confined

/-- A server that keeps its links apart: a write or a read has to do with its own link only. -/
structure Apart (handlers : Handlers σ) (view : σ → Int32 → V) : Prop where
  write : ∀ x : Vxi11core.DeviceWriteParms, Confined view x.lid fun s => handlers .deviceWrite s x
  read : ∀ x : Vxi11core.DeviceReadParms, Confined view x.lid fun s => handlers .deviceRead s x

section Sessions

variable {handlers : Handlers σ} {clnt : Clnt σ}

theorem deviceWrite1_confined (hclnt : Reaches clnt handlers) (h : Apart handlers view)
    (x : Vxi11core.DeviceWriteParms) (y : Vxi11core.DeviceWriteResp) :
    Confined view x.lid (deviceWrite1 clnt x y) := by
  rw [funext (deviceWrite1_eq hclnt x y)]
  exact (h.write x).map fun r =>
    if r.1 > 0 then Except.ok r.2 else Except.error ClntError.timedOut

theorem deviceRead1_confined (hclnt : Reaches clnt handlers) (h : Apart handlers view)
    (x : Vxi11core.DeviceReadParms) (y : Vxi11core.DeviceReadResp) :
    Confined view x.lid (deviceRead1 clnt x y) := by
  rw [funext (deviceRead1_eq hclnt x y)]
  exact (h.read x).map fun r =>
    if r.1 > 0 then Except.ok r.2 else Except.error ClntError.timedOut

theorem send_confined (hclnt : Reaches clnt handlers) (h : Apart handlers view) (data : Vxi11Data)
    (message : Cells UInt8) (length : Length) (timeout : Int) :
    Confined view data.linkResp.lid (send clnt data message length timeout) :=
  (deviceWrite1_confined hclnt h (coreWrite (writeParms data message length.val timeout)
    ((read_length _ _ _).trans_lt length.isInt)) (zeroed .deviceWriteResp)).map fun o =>
    (vxi11Send data message length.val timeout (writeReply o)).1

theorem answers_confined (hclnt : Reaches clnt handlers) (h : Apart handlers view)
    (parms : DeviceReadParms) (length fuel pos : Nat) :
    Confined view parms.lid (answers clnt parms length fuel pos) := by
  induction fuel generalizing pos with
  | zero => exact .pure []
  | succ fuel ih =>
      have hread := deviceRead1_confined hclnt h
        (coreRead { parms with requestSize := UInt32.ofInt ((length : Int) - pos) })
        (zeroed .deviceReadResp)
      have hrest (o : Outcome Vxi11core.DeviceReadResp) : Confined view parms.lid fun s =>
          if goesOn length pos (readReply o) then
            ((answers clnt parms length fuel (pos + (readReply o).dataLen) s).1,
              readReply o :: (answers clnt parms length fuel (pos + (readReply o).dataLen) s).2)
          else (s, [readReply o]) := by
        by_cases hgoes : goesOn length pos (readReply o)
        · simp only [if_pos hgoes]
          exact (ih _).map (List.cons (readReply o))
        · simp only [if_neg hgoes]
          exact .pure [readReply o]
      exact hread.bind hrest

theorem receive_confined (hclnt : Reaches clnt handlers) (h : Apart handlers view) (data : Vxi11Data)
    (message : Cells UInt8) (length : Length) (timeout : Int) (fuel : Nat) :
    Confined view data.linkResp.lid (receive clnt data message length timeout fuel) :=
  (answers_confined hclnt h (readParms data length.val timeout) length.val fuel 0).map
    (vxi11Receive data message length.val timeout)

def answer (clnt : Clnt σ) (fuel : Nat) (a : Action) (s : σ) : σ × Option Answer :=
  match a with
  | (data, .send message length timeout) =>
      let (s', ret) := send clnt data message length timeout s
      (s', some (.sent ret))
  | (data, .receive message length timeout) =>
      let (s', received) := receive clnt data message length timeout fuel s
      (s', received.ret.map fun ret => .received ret (read received.message 0 ret.toNat))

theorem step_answer (clnt : Clnt σ) (fuel : Nat) (s : σ) (a : Action) :
    step clnt fuel s a = (answer clnt fuel a s).2.map fun r => (r, (answer clnt fuel a s).1) := by
  obtain ⟨data, op⟩ := a
  cases op with
  | send message length timeout => rfl
  | receive message length timeout =>
      simp only [step, answer, Option.map_map]
      rfl

theorem answer_confined (hclnt : Reaches clnt handlers) (h : Apart handlers view) (fuel : Nat)
    (a : Action) : Confined view a.lid (answer clnt fuel a) := by
  obtain ⟨data, op⟩ := a
  cases op with
  | send message length timeout =>
      exact (send_confined hclnt h data message length timeout).map fun ret => some (Answer.sent ret)
  | receive message length timeout =>
      exact (receive_confined hclnt h data message length timeout fuel).map fun received =>
        received.ret.map fun ret => Answer.received ret (read received.message 0 ret.toNat)

def own (lid : Int32) (as : List Action) : List Action := as.filter fun a => a.lid = lid

def ownAnswers (lid : Int32) (as : List Action) (rs : List Answer) : List Answer :=
  ((as.zip rs).filter fun x => x.1.lid = lid).map Prod.snd

/-- However the calls of several sessions come, and whatever a server answers that keeps
its links apart, a session gets the answers that it would get alone. -/
theorem sessions_isolated (hclnt : Reaches clnt handlers) (h : Apart handlers view) {fuel : Nat}
    {s s' : σ} {as : List Action} {rs : List Answer}
    (hrun : outputs (step clnt fuel) s as = some (rs, s')) (lid : Int32) :
    ∃ s'', outputs (step clnt fuel) s (own lid as) = some (ownAnswers lid as rs, s'') ∧
      view s' lid = view s'' lid := by
  refine outputs_filter (v := fun s => view s lid) (fun s t a r u ha hst hstep => ?_)
    (fun s a r u ha hstep => ?_) rfl hrun
  · obtain rfl : a.lid = lid := of_decide_eq_true ha
    rw [step_answer] at hstep
    obtain ⟨r, hr, heq⟩ := Option.map_eq_some_iff.mp hstep
    cases heq
    obtain ⟨hanswer, hview⟩ := (answer_confined hclnt h fuel a).own hst
    refine ⟨_, ?_, hview⟩
    rw [step_answer, ← hanswer, hr]
    rfl
  · have hne : lid ≠ a.lid := fun heq => of_decide_eq_false ha heq.symm
    rw [step_answer] at hstep
    obtain ⟨r, hr, heq⟩ := Option.map_eq_some_iff.mp hstep
    cases heq
    exact (answer_confined hclnt h fuel a).other s hne

theorem echo_apart : Apart echo fun w => w where
  write x :=
    { own {s t} h := by
        have h : s x.lid = t x.lid := h
        refine ⟨rfl, ?_⟩
        change Function.update s x.lid _ x.lid = Function.update t x.lid _ x.lid
        rw [Function.update_self, Function.update_self, h]
      other _ _ hne := Function.update_of_ne hne .. }
  read x :=
    { own {s t} h := by
        have h : s x.lid = t x.lid := h
        change (echoRead s x).2 = (echoRead t x).2 ∧ (echoRead s x).1 x.lid = (echoRead t x).1 x.lid
        rw [echoRead, echoRead, h]
        split
        · exact ⟨rfl, h⟩
        · exact ⟨rfl, by simp only [Function.update_self]⟩
      other s _ hne := by
        change (echoRead s x).1 _ = _
        rw [echoRead]
        split
        · rfl
        · exact Function.update_of_ne hne .. }

theorem sessions_isolated_inTurn :
    ∃ bound, ∀ fuel, bound ≤ fuel → ∃ s'',
      outputs (step (clientOf echo ⟨true, false, true, false, true⟩) fuel) (fun _ => [])
        (own 7 inTurn) = some ([.sent 4, .received 4 [65, 65, 65, 65]], s'') := by
  have hclnt := clientOf_reaches echo ⟨true, false, true, false, true⟩
  obtain ⟨s', bound, -, hrun⟩ := outputs_ideal (s := fun _ => []) (echo_conforms 4) hclnt inTurn
    fun a ha => ⟨trivial, inTurn_fits a ha⟩
  refine ⟨bound, fun fuel hfuel => ?_⟩
  obtain ⟨s'', hown, -⟩ := sessions_isolated hclnt echo_apart (hrun fuel hfuel) 7
  exact ⟨s'', hown⟩

end Sessions

end LibLxi.RemoteIsolation

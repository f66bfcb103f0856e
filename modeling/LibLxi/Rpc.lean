import LibLxi.XdrMemory

namespace LibLxi.Rpc

open Xdr XdrLanguage

/-- A call message, without the header that rpc(3) puts in front of it. -/
structure Call where
  proc : UInt32
  args : List UInt8
  deriving DecidableEq

inductive Reply
  | success (results : List UInt8)
  | procUnavail
  | garbageArgs
  | systemErr
  deriving DecidableEq

inductive ClntError
  | cantEncodeArgs
  | cantDecodeRes
  | timedOut
  | procUnavail
  | cantDecodeArgs
  | systemError
  deriving DecidableEq

variable {σ α β : Type}

def putStream (inline : Bool) : Stream := ⟨.encode, [], inline, 0, false, true, 0⟩

def getStream (inline preset releases : Bool) (bytes : List UInt8) : Stream :=
  ⟨.decode, bytes, inline, 0, preset, releases, 0⟩

/-- The streams of a call: whether they hand out in-line buffers, for each of the four
passes, and whether the library frees what a failed decode has allocated. -/
structure Passes where
  putArgs : Bool
  getArgs : Bool
  putResult : Bool
  getResult : Bool
  releases : Bool

abbrev Outcome (β : Type) := Except ClntError β

/-- What a reply gives the caller. The result goes where the caller's pointers point. -/
def outcomeOf (passes : Passes) (m : Routine β) : Option Reply → Outcome β
  | none => .error .timedOut
  | some .procUnavail => .error .procUnavail
  | some .garbageArgs => .error .cantDecodeArgs
  | some .systemErr => .error .systemError
  | some (.success results) =>
      match (m.run (getStream passes.getResult true passes.releases results)).1 with
      | none => .error .cantDecodeRes
      | some res => .ok res

structure Clnt (σ : Type) where
  clntCall : {α β : Type} → UInt32 → (α → Routine α) → α → (β → Routine β) → β → σ → σ × Outcome β

/-- What rpc(3) says of clnt_call, over something that answers calls or does not: what
is encoded is sent, and the reply gives the result or the status. Where the arguments
are not encoded the caller is told so, and what was put of them may be sent as well. -/
structure Conveys (clnt : Clnt σ) (answer : σ → Call → σ × Option Reply) (passes : Passes) :
    Prop where
  sent : ∀ {α β : Type} (proc : UInt32) {xargs : α → Routine α} {argsp x : α} (xres : β → Routine β)
    (resp : β) (s : σ) {t : Stream}, (xargs argsp).run (putStream passes.putArgs) = (some x, t) →
      clnt.clntCall proc xargs argsp xres resp s = ((answer s ⟨proc, t.bytes⟩).1,
        outcomeOf passes (xres resp) (answer s ⟨proc, t.bytes⟩).2)
  unsent : ∀ {α β : Type} (proc : UInt32) {xargs : α → Routine α} {argsp : α} (xres : β → Routine β)
    (resp : β) (s : σ) {t : Stream}, (xargs argsp).run (putStream passes.putArgs) = (none, t) →
      ∃ s', clnt.clntCall proc xargs argsp xres resp s = (s', .error .cantEncodeArgs) ∧
        (s' = s ∨ s' = (answer s ⟨proc, t.bytes⟩).1)

/-- The client of libtirpc, whose clnt_call sends the record also where it breaks off. -/
def tirpcClnt (answer : σ → Call → σ × Option Reply) (passes : Passes) : Clnt σ where
  clntCall proc xargs argsp xres resp s :=
    match (xargs argsp).run (putStream passes.putArgs) with
    | (none, t) => ((answer s ⟨proc, t.bytes⟩).1, .error .cantEncodeArgs)
    | (some _, t) =>
        let (s', reply) := answer s ⟨proc, t.bytes⟩
        (s', outcomeOf passes (xres resp) reply)

theorem tirpcClnt_conveys (answer : σ → Call → σ × Option Reply) (passes : Passes) :
    Conveys (tirpcClnt answer passes) answer passes where
  sent proc xargs argsp x xres resp s t h := by simp only [tirpcClnt, h]
  unsent proc xargs argsp xres resp s t h := ⟨_, by simp only [tirpcClnt, h], .inr rfl⟩

structure Procedure (σ : Type) where
  Arg : Type
  Res : Type
  xdrArgument : Arg → Routine Arg
  xdrResult : Res → Routine Res
  zeroed : Arg
  svc : σ → Arg → σ × Int × Res

inductive Event
  | ran
  | replied (reply : Reply)
  | exited
  deriving DecidableEq

/-- What a dispatcher leaves behind, with the blocks of the argument that are still
allocated. -/
structure Served (σ : Type) where
  state : σ
  events : List Event
  blocks : Int

/-- What svc_sendreply makes of a result, or svcerr_systemerr where that fails. -/
def sendReply (inline : Bool) (m : Routine β) : Reply :=
  match m.run (putStream inline) with
  | (some _, t) => .success t.bytes
  | (none, _) => .systemErr

def dispatch (table : UInt32 → Option (Procedure σ)) (passes : Passes) (s : σ) (call : Call) :
    Served σ :=
  if call.proc = 0 then ⟨s, [.replied (.success [])], 0⟩
  else
    match table call.proc with
    | none => ⟨s, [.replied .procUnavail], 0⟩
    | some p =>
        match (p.xdrArgument p.zeroed).run
            (getStream passes.getArgs false passes.releases call.args) with
        | (none, t) => ⟨s, [.replied .garbageArgs], t.blocks⟩
        | (some argument, t) =>
            let (s', retval, result) := p.svc s argument
            let replies :=
              if retval > 0 then [.replied (sendReply passes.putResult (p.xdrResult result))] else []
            let (freed, u) := (p.xdrArgument argument).run { t with op := .free }
            let exits := if freed.isNone = true then [.exited] else []
            ⟨s', .ran :: replies ++ exits, u.blocks⟩

def replyOf : Event → Option Reply
  | .replied reply => some reply
  | _ => none

def served (dispatcher : Passes → σ → Call → Served σ) (passes : Passes) (s : σ) (call : Call) :
    σ × Option Reply :=
  let served := dispatcher passes s call
  (served.state, (served.events.filterMap replyOf).head?)

/-- What becomes of requests that come one after the other, until one makes the server
exit. -/
def serveAll {ρ : Type} (handle : ρ → σ → Served σ) (s : σ) : List ρ → List (Served σ)
  | [] => []
  | request :: requests =>
      let one := handle request s
      one :: if .exited ∈ one.events then [] else serveAll handle one.state requests

end LibLxi.Rpc

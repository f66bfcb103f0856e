import LibLxi.RawSockets

namespace LibLxi.SocketAccounting

open Backends hiding step
open ClientInvariant Descriptors Lxi Machine Platform RawSockets SessionInvariant Tcp

/-- After the call the sockets that the library opened and has not closed are
those of the live RAW sessions, and it has closed none that was not open. -/
def Accounts (s : State World) (call : Call) : Prop :=
  ∀ t, step s call = some t → Accounted (Holds t) (uses t.world)

def Leaks (s : State World) (call : Call) : Prop := ∃ o, opens s call = some o ∧ LeavesOpen o

def FreshSocket (s : State World) (call : Call) : Prop :=
  ∀ o, opens s call = some o → o.socket ∉ openSockets s.world

def Permitted (s : State World) (call : Call) : Prop := PassesNoBound call ∧ FreshSocket s call

structure Invariant (s : State World) : Prop where
  wellFormed : WellFormed s
  balanced : Balanced (Holds s) (uses s.world)

def start (session : Nat → Session) (w : World) : State World :=
  initial session { w with events := [] }

theorem invariant_start (session : Nat → Session) (w : World) : Invariant (start session w) where
  wellFormed := wellFormed_initial _ _
  balanced := by
    apply balanced_nil
    rintro i fd ⟨b, hb, -⟩
    exact not_live_initial _ _ _ _ hb

theorem step_wellFormed {s t : State World} {call : Call} (hs : WellFormed s)
    (hd : PassesNoBound call) (h : step s call = some t) : WellFormed t := by
  obtain ⟨r, hr⟩ := step_outcome hs hd h
  exact hr.wellFormed hs

theorem step_balanced {s t : State World} {call : Call} (hs : Invariant s)
    (hp : Permitted s call) (hno : ¬ Leaks s call) (h : step s call = some t) :
    Balanced (Holds t) (uses t.world) := by
  cases step_change hs.wellFormed hp.1 h with
  | none hopens huses hholds =>
      rw [huses]
      exact hs.balanced.congr hholds
  | leaked o hopens hleaves huses hholds => exact absurd ⟨o, hopens, hleaves⟩ hno
  | refused o hopens hleaves huses hholds =>
      rw [huses]
      exact (hs.balanced.pair (hp.2 o hopens)).congr hholds
  | connected o i hopens hleaves huses hholds =>
      rw [huses]
      exact hs.balanced.opened (hp.2 o hopens) hholds
  | disconnected i fd hopens hi huses hholds =>
      rw [huses]
      exact hs.balanced.closed hi (fun e he => hi.unique he) hholds

theorem step_invariant {s t : State World} {call : Call} (hs : Invariant s)
    (hp : Permitted s call) (hno : ¬ Leaks s call) (h : step s call = some t) : Invariant t :=
  ⟨step_wellFormed hs.wellFormed hp.1 h, step_balanced hs hp hno h⟩

theorem not_accounted_of_leaks {s t : State World} {call : Call} (hs : Invariant s)
    (hp : Permitted s call) (hleaks : Leaks s call) (h : step s call = some t) :
    ¬ Accounted (Holds t) (uses t.world) := by
  obtain ⟨o, hopens, hleaves⟩ := hleaks
  cases step_change hs.wellFormed hp.1 h with
  | leaked o' hopens' hleaves' huses hholds =>
      have hheld : Holds t = Holds s := by
        funext j e
        exact propext (hholds j e)
      rw [huses, hheld]
      exact hs.balanced.not_leaked (hp.2 o' hopens')
  | none hopens' => cases hopens.symm.trans hopens'
  | disconnected i fd hopens' => cases hopens.symm.trans hopens'
  | refused o' hopens' hleaves' =>
      cases hopens.symm.trans hopens'
      exact absurd hleaves hleaves'
  | connected o' i hopens' hleaves' =>
      cases hopens.symm.trans hopens'
      exact absurd hleaves hleaves'

theorem not_leaks_iff_accounts {s : State World} (hs : Invariant s) {call : Call}
    (hp : Permitted s call) : ¬ Leaks s call ↔ Accounts s call := by
  constructor
  · exact fun hno t h => (step_balanced hs hp hno h).accounted
  · intro haccounts hleaks
    obtain ⟨o, hopens, -⟩ := id hleaks
    obtain ⟨t, h⟩ := step_of_opens hopens
    exact not_accounted_of_leaks hs hp hleaks h (haccounts t h)

/-- In every run the open sockets are those of the live RAW sessions after each
call if and only if no connect fails between socket() and connect(). -/
theorem raw_sockets_accounted_iff (session : Nat → Session) (w : World) {calls : List Call}
    (hp : Along step Permitted (start session w) calls) :
    Along step Accounts (start session w) calls ↔
      Along step (fun s call => ¬ Leaks s call) (start session w) calls :=
  (along_congr_under (fun _ _ _ hs hp hno h => step_invariant hs hp hno h)
    (fun _ _ hs hp => not_leaks_iff_accounts hs hp) (invariant_start session w) hp).symm

def resolved (getFlags : Int) : ConnectOutcome :=
  { (default : ConnectOutcome) with
    socket := 3, getFlags, setNonblock := 0, inetAddr := 0x0100007f, connect := 0 }

theorem opens_start (session : Nat → Session) (w : World) (o : ConnectOutcome)
    (h0 : 0 ≤ o.socket) :
    opens (start session w) (.connect .raw 5025 none 1000 o default) = some o :=
  opens_connect (freeSession_initial _ _) rfl h0

theorem permitted_start (session : Nat → Session) (w : World) (o : ConnectOutcome) :
    Permitted (start session w) (.connect .raw 5025 none 1000 o default) :=
  ⟨by rintro ⟨⟩, fun _ _ => Finset.notMem_empty _⟩

theorem permitted_disconnect (s : State World) : Permitted s (.disconnect 0) :=
  ⟨by simp [PassesNoBound, Call.toCall, Application.Call.device, sessionsMax], by rintro o ⟨⟩⟩

theorem raw_sockets_accounted_resolved :
    Along step Accounts (start default (quiet []))
      [.connect .raw 5025 none 1000 (resolved 2) default, .disconnect 0] := by
  refine (raw_sockets_accounted_iff default (quiet []) ?_).mpr ?_
  · refine ⟨permitted_start _ _ _, fun t _ => ⟨permitted_disconnect t, fun _ _ => trivial⟩⟩
  · refine ⟨?_, fun t _ => ⟨?_, fun _ _ => trivial⟩⟩
    · rintro ⟨o, hopens, hleaves⟩
      rw [opens_start _ _ _ (by decide)] at hopens
      cases hopens
      simp [LeavesOpen, resolved, resolve, inaddrNone] at hleaves
    · rintro ⟨o, ⟨⟩, -⟩

theorem failed_connect_leaks :
    Along step Permitted (start default (quiet []))
        [.connect .raw 5025 none 1000 (resolved (-1)) default] ∧
      ¬ Along step Accounts (start default (quiet []))
        [.connect .raw 5025 none 1000 (resolved (-1)) default] := by
  have hp := permitted_start default (quiet []) (resolved (-1))
  have hs := invariant_start default (quiet [])
  refine ⟨⟨hp, fun _ _ => trivial⟩, ?_⟩
  rintro ⟨haccounts, -⟩
  refine (not_leaks_iff_accounts hs hp).mpr haccounts ⟨_, opens_start _ _ _ (by decide), .inl ?_⟩
  decide

end LibLxi.SocketAccounting

import LibLxi.SessionMap

namespace LibLxi.Reinit

open Application ClientInvariant Lxi Machine SessionInvariant SessionMap

variable {σ : Type}

/-- The library, with the blocks of the sessions that were connected when lxi_init
reset them. The code does not store these. -/
structure Process (σ : Type) where
  lib : State σ
  lost : List Block

inductive Action (σ : Type)
  | init
  | call (call : Call σ)

def connectedBlocks (session : Nat → Session) : List Block :=
  (List.range sessionsMax).filterMap fun i =>
    if (session i).allocated then (session i).data else none

def step (p : Process σ) : Action σ → Option (Process σ)
  | .init => some ⟨(lxiInit p.lib).2, connectedBlocks p.lib.session ++ p.lost⟩
  | .call call =>
      if call.Inside then (Application.perform p.lib call).map fun x => ⟨x.2, p.lost⟩ else none

def start (session : Nat → Session) (w : σ) : Process σ := ⟨initial session w, []⟩

section Relog

def relog (s : State σ) (log : List Event) : State σ := { s with log }

variable {s s' : State σ} {r : Int}

theorem log_relog (s : State σ) (log : List Event) : (relog s log).log = log := rfl

def Appends (s : State σ) (call : Call σ) (r : Int) (s' : State σ) : Prop :=
  ∃ new, s'.log = new ++ s.log ∧
    ∀ log, Application.perform (relog s log) call = some (r, relog s' (new ++ log))

theorem connect_appends {connect : Effect σ} {protocol : Protocol}
    (h : lxiConnect connect protocol s = some (r, s')) : Appends s (.connect protocol connect) r s' := by
  have hsession (log : List Event) : (relog s log).session = s.session := rfl
  rcases lxiConnect_cases h with ⟨hi, rfl, rfl⟩ | ⟨i, hi, hb, rfl, rfl⟩ |
    ⟨i, b, n, w, hi, hb, hn, h⟩
  · refine ⟨[.error _], rfl, fun log => ?_⟩
    rw [← hsession log] at hi
    rw [Application.perform, lxiConnect_full hi]
    rfl
  · refine ⟨[], rfl, fun log => ?_⟩
    rw [← hsession log] at hi
    rw [Application.perform, lxiConnect_unsupported hi hb]
    rfl
  · rcases h with ⟨h0, rfl, rfl⟩ | ⟨h0, rfl, rfl⟩
    · refine ⟨[.free _, .call .connect _ _, .malloc _], rfl, fun log => ?_⟩
      rw [← hsession log] at hi
      rw [Application.perform, lxiConnect_supported hi hb]
      simp only [relog, hn, Option.map_some, if_neg h0]
      rfl
    · refine ⟨[.call .connect _ _, .malloc _], rfl, fun log => ?_⟩
      rw [← hsession log] at hi
      rw [Application.perform, lxiConnect_supported hi hb]
      simp only [relog, hn, Option.map_some, if_pos h0]
      rfl

theorem handle_appends {call : Call σ} {device : Int} (effect : Effect σ) (result : Int → Int)
    (after : State σ → Nat → Conn → σ → State σ) (events : Conn → List Event)
    (hinvalid : ∀ t : State σ, isValidSession t.session device = false →
      Application.perform t call = some (lxiError, t))
    (hlive : ∀ (t : State σ) (i : Nat) (c : Conn), device = i → Live t i c →
      Application.perform t call =
        (effect (some c.backend) (some c.block) t.world).map fun x => (result x.1, after t i c x.2))
    (hafter : ∀ i c w log, after (relog s log) i c w = relog (after s i c w) (events c ++ log))
    (hcases : isValidSession s.session device = false ∨
      ∃ (i : Nat) (c : Conn), device = i ∧ Live s i c)
    (h : Application.perform s call = some (r, s')) : Appends s call r s' := by
  rcases hcases with hv | ⟨i, c, hd, hc⟩
  · rw [hinvalid s hv] at h
    cases h
    exact ⟨[], rfl, fun log => hinvalid (relog s log) hv⟩
  · rw [hlive s i c hd hc] at h
    obtain ⟨⟨n, w⟩, heffect, h⟩ := Option.map_eq_some_iff.mp h
    cases h
    refine ⟨events c, congrArg State.log (hafter i c w s.log), fun log => ?_⟩
    rw [hlive (relog s log) i c hd hc, ← hafter]
    simp only [relog, heffect, Option.map_some]

theorem perform_appends {call : Call σ}
    (hcases : ∀ device ∈ call.device, isValidSession s.session device = false ∨
      ∃ (i : Nat) (c : Conn), device = i ∧ Live s i c)
    (h : Application.perform s call = some (r, s')) : Appends s call r s' := by
  cases call with
  | connect protocol effect => exact connect_appends h
  | send device effect =>
      refine handle_appends effect transferResult (fun t _ c w => called t .send c w)
        (fun c => [.call .send (some c.backend) (some c.block)]) (fun t hv => lxiSend_invalid hv) ?_
        (fun i c w log => rfl) (hcases device rfl) h
      rintro t i c rfl hc
      exact lxiSend_live hc
  | receive device effect =>
      refine handle_appends effect transferResult (fun t _ c w => called t .receive c w)
        (fun c => [.call .receive (some c.backend) (some c.block)])
        (fun t hv => lxiReceive_invalid hv) ?_ (fun i c w log => rfl) (hcases device rfl) h
      rintro t i c rfl hc
      exact lxiReceive_live hc
  | disconnect device effect =>
      refine handle_appends effect (fun _ => lxiOk) disconnectDone
        (fun c => [.free (some c.block), .call .disconnect (some c.backend) (some c.block)])
        (fun t hv => lxiDisconnect_invalid hv) ?_ (fun i c w log => rfl) (hcases device rfl) h
      rintro t i c rfl hc
      exact lxiDisconnect_live hc

end Relog

section Connected

variable {s : State σ}

theorem mem_connectedBlocks (hs : WellFormed s) {b : Block} :
    b ∈ connectedBlocks s.session ↔ ∃ i c, Live s i c ∧ c.block = b := by
  simp only [connectedBlocks, List.mem_filterMap, List.mem_range]
  constructor
  · rintro ⟨i, hi, hb⟩
    split at hb
    · obtain ⟨c, hc⟩ := hs.live_entry i hi ‹_›
      rw [hc.2] at hb
      exact ⟨i, c, hc, Option.some.inj hb⟩
    · cases hb
  · rintro ⟨i, c, hc, rfl⟩
    refine ⟨i, hc.1, ?_⟩
    rw [if_pos hc.allocated, hc.2, Conn.entry]

theorem nodup_connectedBlocks (hs : WellFormed s) : (connectedBlocks s.session).Nodup := by
  rw [connectedBlocks, ← List.attach_map_subtype_val (List.range sessionsMax), List.filterMap_map]
  refine List.Nodup.filterMap ?_ (List.nodup_range.attach)
  rintro ⟨i, hi⟩ ⟨j, hj⟩ b hbi hbj
  have live {k : Nat} (hk : k < sessionsMax)
      (hb : b ∈ if (s.session k).allocated then (s.session k).data else none) :
      ∃ c, Live s k c ∧ c.block = b := by
    split at hb
    · obtain ⟨c, hc⟩ := hs.live_entry k hk ‹_›
      rw [hc.2] at hb
      exact ⟨c, hc, Option.some.inj hb⟩
    · cases hb
  obtain ⟨c, hc, hcb⟩ := live (List.mem_range.mp hi) hbi
  obtain ⟨d, hd, hdb⟩ := live (List.mem_range.mp hj) hbj
  exact Subtype.ext (hs.distinct hc hd (hcb.trans hdb.symm))

theorem count_connectedBlocks (hs : WellFormed s) (b : Block) :
    (connectedBlocks s.session).count b + freed s b = if b < s.nextBlock then 1 else 0 := by
  by_cases hlive : ∃ i c, Live s i c ∧ c.block = b
  · have hmem := (mem_connectedBlocks hs).mpr hlive
    obtain ⟨i, c, hc, rfl⟩ := hlive
    rw [List.count_eq_one_of_mem (nodup_connectedBlocks hs) hmem, (hs.live_block hc).2,
      if_pos (hs.live_block hc).1]
  · have hmem : b ∉ connectedBlocks s.session := fun h => hlive ((mem_connectedBlocks hs).mp h)
    rw [List.count_eq_zero_of_not_mem hmem, Nat.zero_add]
    split
    · exact hs.dead_block b ‹_› fun i c hc he => hlive ⟨i, c, hc, he⟩
    · exact hs.fresh_block b (Nat.not_lt.mp ‹_›)

end Connected

/-- The log as it were if lxi_init freed the sessions that it resets. -/
def frees (blocks : List Block) (log : List Event) : List Event :=
  blocks.map (fun b => .free (some b)) ++ log

theorem count_frees (blocks : List Block) (log : List Event) (b : Block) :
    (frees blocks log).count (.free (some b)) = blocks.count b + log.count (.free (some b)) := by
  have hinjective : Function.Injective fun b : Block => Event.free (some b) := by
    intro c d h
    cases h
    rfl
  rw [frees, List.count_append, List.count_map_of_injective blocks _ hinjective]

theorem usesLive_frees {blocks : List Block} {log : List Event} :
    UsesLive (frees blocks log) ↔ UsesLive log := by
  induction blocks with
  | nil => exact Iff.rfl
  | cons b blocks ih => exact usesLive_free.trans ih

theorem not_live_init {s : State σ} {log : List Event} {i : Nat} {c : Conn} :
    ¬ Live (relog (lxiInit s).2 log) i c := fun h =>
  not_live_of_free (by simp [relog, lxiInit, h.1]) h

theorem init_wellFormed {s : State σ} {log : List Event} (hs : WellFormed (relog s log)) :
    WellFormed (relog (lxiInit s).2 (frees (connectedBlocks s.session) log)) := by
  have hfreed (b : Block) :
      freed (relog (lxiInit s).2 (frees (connectedBlocks s.session) log)) b =
        if b < s.nextBlock then 1 else 0 := by
    rw [freed, log_relog, count_frees]
    exact count_connectedBlocks hs b
  exact {
    free_entry i hi _ := by simp [relog, lxiInit, hi]
    live_entry i hi ha := by simp [relog, lxiInit, hi] at ha
    distinct h := absurd h not_live_init
    usesLive := by
      rw [log_relog, usesLive_frees]
      exact hs.usesLive
    live_block h := absurd h not_live_init
    dead_block b hb _ := (hfreed b).trans (if_pos hb)
    fresh_block b hb := (hfreed b).trans (if_neg (Nat.not_lt.mpr hb)) }

/-- The library that frees what lxi_init resets: it is well-formed, and besides these
frees its log is that of the real one. -/
structure Shadows (p : Process σ) (log : List Event) : Prop where
  wellFormed : WellFormed (relog p.lib log)
  sublist : p.lib.log.Sublist log
  count : ∀ b, log.count (.free (some b)) = p.lost.count b + freed p.lib b

theorem live_relog {s : State σ} {log : List Event} {i : Nat} {c : Conn} :
    Live (relog s log) i c ↔ Live s i c := by
  rw [Live, Live, relog]

theorem cases_of_relog {s : State σ} {log : List Event} (hs : WellFormed (relog s log))
    {call : Call σ} (hin : call.Inside) :
    ∀ device ∈ call.device, isValidSession s.session device = false ∨
      ∃ (i : Nat) (c : Conn), device = i ∧ Live s i c := by
  intro device hd
  have hcases := handle_cases hs (hin device hd)
  simp only [live_relog] at hcases
  exact hcases

theorem step_shadows {p q : Process σ} {a : Action σ} {log : List Event} (h : Shadows p log)
    (hstep : step p a = some q) :
    ∃ new newLog, q.lib.log = new ++ p.lib.log ∧ new.Sublist newLog ∧
      p.lost ⊆ q.lost ∧ Shadows q (newLog ++ log) := by
  cases a with
  | init =>
      obtain rfl := Option.some.inj hstep
      refine ⟨[], (connectedBlocks p.lib.session).map fun b => .free (some b), rfl,
        List.nil_sublist _, List.subset_append_right _ _, ?_⟩
      exact {
        wellFormed := init_wellFormed h.wellFormed
        sublist := List.sublist_append_of_sublist_right h.sublist
        count b := by
          have hcount := count_frees (connectedBlocks p.lib.session) log b
          rw [h.count b, ← Nat.add_assoc, ← List.count_append] at hcount
          exact hcount }
  | call call =>
      obtain ⟨hin, h'⟩ := Option.ite_none_right_eq_some.mp hstep
      obtain ⟨⟨r, s'⟩, hperform, rfl⟩ := Option.map_eq_some_iff.mp h'
      obtain ⟨new, hnew, hrelog⟩ := perform_appends (cases_of_relog h.wellFormed hin) hperform
      refine ⟨new, new, hnew, List.Sublist.refl _, List.Subset.refl _, ?_⟩
      exact {
        wellFormed := perform_wellFormed h.wellFormed hin (hrelog log)
        sublist := by
          rw [hnew]
          exact (List.append_sublist_append_left new).mpr h.sublist
        count b := by
          have hs' : s'.log = new ++ p.lib.log := hnew
          change (new ++ log).count _ = p.lost.count b + freed s' b
          rw [freed, hs', List.count_append, List.count_append, h.count b, freed]
          omega }

theorem run_shadows {p q : Process σ} {as : List (Action σ)} {log : List Event}
    (h : Shadows p log) (hrun : run step p as = some q) :
    ∃ new newLog, q.lib.log = new ++ p.lib.log ∧ new.Sublist newLog ∧
      p.lost ⊆ q.lost ∧ Shadows q (newLog ++ log) := by
  induction as generalizing p log with
  | nil =>
      obtain rfl := Option.some.inj hrun
      exact ⟨[], [], rfl, List.Sublist.refl _, List.Subset.refl _, h⟩
  | cons a as ih =>
      obtain ⟨t, hstep, hrun⟩ := run_cons_eq_some.mp hrun
      obtain ⟨new, newLog, hlog, hsub, hlost, ht⟩ := step_shadows h hstep
      obtain ⟨new', newLog', hlog', hsub', hlost', hq⟩ := ih ht hrun
      refine ⟨new' ++ new, newLog' ++ newLog, ?_, hsub'.append hsub, List.Subset.trans hlost hlost', ?_⟩
      · rw [hlog', hlog, List.append_assoc]
      · rw [List.append_assoc]
        exact hq

theorem shadows_start (session : Nat → Session) (w : σ) : Shadows (start session w) [] where
  wellFormed := wellFormed_initial session w
  sublist := List.Sublist.refl _
  count _ := rfl

theorem usesLive_sublist {log log' : List Event} (h : log.Sublist log') (hlive : UsesLive log') :
    UsesLive log := by
  induction h with
  | slnil => exact hlive
  | cons e h ih =>
      apply ih
      cases e with
      | malloc b => exact hlive
      | free d => exact hlive
      | error m => exact hlive
      | call op fn data =>
          cases data with
          | none => exact hlive
          | some b => exact hlive.2
  | cons_cons e h ih =>
      cases e with
      | malloc b => exact ih hlive
      | free d => exact ih hlive
      | error m => exact ih hlive
      | call op fn data =>
          cases data with
          | none => exact ih hlive
          | some b => exact ⟨fun hm => hlive.1 (h.subset hm), ih hlive.2⟩

theorem not_called_of_freed {new log : List Event} (h : UsesLive (new ++ log)) {b : Block}
    (hb : .free (some b) ∈ log) (op : Operation) (fn : FnPtr) : .call op fn (some b) ∉ new := by
  induction new with
  | nil => simp
  | cons e new ih =>
      have htail : UsesLive (new ++ log) := usesLive_sublist (List.sublist_cons_self e _) h
      rw [List.mem_cons, not_or]
      refine ⟨?_, ih htail⟩
      rintro rfl
      exact h.1 (List.mem_append_right new hb)

/-- What becomes of every block that malloc returned: an entry holds it, lxi_init lost
it while an entry held it, or it has been freed. -/
structure Accounted (p : Process σ) : Prop where
  freedOnce : ∀ b, freed p.lib b ≤ 1
  usesLive : UsesLive p.lib.log
  nodup : p.lost.Nodup
  held : ∀ i c, Live p.lib i c → c.block < p.lib.nextBlock ∧ freed p.lib c.block = 0
  lost : ∀ b ∈ p.lost, b < p.lib.nextBlock ∧ freed p.lib b = 0 ∧ ∀ i c, Live p.lib i c → c.block ≠ b
  dead : ∀ b < p.lib.nextBlock, b ∉ p.lost → (∀ i c, Live p.lib i c → c.block ≠ b) →
    freed p.lib b = 1

theorem Shadows.accounted {p : Process σ} {log : List Event} (h : Shadows p log) : Accounted p := by
  have hfreed (b : Block) : freed (relog p.lib log) b = p.lost.count b + freed p.lib b := h.count b
  have hle (b : Block) : p.lost.count b + freed p.lib b ≤ 1 := by
    rw [← hfreed]
    exact h.wellFormed.freed_le_one b
  exact {
    freedOnce b := (Nat.le_add_left _ _).trans (hle b)
    usesLive := usesLive_sublist h.sublist h.wellFormed.usesLive
    nodup := List.nodup_iff_count_le_one.mpr fun b => (Nat.le_add_right _ _).trans (hle b)
    held i c hc := by
      obtain ⟨hlt, hzero⟩ := h.wellFormed.live_block (live_relog.mpr hc)
      rw [hfreed] at hzero
      exact ⟨hlt, (Nat.add_eq_zero_iff.mp hzero).2⟩
    lost b hb := by
      have hpos := List.count_pos_iff.mpr hb
      have hone := hle b
      refine ⟨?_, by omega, ?_⟩
      · by_contra hge
        have hfresh := h.wellFormed.fresh_block b (Nat.not_lt.mp hge)
        rw [hfreed] at hfresh
        omega
      · rintro i c hc rfl
        have hzero := (h.wellFormed.live_block (live_relog.mpr hc)).2
        rw [hfreed] at hzero
        omega
    dead b hb hnot hdead := by
      have hone := h.wellFormed.dead_block b hb fun i c hc => hdead i c (live_relog.mp hc)
      rwa [hfreed, List.count_eq_zero_of_not_mem hnot, Nat.zero_add] at hone }

/-- Whenever an application calls lxi_init, every block is freed at most once and
never used again, the blocks that stay unfreed besides those of connected sessions
are just those that were connected at some lxi_init, and no call reaches these after
it. -/
theorem init_loses_sessions {session : Nat → Session} {w : σ} {before after : List (Action σ)}
    {p q : Process σ} (hbefore : run step (start session w) before = some p)
    (hafter : run step p after = some q) :
    Accounted q ∧ p.lost ⊆ q.lost ∧
      ∃ new, q.lib.log = new ++ p.lib.log ∧
        ∀ b ∈ p.lost, ∀ op fn, .call op fn (some b) ∉ new := by
  obtain ⟨-, log, -, -, -, hp⟩ := run_shadows (shadows_start session w) hbefore
  obtain ⟨new, newLog, hlog, hsub, hlost, hq⟩ := run_shadows hp hafter
  refine ⟨hq.accounted, hlost, new, hlog, fun b hb op fn hcall => ?_⟩
  have hfree : .free (some b) ∈ log ++ [] := by
    rw [← List.count_pos_iff, hp.count b]
    exact Nat.add_pos_left (List.count_pos_iff.mpr hb) _
  exact not_called_of_freed hq.wellFormed.usesLive hfree op fn (hsub.subset hcall)

theorem freeSession_init (s : State σ) : freeSession (lxiInit s).2.session = some 0 := by
  apply freeSession_some.mpr
  refine ⟨by decide, ?_, by simp⟩
  have h : 0 < sessionsMax := by decide
  simp [lxiInit, h]

theorem freeSession_start :
    freeSession (start default () : Process Unit).lib.session = some 0 := by
  rw [start]
  exact freeSession_initial default ()

def succeeds : Effect Unit := fun _ _ w => some (0, w)

theorem step_connect {p : Process Unit} {i : Nat} (hi : freeSession p.lib.session = some i) :
    step p (.call (.connect .raw succeeds)) =
      some ⟨connectDone p.lib i ⟨.tcp, p.lib.nextBlock⟩ (), p.lost⟩ := by
  have hin : (Call.connect .raw succeeds).Inside := by
    rintro device ⟨⟩
  rw [step, if_pos hin, Application.perform, lxiConnect_supported hi rfl]
  rfl

theorem init_loses_sessions_reused :
    ∃ p q : Process Unit,
      run step (start default ()) [.call (.connect .raw succeeds), .init] = some p ∧
      run step p [.call (.connect .raw succeeds), .call (.send 0 succeeds),
        .call (.disconnect 0 succeeds)] = some q ∧
      p.lost = [0] ∧ Accounted q ∧ p.lost ⊆ q.lost ∧
      ∃ new, q.lib.log = new ++ p.lib.log ∧
        ∀ b ∈ p.lost, ∀ op fn, .call op fn (some b) ∉ new := by
  obtain ⟨p, hp⟩ : ∃ p : Process Unit,
      run step (start default ()) [.call (.connect .raw succeeds), .init] = some p ∧ p.lost = [0] ∧
        freeSession p.lib.session = some 0 := by
    rw [run_cons, step_connect freeSession_start, Option.bind_some]
    exact ⟨_, rfl, by decide +kernel, freeSession_init _⟩
  obtain ⟨hbefore, hlost, hfree⟩ := hp
  have hafter : ∃ q, run step p [.call (.connect .raw succeeds), .call (.send 0 succeeds),
      .call (.disconnect 0 succeeds)] = some q := by
    rw [run_cons, step_connect hfree, Option.bind_some]
    exact ⟨_, rfl⟩
  obtain ⟨q, hafter⟩ := hafter
  exact ⟨p, q, hbefore, hafter, hlost, init_loses_sessions hbefore hafter⟩

def Twin (s t : State σ) : Prop := WellFormed t ∧ ∃ log, t = relog s log

theorem perform_twin {s t : State σ} (h : Twin s t) (call : Call σ) (hin : call.Inside) :
    Option.Rel (fun x y => x.1 = y.1 ∧ Twin x.2 y.2) (Application.perform s call)
      (Application.perform t call) := by
  obtain ⟨ht, log, rfl⟩ := h
  cases hs : Application.perform s call with
  | some x =>
      obtain ⟨new, -, hrelog⟩ := perform_appends (cases_of_relog ht hin) hs
      rw [hrelog log]
      exact .some ⟨rfl, perform_wellFormed ht hin (hrelog log), new ++ log, rfl⟩
  | none =>
      cases htwin : Application.perform (relog s log) call with
      | none => exact .none
      | some y =>
          have hcases := fun device hd => handle_cases ht (hin device hd)
          obtain ⟨new, -, hrelog⟩ := perform_appends hcases htwin
          have hback : Application.perform s call = some (y.1, relog y.2 (new ++ s.log)) :=
            hrelog s.log
          rw [hs] at hback
          cases hback

theorem map_fst_eq_of_rel {R S T : Type} {I : S → T → Prop} {o : Option (R × S)} {p : Option (R × T)}
    (h : Option.Rel (fun x y => x.1 = y.1 ∧ I x.2 y.2) o p) : o.map (·.1) = p.map (·.1) := by
  cases h with
  | none => rfl
  | some h => exact congrArg some h.1

/-- After lxi_init the library is the finite map again, with no session in it: any
calls return what they return on the empty map, whatever came before. -/
theorem init_restarts {session : Nat → Session} {w : σ} {before : List (Action σ)}
    {p : Process σ} (hbefore : run step (start session w) before = some p) {calls : List (Call σ)}
    (hin : ∀ call ∈ calls, call.Inside) :
    ∃ m : Spec σ, (∀ i, m.live i = none) ∧ m.nextBlock = p.lib.nextBlock ∧ m.world = p.lib.world ∧
      (outputs Application.perform (lxiInit p.lib).2 calls).map (·.1) =
        (outputs SessionMap.perform m calls).map (·.1) := by
  obtain ⟨-, log, -, -, -, hp⟩ := run_shadows (shadows_start session w) hbefore
  obtain ⟨log', hinit⟩ : ∃ log', WellFormed (relog (lxiInit p.lib).2 log') :=
    ⟨_, init_wellFormed hp.wellFormed⟩
  let m : Spec σ := ⟨fun _ => none, p.lib.nextBlock, log', p.lib.world⟩
  have hm : Refines (relog (lxiInit p.lib).2 log') m :=
    refines_of_live hinit (fun i c => by simp [m, not_live_init]) rfl rfl rfl
  have htwin : Option.Rel (fun x y => x.1 = y.1 ∧ Twin x.2 y.2)
      (outputs Application.perform (lxiInit p.lib).2 calls)
      (outputs Application.perform (relog (lxiInit p.lib).2 log') calls) :=
    outputs_rel (I := Twin) (fun _ _ call hcall h => perform_twin h call hcall) ⟨hinit, log', rfl⟩
      hin
  refine ⟨m, fun i => rfl, rfl, rfl, ?_⟩
  exact (map_fst_eq_of_rel htwin).trans (map_fst_eq_of_rel (outputs_refines hm hin))

theorem init_restarts_reused :
    ∃ (p : Process Unit) (m : Spec Unit),
      run step (start default ()) [.call (.connect .raw succeeds)] = some p ∧
      (∀ i, m.live i = none) ∧ m.nextBlock = p.lib.nextBlock ∧ m.world = p.lib.world ∧
      (outputs Application.perform (lxiInit p.lib).2
          [.send 0 succeeds, .connect .vxi11 succeeds, .send 0 succeeds]).map (·.1) =
        (outputs SessionMap.perform m
          [.send 0 succeeds, .connect .vxi11 succeeds, .send 0 succeeds]).map (·.1) := by
  have hrun : ∃ p : Process Unit,
      run step (start default ()) [.call (.connect .raw succeeds)] = some p := by
    rw [run_cons, step_connect freeSession_start, Option.bind_some]
    exact ⟨_, rfl⟩
  obtain ⟨p, hrun⟩ := hrun
  have hin : ∀ call ∈ [Call.send 0 succeeds, .connect .vxi11 succeeds, .send 0 succeeds],
      call.Inside := by
    simp [Call.Inside, Call.device, sessionsMax]
  obtain ⟨m, h⟩ := init_restarts hrun hin
  exact ⟨p, m, hrun, h⟩

end LibLxi.Reinit

import LibLxi.Bonjour
import LibLxi.TracedUses

namespace LibLxi.BrowseRefs

open Bonjour Descriptors Info Platform TracedUses Tracing

def callbackRef : Event → Option (Use Ref)
  | .resolve _ ref => ref.map .opened
  | .deallocate ref => some (.closed ref)
  | _ => none

def refUse : ServiceEvent → Option (Use Ref)
  | .browse _ ref => ref.map .opened
  | .deallocate ref => some (.closed ref)
  | .browsed e => callbackRef e
  | _ => none

def blockUse : ServiceEvent → Option (Use Block)
  | .browsed (.malloc data) => data.map .opened
  | .browsed (.free data) => some (.closed data)
  | _ => none

def ClosedOnce (us : List (Use Nat)) : Prop :=
  ∀ before d after, us = before ++ .opened d :: after → closesOf d after = 1

def OpenedFirst (us : List (Use Nat)) : Prop :=
  ∀ before d after, us = before ++ .closed d :: after → .opened d ∈ before

/-- What a browse_lxi_services owes when it ends. -/
structure Released (t : Browse Unit) : Prop where
  refs : ClosedOnce (t.events.filterMap refUse)
  produced : OpenedFirst (t.events.filterMap refUse)
  blocks : ClosedOnce (t.events.filterMap blockUse)
  unused : t.result ≠ .error .freed

/-- It returns, or uses a block that is free. -/
def Ends (t : Browse Unit) : Prop := t.result = .ok () ∨ t.result = .error .freed

theorem closedOnce_nil : ClosedOnce [] := by
  intro before d after h
  simp at h

theorem openedFirst_nil : OpenedFirst [] := by
  intro before d after h
  simp at h

variable {info : LxiInfo} {own : Finset Ref}

theorem resolveCallback_quiet (block : Block) (data : Option BrowseData) (r : Resolved) :
    Quiet callbackRef (resolveCallback block data r) := by
  rw [resolveCallback]
  split_ifs
  · exact (quiet_emit rfl).bind fun _ => quiet_pure _
  · have haddress : Quiet callbackRef (resolveIpAddress r) := by
      rw [resolveIpAddress]
      apply (quiet_need _ _).bind
      intro addresses
      cases addresses <;> exact quiet_pure _
    apply haddress.bind
    intro _
    apply (quiet_need _ _).bind
    intro _
    apply (quiet_ite (quiet_emit rfl) (quiet_stop _)).bind
    intro _
    exact (quiet_emit rfl).bind fun _ => quiet_pure _

theorem resolveService_closesOwn (block : Block) (data : BrowseData) (b : Browsed) :
    ClosesOwn (fun _ => True) own ((resolveService block data b).events.filterMap callbackRef) := by
  rw [resolveService]
  by_cases hresolve : b.resolveError ≠ 0
  · rw [if_pos hresolve]
    exact trivial
  · rw [if_neg hresolve, emit_bind, emit_bind]
    have hquiet : Quiet callbackRef (b.resolved.foldlM (resolveCallback block) (some data)) :=
      quiet_foldlM (resolveCallback_quiet block) _ _
    change ClosesOwn _ (insert b.ref own) _
    apply closesOwn_bind (closesOwn_of_quiet hquiet)
    intro _
    split_ifs
    · exact trivial
    · exact ⟨fun _ => Finset.mem_insert_self _ _, trivial⟩

theorem browseCallback_closesOwn (info : LxiInfo) (b : Browsed) :
    ClosesOwn (fun _ => True) own ((browseCallback info b).events.filterMap callbackRef) := by
  rw [browseCallback]
  split_ifs
  · exact trivial
  · have hnotify : Quiet callbackRef
        (notify info.broadcast (.broadcast b.serviceName b.interface)) :=
      quiet_ite (quiet_emit rfl) (quiet_stop _)
    apply closesOwn_bind (closesOwn_of_quiet hnotify)
    intro _
    apply closesOwn_bind (closesOwn_of_quiet (quiet_emit rfl))
    intro _
    cases b.malloc with
    | none => exact trivial
    | some block => exact resolveService_closesOwn block _ b

variable {o : String → ServiceOutcome} {s : String × String} {ss : List (String × String)}

def refUses (t : Browse Unit) : List (Use Ref) := t.events.filterMap refUse

theorem browseLoop_opened (tv : Timeval) (service : Option Ref) (hbrowse : (o s.1).browseError = 0)
    (hrest : ∀ tv, ClosesOwn (fun _ => True) own
      (refUses (browseLoop info o tv (some (o s.1).ref) ss))) :
    ∃ rest, refUses (browseLoop info o tv service (s :: ss)) = .opened (o s.1).ref :: rest ∧
      ClosesOwn (fun _ => True) own rest := by
  have hprint (message : Message) : Quiet refUse (emit (.print message) : Browse Unit) :=
    quiet_emit rfl
  rw [refUses, browseLoop]
  simp only [hbrowse]
  rw [if_neg (by simp), emit_bind]
  refine ⟨_, rfl, ?_⟩
  apply closesOwn_bind (closesOwn_of_quiet (quiet_emit rfl))
  intro _
  apply closesOwn_bind (closesOwn_of_quiet (quiet_emit rfl))
  intro _
  by_cases hready : (o s.1).select > 0
  · rw [if_pos hready]
    apply closesOwn_bind (closesOwn_of_quiet (quiet_emit rfl))
    intro _
    apply closesOwn_bind
    · apply closesOwn_forM
      intro b _
      rw [events_within, List.filterMap_map]
      exact browseCallback_closesOwn info b
    · intro _
      split_ifs
      · exact closesOwn_of_quiet (hprint _)
      · exact hrest _
  · rw [if_neg hready]
    split_ifs
    · exact closesOwn_bind (closesOwn_of_quiet (hprint _)) fun _ => hrest _
    · exact closesOwn_of_quiet (hprint _)

/-- The loop closes, besides what it opens itself, only the reference it is left
with when no service type is left. -/
theorem browseLoop_closesOwn {tv : Timeval} {service : Option Ref}
    (h : ss = [] → ∀ ref, service = some ref → ref ∈ own) :
    ClosesOwn (fun _ => True) own (refUses (browseLoop info o tv service ss)) := by
  induction ss generalizing tv service own with
  | nil =>
      cases service with
      | none => exact trivial
      | some ref => exact ⟨fun _ => h rfl ref rfl, trivial⟩
  | cons s ss ih =>
      by_cases hbrowse : (o s.1).browseError = 0
      · have htail (tv : Timeval) : ClosesOwn (fun _ => True) (insert (o s.1).ref own)
            (refUses (browseLoop info o tv (some (o s.1).ref) ss)) := by
          apply ih
          rintro - ref ⟨⟩
          exact Finset.mem_insert_self _ _
        obtain ⟨rest, hrest, hcloses⟩ := browseLoop_opened tv service hbrowse htail
        rw [hrest]
        exact hcloses
      · rw [refUses, browseLoop]
        simp only [if_pos hbrowse]
        exact trivial

/-- A bonjour discovery that ends has released everything exactly once if and only
if it acquired nothing: its first DNSServiceBrowse failed. -/
theorem browse_released_iff (info : LxiInfo) (timeout : Int) (o : String → ServiceOutcome) :
    (Ends (browseLxiServices info timeout o) → Released (browseLxiServices info timeout o)) ↔
      (Ends (browseLxiServices info timeout o) → (o "_lxi._tcp.").browseError ≠ 0) := by
  refine imp_congr_right fun _ => ?_
  constructor
  · intro h hbrowse
    have htail (tv : Timeval) : ClosesOwn (fun _ => True) ∅
        (refUses (browseLoop info o tv (some (o "_lxi._tcp.").ref) lxiServices.tail)) :=
      browseLoop_closesOwn fun hnil => by cases hnil
    obtain ⟨rest, hrest, hcloses⟩ :=
      browseLoop_opened (s := ("_lxi._tcp.", "lxi")) (timevalOf timeout) none hbrowse htail
    have hone : closesOf (o "_lxi._tcp.").ref rest = 1 := h.refs [] _ rest hrest
    have hzero : closesOf (o "_lxi._tcp.").ref rest = 0 :=
      closesOf_eq_zero hcloses trivial (Finset.notMem_empty _)
    exact absurd (hzero.symm.trans hone) (by decide)
  · intro hbrowse
    have hrun : browseLxiServices info timeout o =
        ⟨[.browse "_lxi._tcp." none,
          .print (.code "DNSServiceBrowse() failed: " (o "_lxi._tcp.").browseError "\n")],
          .ok ()⟩ := by
      rw [browseLxiServices, lxiServices, browseLoop]
      simp only [if_pos hbrowse]
      rfl
    rw [hrun]
    exact ⟨closedOnce_nil, openedFirst_nil, closedOnce_nil, by simp⟩

def unanswered (regtype : String) : ServiceOutcome where
  browseError := 0
  ref := lxiServices.findIdx fun s => s.1 = regtype
  sockFd := 5
  select := 0
  left := ⟨0, 0⟩
  browsed := []
  processError := 0

theorem browse_leaks :
    (browseLxiServices ⟨true, true, true⟩ 1000 unanswered).result = .ok () ∧
      refUses (browseLxiServices ⟨true, true, true⟩ 1000 unanswered) =
        [.opened 0, .opened 1, .opened 2, .opened 3, .opened 4, .closed 4] ∧
      ¬ Released (browseLxiServices ⟨true, true, true⟩ 1000 unanswered) := by
  have huses : refUses (browseLxiServices ⟨true, true, true⟩ 1000 unanswered) =
      [.opened 0, .opened 1, .opened 2, .opened 3, .opened 4, .closed 4] := rfl
  refine ⟨rfl, huses, fun h => ?_⟩
  have hone := h.refs [] 0 _ huses
  revert hone
  decide

end LibLxi.BrowseRefs

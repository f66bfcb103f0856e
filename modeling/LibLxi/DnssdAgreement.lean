import LibLxi.CygwinDnssd

namespace LibLxi.DnssdAgreement

open Bonjour CygwinDnssd Info Platform Tracing

variable {E : Type} {dll : Dll} {info : LxiInfo}

def Complete (dll : Dll) : Prop := ∀ name, (dll.pointer name).isSome

def calls : ServiceEvent → Option ServiceEvent
  | .print _ => none
  | e => some e

/-- The same outcomes with a select that leaves its timeout as it is. -/
def keeping (tv : Timeval) (o : String → ServiceOutcome) (service : String) : ServiceOutcome :=
  { o service with left := tv }

theorem through_complete (h : Complete dll) (name : Symbol) :
    (through dll name : Trace E CygwinDnssd.Stop Unit) = pure () := by
  obtain ⟨a, ha⟩ := Option.isSome_iff_exists.mp (h name)
  rw [through, ha]

theorem resolveService_agrees (h : Complete dll) (block : Block) (data : BrowseData) (b : Browsed) :
    CygwinDnssd.resolveService dll block data b =
      within id .service (Bonjour.resolveService block data b) := by
  rw [CygwinDnssd.resolveService, Bonjour.resolveService, through_complete h]
  split
  · rfl
  · simp only [through_complete h, pure_bind, within_bind, within_emit]
    by_cases herror : b.processError ≠ 0
    · simp only [if_pos herror]
      rfl
    · simp only [if_neg herror]
      rfl

theorem browseCallback_agrees (h : Complete dll) (b : Browsed) :
    CygwinDnssd.browseCallback dll info b = within id .service (Bonjour.browseCallback info b) := by
  rw [CygwinDnssd.browseCallback, Bonjour.browseCallback]
  split
  · rfl
  · simp only [within_bind, within_emit, id]
    cases b.malloc with
    | none => rfl
    | some block => simp only [resolveService_agrees h]

theorem forM_browsed_agrees (h : Complete dll) (bs : List Browsed) :
    (bs.forM fun b => within ServiceEvent.browsed id (CygwinDnssd.browseCallback dll info b)) =
      within id .service
        (bs.forM fun b => within .browsed id (Bonjour.browseCallback info b)) := by
  rw [within_forM]
  apply congrArg (bs.forM ·)
  funext b
  rw [browseCallback_agrees h, within_within, within_within]
  rfl

theorem browseLoop_agrees (h : Complete dll) (o : String → ServiceOutcome) (tv : Timeval)
    (service : Option Ref) (ss : List (String × String)) :
    observe calls (CygwinDnssd.browseLoop dll info o tv service ss) =
      observe calls (within id .service (Bonjour.browseLoop info (keeping tv o) tv service ss)) := by
  induction ss generalizing service with
  | nil =>
      rw [CygwinDnssd.browseLoop, Bonjour.browseLoop, through_complete h]
      cases service <;> rfl
  | cons s ss ih =>
      rw [CygwinDnssd.browseLoop, Bonjour.browseLoop]
      simp only [through_complete h, pure_bind]
      by_cases hbrowse : (o s.1).browseError ≠ 0
      · have hbrowse' : (keeping tv o s.1).browseError ≠ 0 := hbrowse
        simp only [if_pos hbrowse, if_pos hbrowse']
        rfl
      · have hbrowse' : ¬ (keeping tv o s.1).browseError ≠ 0 := hbrowse
        simp only [if_neg hbrowse, if_neg hbrowse', within_bind, within_emit, observe_bind]
        by_cases hready : (o s.1).select > 0
        · have hready' : (keeping tv o s.1).select > 0 := hready
          simp only [if_pos hready, if_pos hready', forM_browsed_agrees h, within_bind, within_emit,
            observe_bind]
          by_cases herror : (o s.1).processError ≠ 0
          · have herror' : (keeping tv o s.1).processError ≠ 0 := herror
            simp only [if_pos herror, if_pos herror']
            rfl
          · have herror' : ¬ (keeping tv o s.1).processError ≠ 0 := herror
            simp only [if_neg herror, if_neg herror', observe_bind, ih]
            rfl
        · have hready' : ¬ (keeping tv o s.1).select > 0 := hready
          simp only [if_neg hready, if_neg hready']
          by_cases hzero : (o s.1).select = 0
          · have hzero' : (keeping tv o s.1).select = 0 := hzero
            simp only [if_pos hzero, if_pos hzero', observe_bind, within_bind, within_emit, ih]
            rfl
          · have hzero' : ¬ (keeping tv o s.1).select = 0 := hzero
            simp only [if_neg hzero, if_neg hzero']
            rfl

end LibLxi.DnssdAgreement

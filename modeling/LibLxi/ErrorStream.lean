import LibLxi.DiscoveryProbes
import LibLxi.ProbeExits

namespace LibLxi.ErrorStream

open DeviceId (Probe ProbeOutcome fetchXml getDeviceId httpFallback)
open ProbeEvents (getDeviceId_events)
open Discover DiscoverCalls DiscoveryProbes Memory ProbeExits Tracing

def probeReopened : DeviceId.Event → Option String
  | .freopen path => some path
  | _ => none

def reopened (e : Event) : Option String := (probeEvent e).bind probeReopened

/-- Where stderr goes after these events, if it went to entry before them. -/
def destination (entry : String) (events : List Event) : String :=
  (events.filterMap reopened).getLast?.getD entry

def printed : DeviceId.Event → Option DeviceId.Event
  | .tcp (.error message) => some (.tcp (.error message))
  | .rpc (.error message) => some (.rpc (.error message))
  | _ => none

def Prints : Event → Prop
  | .error _ => True
  | .probe e => printed e ≠ none
  | _ => False

/-- A probe has been made, and something other than a probe has happened since. -/
def ProbeEnded (before : List Event) : Prop :=
  ∃ earlier p later e, before = earlier ++ .probe p :: later ∧ e ∈ later ∧ probeEvent e = none

def Returns (backend : Option MdnsBackend) (o : DiscoverOutcome) (c : Call) : Prop :=
  ∃ ret, (perform backend o c).result = .ok ret

/-- stderr is at the return where it was at entry, and so it is for every message
behind a probe that has ended, whether the discovery returns or not. -/
structure Restored (backend : Option MdnsBackend) (o : DiscoverOutcome) (c : Call)
    (entry : String) : Prop where
  returned : Returns backend o c → destination entry (perform backend o c).events = entry
  messages : ∀ before e after, (perform backend o c).events = before ++ e :: after → Prints e →
    ProbeEnded before → destination entry before = entry

def Falls : Step → Prop
  | .probe p => Replies p.timeout p.outcome 0
  | .unprepared => False

def Reports : Step → Prop
  | .probe p => ∃ e ∈ p.trace.events, printed e ≠ none
  | .unprepared => True

/-- A probe reports an error of its HTTP exchange, which it makes with stderr on
/dev/null. -/
def ReportsMuted : Step → Prop
  | .probe p =>
      Replies p.timeout p.outcome 0 ∧ ∃ e ∈ (fetchXml p.timeout p.outcome).events, printed e ≠ none
  | .unprepared => False

/-- Nothing that the later step reports goes elsewhere, neither because of the
earlier step nor because of the later one itself. -/
def Heard (s s' : Step) : Prop :=
  (Falls s → ¬ Reports s') ∧ (s.call ≠ none → ¬ ReportsMuted s')

def Muted (events : List Event) : Prop := events.filterMap reopened ≠ []

def Probed (events : List Event) : Prop := ∃ p, .probe p ∈ events

/-- A destination that is right wherever stderr went before was never changed. -/
theorem destination_iff {events : List Event} :
    (∀ entry, destination entry events = entry) ↔ ¬ Muted events := by
  rw [Muted, not_not]
  constructor
  · intro h
    by_contra hsome
    have hstrings : Nontrivial String := ⟨"", "/dev/null", by decide⟩
    obtain ⟨path, hpath⟩ := Option.isSome_iff_exists.mp (List.getLast?_isSome.mpr hsome)
    obtain ⟨entry, hentry⟩ := exists_ne path
    have hreturned := h entry
    rw [destination, hpath] at hreturned
    exact hentry hreturned.symm
  · intro h entry
    rw [destination, h]
    rfl

theorem muted_append {a b : List Event} : Muted (a ++ b) ↔ Muted a ∨ Muted b := by
  rw [Muted, Muted, Muted, List.filterMap_append, ne_eq, List.append_eq_nil_iff, not_and_or]

theorem muted_probes {events : List DeviceId.Event} :
    Muted (events.map .probe) ↔ events.filterMap probeReopened ≠ [] := by
  rw [Muted, List.filterMap_map]
  rfl

theorem probed_of_muted {events : List Event} (h : Muted events) : Probed events := by
  obtain ⟨path, hpath⟩ := List.exists_mem_of_ne_nil _ h
  obtain ⟨e, he, hpath⟩ := List.mem_filterMap.mp hpath
  cases e with
  | probe p => exact ⟨p, he⟩
  | _ => cases hpath

theorem probed_append {a b : List Event} : Probed (a ++ b) ↔ Probed a ∨ Probed b := by
  simp only [Probed, List.mem_append, exists_or]

theorem not_probed_plain {gap : List Event} (h : ∀ e ∈ gap, Plain e) : ¬ Probed gap :=
  fun ⟨p, hp⟩ => h (.probe p) hp

section Probe

variable {timeout : Int} {id : Cells UInt8} {o : ProbeOutcome}

theorem getDeviceId_reopened_iff :
    (getDeviceId timeout id o).events.filterMap probeReopened = [] ↔ ¬ Replies timeout o 0 := by
  constructor
  · intro h hreplies
    have hmuted : .freopen "/dev/null" ∈ (getDeviceId timeout id o).events := by
      rw [getDeviceId_fallback hreplies id]
      exact List.mem_append_right _ (List.mem_cons_of_mem _ List.mem_cons_self)
    cases List.filterMap_eq_nil_iff.mp h _ hmuted
  · intro h
    exact getDeviceId_plain (fun _ => rfl) (fun _ _ => rfl) (fun _ => rfl) h id

theorem blind_printed : ProbeEvents.Blind printed :=
  ⟨fun _ => rfl, fun _ _ => rfl, fun _ => rfl, fun _ => rfl, fun _ => rfl⟩

theorem fallback_events (h : Replies timeout o 0) (id : Cells UInt8) :
    ∃ front back, (getDeviceId timeout id o).events = front ++ .freopen "/dev/null" :: back ∧
      front.filterMap probeReopened = [] ∧
      back.filterMap printed = (fetchXml timeout o).events.filterMap printed := by
  obtain ⟨back, hback⟩ : ∃ back, (httpFallback timeout
      (store (idReply timeout id o).message 0 [0]) o).events = .freopen "/dev/null" :: back :=
    ⟨_, rfl⟩
  refine ⟨(rpcEvents timeout id o).map .rpc ++ [.storeId 0 [0]], back, ?_, ?_, ?_⟩
  · rw [getDeviceId_fallback h id, ProbeEvents.storeId_bind, hback, DeviceId.rpc,
      emits_bind]
    simp
  · rw [List.filterMap_append, List.filterMap_map]
    simp [Function.comp_def, probeReopened]
  · have hseen := ProbeEvents.httpFallback_seen blind_printed timeout
      (store (idReply timeout id o).message 0 [0]) o
    rwa [hback] at hseen

theorem exists_printed_iff {events : List DeviceId.Event} :
    (∃ e ∈ events, printed e ≠ none) ↔ events.filterMap printed ≠ [] := by
  rw [ne_eq, List.filterMap_eq_nil_iff]
  push Not
  rfl

theorem reportsMuted_iff {p : ProbeCall} :
    ReportsMuted (.probe p) ↔ ∃ before e after, p.trace.events = before ++ e :: after ∧
      printed e ≠ none ∧ before.filterMap probeReopened ≠ [] := by
  constructor
  · rintro ⟨hreplies, hprinted⟩
    obtain ⟨front, back, hevents, -, hback⟩ := fallback_events hreplies p.id
    rw [exists_printed_iff, ← hback, ← exists_printed_iff] at hprinted
    obtain ⟨e, he, hprinted⟩ := hprinted
    obtain ⟨between, after, rfl⟩ := List.append_of_mem he
    refine ⟨front ++ .freopen "/dev/null" :: between, e, after, ?_, hprinted, ?_⟩
    · rw [ProbeCall.trace, hevents, List.append_assoc, List.cons_append]
    · simp [probeReopened]
  · rintro ⟨before, e, after, hevents, hprinted, hmuted⟩
    have hreplies : Replies p.timeout p.outcome 0 := by
      by_contra h
      have hnone : p.trace.events.filterMap probeReopened = [] := getDeviceId_reopened_iff.mpr h
      rw [hevents, List.filterMap_append] at hnone
      exact hmuted (List.append_eq_nil_iff.mp hnone).1
    refine ⟨hreplies, ?_⟩
    obtain ⟨front, back, hfallback, hfront, hback⟩ := fallback_events hreplies p.id
    rw [exists_printed_iff, ← hback, ← exists_printed_iff]
    refine ⟨e, ?_, hprinted⟩
    have hsplit : before ++ e :: after = front ++ .freopen "/dev/null" :: back :=
      hevents.symm.trans hfallback
    rcases List.append_eq_append_iff.mp hsplit with ⟨rest, rfl, -⟩ | ⟨rest, rfl, hrest⟩
    · rw [List.filterMap_append] at hfront
      exact absurd (List.append_eq_nil_iff.mp hfront).1 hmuted
    · cases rest with
      | nil =>
          rw [List.append_nil] at hmuted
          exact absurd hfront hmuted
      | cons e' rest =>
          obtain ⟨-, rfl⟩ := List.cons.inj hrest
          exact List.mem_append_right _ List.mem_cons_self

end Probe

/-- The messages of these events go to where stderr went before them, if what
happened before them is past. -/
def Told (past events : List Event) : Prop :=
  ∀ before e after, events = before ++ e :: after → Prints e → ProbeEnded (past ++ before) →
    ¬ Muted (past ++ before)

theorem told_append {past a b : List Event} :
    Told past (a ++ b) ↔ Told past a ∧ Told (past ++ a) b := by
  constructor
  · intro h
    refine ⟨fun before e after ha => ?_, fun before e after hb => ?_⟩
    · apply h before e (after ++ b)
      rw [ha, List.append_assoc, List.cons_append]
    · rw [List.append_assoc]
      apply h (a ++ before) e after
      rw [hb, List.append_assoc]
  · rintro ⟨ha, hb⟩ before e after hab
    rcases List.append_eq_append_iff.mp hab with ⟨rest, rfl, hrest⟩ | ⟨rest, rfl, hrest⟩
    · rw [← List.append_assoc]
      exact hb rest e after hrest
    · cases rest with
      | nil =>
          have hbefore := hb [] e after hrest.symm
          simpa using hbefore
      | cons e' rest =>
          obtain ⟨rfl, -⟩ := List.cons.inj hrest
          exact ha before e rest rfl

theorem told_plain {gap : List Event} (h : ∀ e ∈ gap, Plain e) (past : List Event) :
    Told past gap := by
  rintro before e after rfl hprints - -
  have hplain := h e (by simp)
  cases e <;> first | exact hplain | exact hprints

theorem probeEnded_iff {past gap : List Event} (hgap : ∀ e ∈ gap, Plain e) (hne : gap ≠ [])
    (events : List DeviceId.Event) :
    ProbeEnded (past ++ gap ++ events.map .probe) ↔ Probed past := by
  constructor
  · rintro ⟨earlier, p, later, e, hsplit, he, hprobe⟩
    by_contra hnone
    have hfront : Event.probe p ∉ past ++ gap := by
      intro hmem
      rcases probed_append.mp ⟨p, hmem⟩ with h | h
      · exact hnone h
      · exact not_probed_plain hgap h
    rcases List.append_eq_append_iff.mp hsplit with ⟨rest, rfl, hrest⟩ | ⟨rest, hfirst, hrest⟩
    · have hlater : e ∈ events.map Event.probe := by
        rw [hrest]
        simp [he]
      obtain ⟨e', -, rfl⟩ := List.mem_map.mp hlater
      cases hprobe
    · cases rest with
      | nil =>
          have hlater : e ∈ events.map Event.probe := by
            rw [← List.nil_append (events.map _), ← hrest]
            simp [he]
          obtain ⟨e', -, rfl⟩ := List.mem_map.mp hlater
          cases hprobe
      | cons e' rest =>
          obtain ⟨rfl, -⟩ := List.cons.inj hrest
          apply hfront
          rw [hfirst]
          simp
  · rintro ⟨p, hp⟩
    obtain ⟨earlier, later, rfl⟩ := List.append_of_mem hp
    obtain ⟨e, he⟩ := List.exists_mem_of_ne_nil _ hne
    refine ⟨earlier, p, later ++ gap ++ events.map .probe, e, by simp, by simp [he], ?_⟩
    have hplain := hgap e he
    cases e <;> first | rfl | cases hplain

theorem told_does {past gap own : List Event} (hgap : ∀ e ∈ gap, Plain e) (hne : gap ≠ [])
    {s : Step} (hown : s.Does own) :
    Told (past ++ gap) own ↔
      (Muted past → ¬ Reports s) ∧ (Probed past → ¬ ReportsMuted s) := by
  have hmuted : Muted (past ++ gap) ↔ Muted past := by
    rw [muted_append]
    exact or_iff_left fun h => not_probed_plain hgap (probed_of_muted h)
  cases hown with
  | unprepared message =>
      constructor
      · intro h
        refine ⟨fun hpast _ => ?_, fun _ hmuted => hmuted⟩
        apply h [] (.error message) [] rfl trivial
        · exact (probeEnded_iff hgap hne []).mpr (probed_of_muted hpast)
        · rwa [List.append_nil, hmuted]
      · rintro ⟨hpast, -⟩ before e after hown - -
        have hbefore : before = [] := by
          cases before with
          | nil => rfl
          | cons _ _ => simp at hown
        rw [hbefore, List.append_nil, hmuted]
        exact fun h => hpast h trivial
  | probe p =>
      constructor
      · intro h
        have htold {before after : List DeviceId.Event} {e : DeviceId.Event}
            (hevents : p.trace.events = before ++ e :: after) (hprinted : printed e ≠ none)
            (hprobed : Probed past) : ¬ Muted (past ++ gap ++ before.map .probe) := by
          apply h (before.map .probe) (.probe e) (after.map .probe) _ hprinted
          · exact (probeEnded_iff hgap hne before).mpr hprobed
          · rw [hevents, List.map_append, List.map_cons]
        constructor
        · rintro hpast ⟨e, he, hprinted⟩
          obtain ⟨before, after, hevents⟩ := List.append_of_mem he
          apply htold hevents hprinted (probed_of_muted hpast)
          exact muted_append.mpr (.inl (hmuted.mpr hpast))
        · intro hprobed hreports
          obtain ⟨before, e, after, hevents, hprinted, hbefore⟩ := reportsMuted_iff.mp hreports
          exact htold hevents hprinted hprobed (muted_append.mpr (.inr (muted_probes.mpr hbefore)))
      · rintro ⟨hpast, hprobed⟩ before e after hown hprints hended hboth
        obtain ⟨before, rest, hevents, rfl, hrest⟩ := List.map_eq_append_iff.mp hown
        obtain ⟨e, after, rfl, rfl, rfl⟩ := List.map_eq_cons_iff.mp hrest
        rcases muted_append.mp hboth with hboth | hboth
        · exact hpast (hmuted.mp hboth) ⟨e, by simp [hevents], hprints⟩
        · apply hprobed ((probeEnded_iff hgap hne before).mp hended)
          exact reportsMuted_iff.mpr ⟨before, e, after, hevents, hprints, muted_probes.mp hboth⟩

theorem muted_does {s : Step} {own : List Event} (hown : s.Does own) : Muted own ↔ Falls s := by
  cases hown with
  | unprepared message => exact iff_of_false (fun h => h rfl) fun h => h
  | probe p =>
      rw [muted_probes]
      exact (not_congr getDeviceId_reopened_iff).trans not_not

theorem probed_does {s : Step} {own : List Event} (hown : s.Does own) :
    Probed own ↔ s.call ≠ none := by
  cases hown with
  | unprepared message => exact iff_of_false (by simp [Probed]) fun h => h rfl
  | probe p =>
      refine iff_of_true ?_ (by simp [Step.call])
      obtain ⟨e, he⟩ := List.exists_mem_of_ne_nil _
        (getDeviceId_events p.timeout p.id p.outcome)
      exact ⟨e, List.mem_map_of_mem he⟩

theorem forall_heard {s : Step} {ss : List Step} :
    (∀ s' ∈ ss, Heard s s') ↔
      (Falls s → ∀ s' ∈ ss, ¬ Reports s') ∧ (s.call ≠ none → ∀ s' ∈ ss, ¬ ReportsMuted s') :=
  ⟨fun h => ⟨fun hfalls s' hs' => (h s' hs').1 hfalls, fun hcall s' hs' => (h s' hs').2 hcall⟩,
    fun h s' hs' => ⟨fun hfalls => h.1 hfalls s' hs', fun hcall => h.2 hcall s' hs'⟩⟩

theorem told_iff {ss : List Step} {events : List Event} (h : Spaced ss events)
    (past : List Event) : Told past events ↔
      (Muted past → ∀ s ∈ ss, ¬ Reports s) ∧ (Probed past → ∀ s ∈ ss, ¬ ReportsMuted s) ∧
        ss.Pairwise Heard := by
  induction h generalizing past with
  | done hgap => exact iff_of_true (told_plain hgap past) (by simp)
  | step hgap hne hown _ ih =>
      rename_i s ss gap own rest _
      have hunprobed := not_probed_plain hgap
      have hmuted : Muted (past ++ gap ++ own) ↔ Muted past ∨ Falls s := by
        rw [muted_append, muted_append, muted_does hown,
          or_iff_left fun h => hunprobed (probed_of_muted h)]
      have hprobed : Probed (past ++ gap ++ own) ↔ Probed past ∨ s.call ≠ none := by
        rw [probed_append, probed_append, probed_does hown, or_iff_left hunprobed]
      rw [told_append, told_append, told_does hgap hne hown, ih, hmuted, hprobed, or_imp, or_imp,
        and_iff_right (told_plain hgap past), List.pairwise_cons, forall_heard,
        List.forall_mem_cons, List.forall_mem_cons, imp_and, imp_and]
      constructor
      · rintro ⟨⟨hreports, hown⟩, ⟨hreports', hfalls⟩, ⟨hown', hcall⟩, hrest⟩
        exact ⟨⟨hreports, hreports'⟩, ⟨hown, hown'⟩, ⟨hfalls, hcall⟩, hrest⟩
      · rintro ⟨⟨hreports, hreports'⟩, ⟨hown, hown'⟩, ⟨hfalls, hcall⟩, hrest⟩
        exact ⟨⟨hreports, hown⟩, ⟨hreports', hfalls⟩, ⟨hown', hcall⟩, hrest⟩

theorem seen_reopened {ps : List ProbeCall} :
    (seen ps).filterMap probeReopened = [] ↔ ∀ p ∈ ps, ¬ Replies p.timeout p.outcome 0 := by
  induction ps with
  | nil => simp [seen]
  | cons p ps ih =>
      rw [List.forall_mem_cons, ← ih, seen, List.flatMap_cons, List.filterMap_append,
        List.append_eq_nil_iff]
      exact and_congr_left fun _ => getDeviceId_reopened_iff

variable (backend : Option MdnsBackend) (o : DiscoverOutcome) (c : Call)

theorem returned_iff : ¬ Muted (perform backend o c).events ↔
    ∀ p ∈ probes c o, ¬ Replies p.timeout p.outcome 0 := by
  have hprobes : (perform backend o c).events.filterMap reopened =
      (seen (probes c o)).filterMap probeReopened := by
    rw [← discovery_probes backend o c, List.filterMap_filterMap]
    rfl
  rw [Muted, not_not, hprobes, seen_reopened]

theorem messages_iff : Told [] (perform backend o c).events ↔ (steps c o).Pairwise Heard := by
  by_cases htype : c.type = .vxi11
  · rw [told_iff (discovery_spaced backend o htype)]
    exact ⟨fun h => h.2.2, fun h => ⟨fun h => absurd rfl h, fun ⟨p, hp⟩ => by simp at hp, h⟩⟩
  · rw [steps, if_neg fun h => htype h.1]
    refine iff_of_true ?_ List.Pairwise.nil
    rintro before e after hevents - ⟨earlier, p, later, -, hbefore, -⟩
    have hprobes := discovery_probes backend o c
    rw [probes, if_neg fun h => htype h.1, hevents, ← List.nil_append before, hbefore] at hprobes
    simp [probeEvent, seen] at hprobes

theorem pairwise_heard {c : Call} {o : DiscoverOutcome}
    (h : ∀ p ∈ probes c o, ¬ Replies p.timeout p.outcome 0) : (steps c o).Pairwise Heard := by
  have hstep : ∀ s ∈ steps c o, ¬ Falls s ∧ ¬ ReportsMuted s := by
    intro s hs
    cases s with
    | unprepared => exact ⟨fun h => h, fun h => h⟩
    | probe p =>
        have hreplies := h p (steps_calls c o ▸ List.mem_filterMap.mpr ⟨_, hs, rfl⟩)
        exact ⟨hreplies, fun hmuted => hreplies hmuted.1⟩
  apply List.Pairwise.imp_of_mem (R := fun _ _ => True) ?_ (List.pairwise_of_forall fun _ _ => trivial)
  intro s s' hs hs' _
  exact ⟨fun hfalls => absurd hfalls (hstep s hs).1, fun _ => (hstep s' hs').2⟩

/-- A discovery that returns leaves stderr as it was at entry if and only if no
probe of it comes to the fallback. In one that does not return the messages go
there if and only if no step reports an error behind a probe that falls back,
and no probe but the first in its fallback. -/
theorem stderr_restored_iff :
    (∀ entry, Restored backend o c entry) ↔
      (Returns backend o c → ∀ p ∈ probes c o, ¬ Replies p.timeout p.outcome 0) ∧
        (¬ Returns backend o c → (steps c o).Pairwise Heard) := by
  have hsplit : (∀ entry, Restored backend o c entry) ↔
      (Returns backend o c → ¬ Muted (perform backend o c).events) ∧
        Told [] (perform backend o c).events := by
    constructor
    · intro h
      refine ⟨fun hreturns => ?_, fun before e after hevents hprints hended => ?_⟩
      · exact destination_iff.mp fun entry => (h entry).returned hreturns
      · exact destination_iff.mp fun entry => (h entry).messages before e after hevents hprints hended
    · rintro ⟨hreturned, hmessages⟩ entry
      refine ⟨fun hreturns => ?_, fun before e after hevents hprints hended => ?_⟩
      · exact destination_iff.mpr (hreturned hreturns) entry
      · exact destination_iff.mpr (hmessages before e after hevents hprints hended) entry
  rw [hsplit, returned_iff, messages_iff]
  by_cases hreturns : Returns backend o c
  · simp only [hreturns, forall_const, not_true_eq_false, false_implies, and_true]
    exact and_iff_left_of_imp pairwise_heard
  · simp only [hreturns, false_implies, not_false_eq_true, forall_const]

/-- The host's probe fails, and leaves stderr on the terminal. -/
theorem stderr_redirected :
    destination "errors.log"
        (perform none (answering [dropping]) (.discover ⟨true, true, true⟩ 1000 .vxi11)).events =
        "/dev/tty" ∧
      ¬ ∀ entry, Restored none (answering [dropping]) (.discover ⟨true, true, true⟩ 1000 .vxi11)
        entry := by
  have hend : destination "errors.log"
      (perform none (answering [dropping]) (.discover ⟨true, true, true⟩ 1000 .vxi11)).events =
      "/dev/tty" := rfl
  refine ⟨hend, fun h => ?_⟩
  have hreturned := (h "errors.log").returned ⟨_, rfl⟩
  rw [hend] at hreturned
  revert hreturned
  decide

end LibLxi.ErrorStream

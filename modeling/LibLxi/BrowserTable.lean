import LibLxi.Avahi
import LibLxi.Machine

namespace LibLxi.BrowserTable

open Avahi Machine

def index : Event → Option Int
  | .browserNew index _ _ => some index
  | .browserFree index _ => some index
  | _ => none

def freed (events : List Event) (browser : Browser) : Nat :=
  events.countP fun e => match e with
    | .browserFree _ b => b = some browser
    | _ => false

/-- One avahi_discover on a sound table leaves it sound. -/
structure Sound (t : Table) (call : Int × Outcome) : Prop where
  entry : t.count = 0
  exit : (avahiDiscover t call.1 call.2).2.1.count = 0
  indices : ∀ e ∈ (avahiDiscover t call.1 call.2).2.2, ∀ i ∈ index e, 0 ≤ i ∧ i ≤ 9
  freedOnce : ∀ i service b, .browserNew i service (some b) ∈ (avahiDiscover t call.1 call.2).2.2 →
    freed (avahiDiscover t call.1 call.2).2.2 b = 1
  notNull : ∀ i, .browserFree i none ∉ (avahiDiscover t call.1 call.2).2.2

def step (t : Table) (call : Int × Outcome) : Option Table :=
  some (avahiDiscover t call.1 call.2).2.1

def ReachesBrowsers (o : Outcome) : Prop := o.pollNew = true ∧ o.pollGet = true ∧ o.clientNew = true

theorem freeLoop_count (sb : Int → Option Browser) {count : Int} (h : 0 ≤ count) :
    (freeLoop sb count).1 = -1 := by
  fun_induction freeLoop sb count with
  | case1 count hpos count' freed hrest ih =>
      rw [hrest] at ih
      exact ih hpos
  | case2 count hneg =>
      dsimp only
      omega

theorem createBrowsers_count (t : Table) (o : Outcome) (services : List String) :
    t.count ≤ (createBrowsers t o services).2.1.count := by
  induction services generalizing t with
  | nil => exact Int.le_refl _
  | cons service services ih =>
      have hone : (createServiceBrowser t service o).2.1.count = t.count + 1 := by
        rw [createServiceBrowser]
        split <;> rfl
      have hrest := ih (createServiceBrowser t service o).2.1
      simp only [createBrowsers]
      split
      · exact hone ▸ Int.le_add_one (Int.le_refl _)
      · exact Int.le_trans (hone ▸ Int.le_add_one (Int.le_refl _)) hrest

/-- Whatever the browsers' outcomes are, a call that reaches them leaves count
at -1: the loop behind fail_sb decrements it once more than it frees. -/
theorem avahiDiscover_count {t : Table} (ht : t.count = 0) (timeout : Int) {o : Outcome}
    (h : ReachesBrowsers o) : (avahiDiscover t timeout o).2.1.count = -1 := by
  have hcount := createBrowsers_count t o services
  rw [avahiDiscover, if_neg (by simp [h.1]), if_neg (by simp [h.2.1]), if_neg (by simp [h.2.2])]
  exact freeLoop_count _ (Int.le_trans (Int.le_of_eq ht.symm) hcount)

theorem createBrowsers_first (t : Table) (o : Outcome) (service : String) (rest : List String) :
    ∃ browser, .browserNew t.count service browser ∈ (createBrowsers t o (service :: rest)).2.2 := by
  obtain ⟨browser, hmem⟩ : ∃ browser, .browserNew t.count service browser ∈
      (createServiceBrowser t service o).2.2 := by
    rw [createServiceBrowser]
    split <;> exact ⟨_, List.mem_cons_self⟩
  refine ⟨browser, ?_⟩
  simp only [createBrowsers]
  split
  · exact hmem
  · exact List.mem_append_left _ hmem

theorem avahiDiscover_first (t : Table) (timeout : Int) {o : Outcome} (h : ReachesBrowsers o) :
    ∃ browser, .browserNew t.count "_lxi._tcp" browser ∈ (avahiDiscover t timeout o).2.2 := by
  obtain ⟨browser, hmem⟩ := createBrowsers_first t o "_lxi._tcp"
    ["_vxi-11._tcp", "_scpi-raw._tcp", "_scpi-telnet._tcp", "_hislip._tcp"]
  refine ⟨browser, ?_⟩
  rw [avahiDiscover, if_neg (by simp [h.1]), if_neg (by simp [h.2.1]), if_neg (by simp [h.2.2])]
  exact List.mem_append_left _ (List.mem_append_left _ (List.mem_append_left _ hmem))

theorem avahiDiscover_fails (t : Table) (timeout : Int) {o : Outcome} (h : ¬ ReachesBrowsers o) :
    (avahiDiscover t timeout o).2.1 = t ∧
      ∀ e ∈ (avahiDiscover t timeout o).2.2, e = .pollFree ∨ ∃ message, e = .error message := by
  rw [avahiDiscover]
  by_cases hpoll : o.pollNew = false
  · simp [hpoll]
  · by_cases hget : o.pollGet = false
    · simp [hpoll, hget]
    · by_cases hclient : o.clientNew = false
      · simp [hpoll, hget, hclient]
      · simp only [Bool.not_eq_false] at hpoll hget hclient
        exact absurd ⟨hpoll, hget, hclient⟩ h

theorem sound_of_fails {t : Table} (ht : t.count = 0) {call : Int × Outcome}
    (h : ¬ ReachesBrowsers call.2) : Sound t call := by
  obtain ⟨hsame, hevents⟩ := avahiDiscover_fails t call.1 h
  exact {
    entry := ht
    exit := hsame.symm ▸ ht
    indices := by
      intro e he i hi
      rcases hevents e he with rfl | ⟨message, rfl⟩ <;> cases hi
    freedOnce := by
      intro i service b hb
      rcases hevents _ hb with h | ⟨message, h⟩ <;> cases h
    notNull := by
      intro i hi
      rcases hevents _ hi with h | ⟨message, h⟩ <;> cases h }

/-- Repeated discovery keeps the table of browsers sound if and only if no call
ever gets as far as creating browsers. -/
theorem discovery_sound_iff (calls : List (Int × Outcome)) :
    Along step Sound start calls ↔ ∀ call ∈ calls, ¬ ReachesBrowsers call.2 := by
  -- a sound call leaves count at 0 again, the rest of the table does not matter
  have hrun (t : Table) (ht : t.count = 0) :
      Along step Sound t calls ↔ ∀ call ∈ calls, ¬ ReachesBrowsers call.2 := by
    induction calls generalizing t with
    | nil => simp
    | cons call calls ih =>
        rw [along_cons, List.forall_mem_cons]
        constructor
        · rintro ⟨hcall, hrest⟩
          have hfails : ¬ ReachesBrowsers call.2 := fun hreaches => by
            have hexit := hcall.exit
            rw [avahiDiscover_count ht call.1 hreaches] at hexit
            cases hexit
          exact ⟨hfails, (ih _ hcall.exit).mp (hrest _ rfl)⟩
        · rintro ⟨hfails, hrest⟩
          have hcall := sound_of_fails ht hfails
          refine ⟨hcall, fun t' ht' => ?_⟩
          cases ht'
          exact (ih _ hcall.exit).mpr hrest
  exact hrun start rfl

def everything : Outcome := ⟨true, true, true, fun _ => true⟩

theorem discovery_unsound :
    (∃ browser, .browserNew (-1) "_lxi._tcp" browser ∈
        (avahiDiscover (avahiDiscover start 1000 everything).2.1 1000 everything).2.2) ∧
      ¬ Along step Sound start [(1000, everything), (1000, everything)] := by
  have hcount : (avahiDiscover start 1000 everything).2.1.count = -1 :=
    avahiDiscover_count rfl _ ⟨rfl, rfl, rfl⟩
  constructor
  · rw [← hcount]
    exact avahiDiscover_first _ _ ⟨rfl, rfl, rfl⟩
  · rintro ⟨h, -⟩
    have hexit := h.exit
    rw [hcount] at hexit
    cases hexit

end LibLxi.BrowserTable

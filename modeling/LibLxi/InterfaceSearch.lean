import LibLxi.Discover

namespace LibLxi.InterfaceSearch

open Tcp (afInet)
open Discover Info Tracing

def callback : Event → Option Callback
  | .callback c => some c
  | _ => none

def callbacks {α : Type} (t : Search α) : List Callback := t.events.filterMap callback

def restrict (ifname : String) (o : DiscoverOutcome) : DiscoverOutcome :=
  { o with entries := o.entries.filter fun e => e.name = some ifname }

/-- The search of one interface calls back like the full search of that
interface alone, and none of the two goes through a missing broadcast address. -/
structure Agrees (info : LxiInfo) (ifname : String) (timeout : Int) (o : DiscoverOutcome) :
    Prop where
  calls : callbacks (vxi11DiscoverIf info ifname timeout o) =
    callbacks (vxi11Discover info timeout (restrict ifname o))
  discoverIf : (vxi11DiscoverIf info ifname timeout o).result ≠ .error .nullBroadaddr
  discover : (vxi11Discover info timeout (restrict ifname o)).result ≠ .error .nullBroadaddr

def Selected (ifname : String) (e : Ifaddrs) : Prop := e.addr = some afInet ∧ e.name = some ifname

instance instDecidableSelected (ifname : String) (e : Ifaddrs) : Decidable (Selected ifname e) :=
  inferInstanceAs (Decidable (_ ∧ _))

def Prepared (e : Ifaddrs) : Prop :=
  e.search.socket ≠ -1 ∧ e.search.broadcastOption ≠ -1 ∧ e.search.timeoutOption ≠ -1

/-- An entry without a broadcast address, with something to use one for. -/
def Dangling (info : LxiInfo) (e : Ifaddrs) : Prop :=
  e.broadaddr = none ∧ (info.broadcast ∨ Prepared e)

/-- The entries up to the first one whose search does not return. -/
def reached (info : LxiInfo) (timeout : Int) : List Ifaddrs → List Ifaddrs
  | [] => []
  | e :: es => e :: if (search info timeout e).result.isOk then reached info timeout es else []

def Clear (info : LxiInfo) (ifname : String) (timeout : Int) (entries : List Ifaddrs) : Prop :=
  ∀ e ∈ reached info timeout (entries.filter fun e => Selected ifname e), ¬ Dangling info e

variable {info : LxiInfo} {ifname : String} {timeout : Int}

def Setup : Event → Prop
  | .setBroadcast _ | .setTimeout _ _ | .error _ | .shutdown _ => True
  | _ => False

theorem filterMap_setup {β : Type} {f : Event → Option β} (hf : ∀ x, Setup x → f x = none)
    {setup : List Event} (h : ∀ x ∈ setup, Setup x) : setup.filterMap f = [] :=
  List.filterMap_eq_nil_iff.mpr fun x hx => hf x (h x hx)

theorem search_unprepared (info : LxiInfo) (timeout : Int) {e : Ifaddrs} (h : ¬ Prepared e) :
    ∃ setup : List Event, (∀ x ∈ setup, Setup x) ∧ search info timeout e =
      ⟨.socket e.search.socket :: (setup ++ [.searched (-1)]), .ok (-1)⟩ := by
  rw [search, discoverDevices]
  split_ifs
  · exact ⟨[_], by simp [Setup], rfl⟩
  · exact ⟨[_, _, _], by simp [Setup], rfl⟩
  · exact ⟨[_, _, _, _], by simp [Setup], rfl⟩
  · exact absurd ⟨‹_›, ‹_›, ‹_›⟩ h

theorem search_uncalled {e : Ifaddrs} (h : ¬ Prepared e) :
    observe callback (search info timeout e) = pure (-1) := by
  obtain ⟨setup, hsetup, hsearch⟩ := search_unprepared info timeout h
  have hquiet : setup.filterMap callback = [] :=
    filterMap_setup (fun x hx => by cases x <;> first | rfl | cases hx) hsetup
  rw [hsearch, observe]
  simp only [List.filterMap_cons, List.filterMap_append, hquiet, callback]
  rfl

theorem search_dangles {e : Ifaddrs} (h : Prepared e) (hb : e.broadaddr = none) :
    (search info timeout e).result = .error .nullBroadaddr := by
  rw [search, discoverDevices, if_neg h.1, if_neg h.2.1, if_neg h.2.2, hb]
  rfl

theorem notify_result {set : Bool} {c : Callback} : (notify set c).result = .ok () := by
  cases set <;> rfl

theorem receiveLoop_error {fd : Int} {id : Memory.Cells UInt8} {ds : List Datagram} {r : Stop}
    (h : (receiveLoop info timeout fd id ds).result = .error r) : ∃ r', r = .probe r' := by
  induction ds generalizing id with
  | nil => cases h
  | cons d ds ih =>
      rw [receiveLoop, emit_bind] at h
      split_ifs at h with hcount
      · rcases result_bind_error.mp h with h | ⟨⟨status, id'⟩, -, h⟩
        · exact result_within_error h
        · rcases result_bind_error.mp h with h | ⟨-, -, h⟩
          · rw [notify_result] at h
            cases h
          · exact ih h
      · cases h

theorem count_pos {d : Datagram} : d.count > 0 ↔ 0 < d.size := by
  rw [Datagram.count, DeviceId.idLengthMax]
  omega

section Turn

variable {fd : Int} {id : Memory.Cells UInt8} {d : Datagram} {ds : List Datagram}

theorem receiveLoop_unreturned (hcount : d.count > 0) {r : DeviceId.Stop}
    (h : (DeviceId.getDeviceId timeout id d.probe).result = .error r) :
    (receiveLoop info timeout fd id (d :: ds)).events =
      .recvfrom fd d.count :: (DeviceId.getDeviceId timeout id d.probe).events.map .probe := by
  rw [receiveLoop, if_pos hcount, emit_bind]
  rw [bind_error (r := .probe r) (by rw [within, h]; rfl)]
  rfl

theorem receiveLoop_returned (hcount : d.count > 0) {found : Int × Memory.Cells UInt8}
    (h : (DeviceId.getDeviceId timeout id d.probe).result = .ok found) :
    (receiveLoop info timeout fd id (d :: ds)).events =
      .recvfrom fd d.count :: ((DeviceId.getDeviceId timeout id d.probe).events.map .probe ++
        ((notify (found.1 == 0 && info.device) (.device (inetNtoa d.sender) found.2)).events ++
          (receiveLoop info timeout fd found.2 ds).events)) := by
  rw [receiveLoop, if_pos hcount, emit_bind]
  rw [bind_ok (a := found) (by rw [within, h]; rfl)]
  simp only [bind_ok notify_result]
  rfl

end Turn

theorem search_prepared {e : Ifaddrs} (h : Prepared e) {address : UInt32}
    (hb : e.broadaddr = some address) : search info timeout e = (do
      let fd := e.search.socket
      emit (.socket fd)
      emit (.setBroadcast fd)
      emit (.setTimeout fd (Platform.timevalOf timeout))
      emit (.bind fd)
      emit (.sendto fd rpcGetportMsg address portRpc)
      receiveLoop info timeout fd e.search.id e.search.datagrams
      emit (.searched 0)
      pure 0) := by
  rw [search, discoverDevices, if_neg h.1, if_neg h.2.1, if_neg h.2.2, hb]
  simp only [need_some, bind_assoc, pure_bind]

theorem search_error {e : Ifaddrs} {address : UInt32} (hb : e.broadaddr = some address)
    {r : Stop} (h : (search info timeout e).result = .error r) : ∃ r', r = .probe r' := by
  by_cases hp : Prepared e
  · simp only [search_prepared hp hb, emit_bind_error] at h
    rcases result_bind_error.mp h with h | ⟨-, -, h⟩
    · exact receiveLoop_error h
    · cases h
  · have hresult : (search info timeout e).result = .ok (-1) :=
      congrArg Trace.result (search_uncalled hp)
    cases hresult.symm.trans h

theorem announce_result {address : UInt32} {name : Option String} :
    (announce info address name).result = .ok () := by
  cases name with
  | none => rfl
  | some name => rw [announce, notify_result]

theorem visitIf_selected {e : Ifaddrs} (h : Selected ifname e) (status : Int) :
    visitIf info ifname timeout status e =
      announceIf info e.broadaddr ifname >>= fun _ => search info timeout e := by
  rw [visitIf, if_pos h.1, h.2]
  exact if_pos rfl

theorem visitIf_other {e : Ifaddrs} (h : ¬ Selected ifname e)
    (hname : e.addr = some afInet → e.name ≠ none) (status : Int) :
    visitIf info ifname timeout status e = pure status := by
  rw [visitIf]
  by_cases haddr : e.addr = some afInet
  · obtain ⟨name, hname⟩ := Option.ne_none_iff_exists'.mp (hname haddr)
    rw [if_pos haddr, hname]
    apply if_neg
    rintro rfl
    exact h ⟨haddr, hname⟩
  · exact if_neg haddr

theorem visit_selected {e : Ifaddrs} {address : UInt32} (h : Selected ifname e)
    (hb : e.broadaddr = some address) : visit info timeout e = (do
      notify info.broadcast (.broadcast (inetNtoa address) ifname)
      let _ ← search info timeout e
      pure ()) := by
  rw [visit, hb]
  simp only [h.1, h.2, if_true]
  rfl

theorem visit_missing {e : Ifaddrs} (hb : e.broadaddr = none) :
    visit info timeout e = pure () := by
  rw [visit, hb]

theorem visit_other {e : Ifaddrs} (haddr : e.addr ≠ some afInet) :
    visit info timeout e = pure () := by
  rw [visit]
  cases hb : e.broadaddr with
  | none => rfl
  | some address => exact if_neg haddr

theorem turn_agrees {e : Ifaddrs} (h : Selected ifname e) (hd : ¬ Dangling info e) (status : Int) :
    (observe callback (visitIf info ifname timeout status e) >>= fun _ => pure ()) =
      observe callback (visit info timeout e) := by
  rw [visitIf_selected h]
  cases hb : e.broadaddr with
  | none =>
      have hbroadcast : ¬ info.broadcast := fun hset => hd ⟨hb, .inl hset⟩
      have hprepared : ¬ Prepared e := fun hset => hd ⟨hb, .inr hset⟩
      rw [visit_missing hb, announceIf, if_neg hbroadcast]
      simp only [observe_pure, pure_bind, search_uncalled hprepared]
  | some address =>
      have hannounce : announceIf info (some address) ifname =
          notify info.broadcast (.broadcast (inetNtoa address) ifname) := by
        rw [announceIf, notify]
        rfl
      rw [visit_selected h hb, hannounce]
      simp only [observe_bind, bind_assoc, observe_pure]

theorem clear_nil : Clear info ifname timeout [] := fun _ he => nomatch he

theorem clear_cons {e : Ifaddrs} {es : List Ifaddrs} (h : Selected ifname e) :
    Clear info ifname timeout (e :: es) ↔
      ¬ Dangling info e ∧ ((search info timeout e).result.isOk → Clear info ifname timeout es) := by
  rw [Clear, List.filter_cons_of_pos (by simpa using h), reached]
  cases (search info timeout e).result.isOk with
  | false => simp
  | true => simp [Clear]

theorem clear_cons_other {e : Ifaddrs} {es : List Ifaddrs} (h : ¬ Selected ifname e) :
    Clear info ifname timeout (e :: es) ↔ Clear info ifname timeout es := by
  rw [Clear, List.filter_cons_of_neg (by simpa using h), Clear]

theorem search_returns {e : Ifaddrs} (h : Selected ifname e) {status s : Int}
    (hv : (visitIf info ifname timeout status e).result = .ok s) :
    (search info timeout e).result.isOk := by
  rw [visitIf_selected h] at hv
  obtain ⟨-, -, hsearch⟩ := result_bind_ok.mp hv
  rw [hsearch]
  rfl

theorem loop_agrees {entries : List Ifaddrs} (hnames : ∀ e ∈ entries, e.name ≠ none)
    (hclear : Clear info ifname timeout entries) (status : Int) :
    (observe callback (entries.foldlM (visitIf info ifname timeout) status) >>= fun _ => pure ()) =
      observe callback
        ((entries.filter fun e => e.name = some ifname).forM (visit info timeout)) := by
  induction entries generalizing status with
  | nil => rfl
  | cons e es ih =>
      rw [List.forall_mem_cons] at hnames
      rw [List.foldlM_cons]
      by_cases hsel : Selected ifname e
      · obtain ⟨hd, hrest⟩ := (clear_cons hsel).mp hclear
        rw [List.filter_cons_of_pos (by simp [hsel.2]), List.forM, observe_bind, observe_bind,
          ← turn_agrees hsel hd status, bind_assoc, bind_assoc]
        apply bind_congr_ok
        intro s hs
        exact ih hnames.2 (hrest (search_returns hsel hs)) s
      · have hother : observe callback (visitIf info ifname timeout status e) = pure status := by
          rw [visitIf_other hsel fun _ => hnames.1]
          rfl
        rw [observe_bind, hother, pure_bind, ih hnames.2 ((clear_cons_other hsel).mp hclear)]
        by_cases hname : e.name = some ifname
        · have haddr : e.addr ≠ some afInet := fun haddr => hsel ⟨haddr, hname⟩
          rw [List.filter_cons_of_pos (by simp [hname]), List.forM, visit_other haddr, pure_bind]
        · rw [List.filter_cons_of_neg (by simp [hname])]

theorem visitIf_dangles {e : Ifaddrs} (h : Selected ifname e) (hd : Dangling info e) (status : Int) :
    (visitIf info ifname timeout status e).result = .error .nullBroadaddr := by
  rw [visitIf_selected h, announceIf, hd.1]
  by_cases hset : info.broadcast
  · rw [if_pos hset]
    rfl
  · rw [if_neg hset, pure_bind]
    exact search_dangles (hd.2.resolve_left hset) hd.1

theorem visitIf_returns {e : Ifaddrs} (h : Selected ifname e) (hd : ¬ Dangling info e)
    (hs : (search info timeout e).result.isOk) (status : Int) :
    ∃ s, (visitIf info ifname timeout status e).result = .ok s := by
  cases hsearch : (search info timeout e).result with
  | error r =>
      rw [hsearch] at hs
      cases hs
  | ok s =>
      refine ⟨s, ?_⟩
      rw [visitIf_selected h]
      refine result_bind_ok.mpr ⟨(), ?_, hsearch⟩
      rw [announceIf]
      split_ifs with hset
      · cases hb : e.broadaddr with
        | none => exact absurd ⟨hb, .inl hset⟩ hd
        | some address => rfl
      · rfl

theorem loop_dangles {entries : List Ifaddrs} (hnames : ∀ e ∈ entries, e.name ≠ none)
    (hclear : ¬ Clear info ifname timeout entries) (status : Int) :
    (entries.foldlM (visitIf info ifname timeout) status).result = .error .nullBroadaddr := by
  induction entries generalizing status with
  | nil => exact absurd clear_nil hclear
  | cons e es ih =>
      rw [List.forall_mem_cons] at hnames
      rw [List.foldlM_cons, result_bind_error]
      by_cases hsel : Selected ifname e
      · rw [clear_cons hsel] at hclear
        by_cases hd : Dangling info e
        · exact .inl (visitIf_dangles hsel hd status)
        · obtain ⟨hs, hrest⟩ :
              (search info timeout e).result.isOk ∧ ¬ Clear info ifname timeout es := by
            by_contra hno
            exact hclear ⟨hd, fun hs => by_contra fun hrest => hno ⟨hs, hrest⟩⟩
          obtain ⟨s, hv⟩ := visitIf_returns hsel hd hs status
          exact .inr ⟨s, hv, ih hnames.2 hrest s⟩
      · rw [clear_cons_other hsel] at hclear
        rw [visitIf_other hsel fun _ => hnames.1]
        exact .inr ⟨status, rfl, ih hnames.2 hclear status⟩

theorem visit_error {e : Ifaddrs} {r : Stop} (h : (visit info timeout e).result = .error r) :
    ∃ r', r = .probe r' := by
  rw [visit] at h
  cases hb : e.broadaddr with
  | none =>
      rw [hb] at h
      cases h
  | some address =>
      rw [hb] at h
      dsimp only at h
      split_ifs at h with haddr
      · rcases result_bind_error.mp h with h | ⟨-, -, h⟩
        · rw [announce_result] at h
          cases h
        · rcases result_bind_error.mp h with h | ⟨-, -, h⟩
          · exact search_error hb h
          · cases h
      · cases h

theorem overInterfaces_callbacks {α : Type} {o : DiscoverOutcome} {a : α}
    {loop : List Ifaddrs → Search α} : callbacks (overInterfaces o a loop) =
      if o.getifaddrs = 0 then callbacks (loop o.entries) else [] := by
  rw [overInterfaces, emit_bind]
  split_ifs
  · exact filterMap_bind fun _ => rfl
  · rfl

theorem overInterfaces_error {α : Type} {o : DiscoverOutcome} {a : α}
    {loop : List Ifaddrs → Search α} {r : Stop} : (overInterfaces o a loop).result = .error r ↔
      o.getifaddrs = 0 ∧ (loop o.entries).result = .error r := by
  rw [overInterfaces, emit_bind_error]
  split_ifs with hget
  · rw [result_bind_error]
    constructor
    · rintro (h | ⟨-, -, ⟨⟩⟩)
      exact ⟨hget, h⟩
    · exact fun h => .inl h.2
  · constructor
    · intro h
      cases h
    · exact fun h => absurd h.1 hget

theorem discover_error {o : DiscoverOutcome} {r : Stop}
    (h : (vxi11Discover info timeout o).result = .error r) : ∃ r', r = .probe r' := by
  rcases result_bind_error.mp h with h | ⟨-, -, h⟩
  · obtain ⟨e, -, he⟩ := forM_error (overInterfaces_error.mp h).2
    exact visit_error he
  · cases h

theorem discover_callbacks {o : DiscoverOutcome} : callbacks (vxi11Discover info timeout o) =
    if o.getifaddrs = 0 then callbacks (o.entries.forM (visit info timeout)) else [] := by
  have hloop : callbacks (vxi11Discover info timeout o) =
      callbacks (overInterfaces o () fun entries => entries.forM (visit info timeout)) :=
    filterMap_bind fun _ => rfl
  rw [hloop, overInterfaces_callbacks]

/-- The search of one interface agrees with the full search of it if and only
if it gets to no entry of that name without a broadcast address while info has
a broadcast callback or the socket for the search is ready to send. -/
theorem discoverIf_agrees_iff (info : LxiInfo) (ifname : String) (timeout : Int)
    {o : DiscoverOutcome} (hnames : ∀ e ∈ o.entries, e.name ≠ none) :
    Agrees info ifname timeout o ↔
      (o.getifaddrs = 0 → Clear info ifname timeout o.entries) := by
  constructor
  · intro h hget
    by_contra hclear
    exact h.discoverIf (overInterfaces_error.mpr ⟨hget, loop_dangles hnames hclear 0⟩)
  · intro h
    refine ⟨?_, ?_, ?_⟩
    · rw [discover_callbacks, vxi11DiscoverIf, overInterfaces_callbacks]
      change _ = if o.getifaddrs = 0 then _ else _
      split_ifs with hget
      · have hloop := congrArg Trace.events (loop_agrees hnames (h hget) 0)
        rw [events_bind_pure] at hloop
        exact hloop
      · rfl
    · intro herror
      obtain ⟨hget, herror⟩ := overInterfaces_error.mp herror
      have hloop := congrArg Trace.result (loop_agrees hnames (h hget) 0)
      have hstop : (observe callback (o.entries.foldlM (visitIf info ifname timeout) 0)).result =
          .error .nullBroadaddr := herror
      rw [bind_error hstop] at hloop
      have hvisits : ((restrict ifname o).entries.forM (visit info timeout)).result =
          .error .nullBroadaddr := hloop.symm
      obtain ⟨e, -, he⟩ := forM_error hvisits
      obtain ⟨r, hr⟩ := visit_error he
      cases hr
    · intro herror
      obtain ⟨r, hr⟩ := discover_error herror
      cases hr

def unanswered : SearchOutcome := ⟨3, 0, 0, fun _ => 0, []⟩

def ethernet : DiscoverOutcome :=
  ⟨0, [⟨some "eth0", some afInet, some 0xff01a8c0, unanswered⟩], 0⟩

def pointToPoint : DiscoverOutcome := ⟨0, [⟨some "ppp0", some afInet, none, unanswered⟩], 0⟩

theorem discoverIf_agrees_ethernet : Agrees ⟨true, true, false⟩ "eth0" 1000 ethernet := by
  refine (discoverIf_agrees_iff _ _ _ ?_).mpr ?_
  · simp [ethernet]
  · intro _
    refine (clear_cons ⟨rfl, rfl⟩).mpr ⟨?_, fun _ => clear_nil⟩
    rintro ⟨hb, -⟩
    cases hb

theorem discoverIf_dangles :
    (∀ e ∈ pointToPoint.entries, e.name ≠ none) ∧
      ¬ Agrees ⟨true, true, false⟩ "ppp0" 1000 pointToPoint := by
  have hnames : ∀ e ∈ pointToPoint.entries, e.name ≠ none := by simp [pointToPoint]
  refine ⟨hnames, fun h => h.discoverIf (overInterfaces_error.mpr ⟨rfl, ?_⟩)⟩
  apply loop_dangles hnames
  exact fun hclear => ((clear_cons ⟨rfl, rfl⟩).mp hclear).1 ⟨rfl, .inl rfl⟩

end LibLxi.InterfaceSearch

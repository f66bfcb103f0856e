import LibLxi.DiscoveryProbes
import LibLxi.RemoteProbe

namespace LibLxi.RemoteSearch

open DeviceId (ProbeOutcome getDeviceId)
open DiscoverCalls (Call perform perform_vxi11)
open Lxi (lxiOk)
open RemoteLibrary (Instrument Setup single singleLinks singleLinks_free singleLinks_taken
  singleReads single_instrument)
open RemoteProbe (Probed Tells found hear joined meet meet_hear name quietProbe respondEcho_tells
  text)
open RemoteSession (Reaches Waiting clientOf clientOf_reaches respondEcho)
open Rpc (Clnt)
open Tcp (afInet)
open Vxi11Service (Handlers)
open Discover Info InterfaceSearch Memory Tracing

variable {σ : Type}

/-- A datagram that arrives at a search, and what the probe of its sender depends on besides
the instrument there. -/
structure Arrival where
  size : Nat
  sender : UInt32
  setup : Setup
  probe : ProbeOutcome

/-- An interface and what arrives at a search on it, in place of the datagrams of the entry. -/
structure Interface where
  entry : Ifaddrs
  arrivals : List Arrival

def Interface.hearing (i : Interface) (datagrams : List Datagram) : Ifaddrs :=
  { i.entry with search := { i.entry.search with datagrams } }

def Searches (c : Call) (i : Interface) : Prop := c.Selects i.entry ∧ Prepared i.entry

instance instDecidableSearches (c : Call) (i : Interface) : Decidable (Searches c i) :=
  inferInstanceAs (Decidable (_ ∧ _))

section Effects

variable (clnt : UInt32 → Clnt σ) (fuel : Nat)

/-- The datagrams of a do loop, each with what its probe meets at the sender, and the network
behind them. -/
def datagrams (timeout : Int) (net : UInt32 → σ) : List Arrival → (UInt32 → σ) × List Datagram
  | [] => (net, [])
  | a :: as =>
      if 0 < a.size then
        let (s, met) := meet (clnt a.sender) fuel timeout a.setup a.probe (net a.sender)
        let (net, ds) := datagrams timeout (Function.update net a.sender s) as
        (net, ⟨a.size, a.sender, met⟩ :: ds)
      -- an empty one ends the loop
      else (net, [⟨a.size, a.sender, a.probe⟩])

def entries (c : Call) (net : UInt32 → σ) : List Interface → (UInt32 → σ) × List Ifaddrs
  | [] => (net, [])
  | i :: is =>
      let (net, ds) :=
        if Searches c i then datagrams clnt fuel c.timeout net i.arrivals else (net, [])
      let (net, es) := entries c net is
      (net, i.hearing ds :: es)

def discover (backend : Option MdnsBackend) (c : Call) (is : List Interface) (net : UInt32 → σ) :
    (UInt32 → σ) × Search Int :=
  let (net, entries) := entries clnt fuel c net is
  (net, perform backend ⟨0, entries, 0⟩ c)

end Effects

def reported : Event → Option (String × List UInt8)
  | .callback (.device address id) => some (address, text id)
  | _ => none

/-- The servers of a network by their addresses, with a client of each, and what each of
them is to its clients. -/
structure Network (σ : Type) where
  handlers : UInt32 → Handlers σ
  clients : UInt32 → Clnt σ
  links : UInt32 → σ → Set Int32
  waiting : UInt32 → σ → Int32 → Waiting
  reads : UInt32 → σ → Int32 → Nat
  respond : UInt32 → List UInt8 → Waiting → Waiting
  capacity : UInt32 → Nat
  maxRecvSize : UInt32 → Nat
  response : UInt32 → List UInt8

namespace Network

variable (n : Network σ)

/-- An instrument is at the address, and tells its name when it is asked. -/
structure Host (address : UInt32) : Prop where
  instrument : Instrument (n.handlers address) (n.links address) (n.waiting address)
    (n.reads address) (n.respond address) (n.capacity address) (n.maxRecvSize address)
  reaches : Reaches (n.clients address) (n.handlers address)
  tells : Tells (n.respond address) (n.maxRecvSize address) (n.response address)

def ask (count : UInt32 → Nat) (a : Arrival) : Option (UInt32 × List UInt8) × (UInt32 → Nat) :=
  let (seen, links) := hear (name (n.response a.sender)) a.setup (count a.sender)
  (if seen.1 = 0 then some (a.sender, seen.2) else none, Function.update count a.sender links)

def asks : (UInt32 → Nat) → List Arrival → List (Option (UInt32 × List UInt8)) × (UInt32 → Nat) :=
  Machine.total n.ask

/-- No probe comes to an instrument without a link left. -/
def Rooms : (UInt32 → Nat) → List Arrival → Prop :=
  Machine.Meets n.ask fun count a => a.setup.Links → count a.sender < n.capacity a.sender

noncomputable def count (net : UInt32 → σ) (address : UInt32) : Nat :=
  (n.links address (net address)).ncard

/-- What probes leave of a network, with this many links given away at each address. -/
def Left (net net' : UInt32 → σ) (count : UInt32 → Nat) : Prop :=
  ∀ address,
    Probed (n.links address) (n.waiting address) (net address) (net' address) (count address)

end Network

def upToEmpty (as : List Arrival) : List Arrival := as.takeWhile fun a => 0 < a.size

def taken (c : Call) (i : Interface) : List Arrival :=
  if Searches c i then upToEmpty i.arrivals else []

def told (info : LxiInfo) (finds : List (Option (UInt32 × List UInt8))) :
    List (String × List UInt8) :=
  if info.device then finds.filterMap fun find => find.map fun x => (inetNtoa x.1, x.2) else []

section Told

variable {info : LxiInfo}

theorem told_nil : told info [] = [] := by
  rw [told]
  split_ifs <;> rfl

theorem told_append (xs ys : List (Option (UInt32 × List UInt8))) :
    told info (xs ++ ys) = told info xs ++ told info ys := by
  rw [told, told, told]
  split_ifs
  · rw [List.filterMap_append]
  · rfl

theorem notify_told (sender : UInt32) (x : Int × Cells UInt8) :
    observe reported (notify (x.1 == 0 && info.device) (.device (inetNtoa sender) x.2)) =
      ⟨told info [if (found x).1 = 0 then some (sender, (found x).2) else none], .ok ()⟩ := by
  rw [notify, told, found]
  by_cases hstatus : x.1 = 0
  · cases hdevice : info.device <;> simp [hstatus] <;> rfl
  · cases hdevice : info.device <;> simp [hstatus] <;> rfl

end Told

/-- What the loop over the interfaces looks at without a test is there. -/
def Listed (c : Call) (i : Interface) : Prop :=
  match c.ifname with
  | none => True
  | some ifname => (i.entry.addr = some afInet → i.entry.name ≠ none) ∧
      (Selected ifname i.entry → ¬ Dangling c.info i.entry)

section Turn

variable {info : LxiInfo} {timeout : Int} {e : Ifaddrs} {tells : List (String × List UInt8)}

theorem observe_emit {e : Event} (h : reported e = none) :
    observe reported (emit e : Search Unit) = pure () :=
  (quiet_emit h).observe rfl

theorem announce_untold (info : LxiInfo) (address : UInt32) (name : Option String) :
    observe reported (announce info address name) = pure () := by
  cases name with
  | none => rfl
  | some name =>
      rw [announce, notify]
      split_ifs <;> rfl

theorem announceIf_untold {name : String} (h : ¬ (e.broadaddr = none ∧ info.broadcast)) :
    observe reported (announceIf info e.broadaddr name) = pure () := by
  rw [announceIf]
  split_ifs with hset
  · cases hb : e.broadaddr with
    | none => exact absurd ⟨hb, hset⟩ h
    | some address => rfl
  · rfl

theorem search_told (hp : Prepared e) (hb : e.broadaddr ≠ none)
    (hloop : observe reported
      (receiveLoop info timeout e.search.socket e.search.id e.search.datagrams) = ⟨tells, .ok ()⟩) :
    observe reported (search info timeout e) = ⟨tells, .ok 0⟩ := by
  obtain ⟨address, hb⟩ := Option.ne_none_iff_exists'.mp hb
  rw [search_prepared hp hb]
  simp only
  rw [observe_bind, observe_emit rfl, pure_bind, observe_bind, observe_emit rfl, pure_bind,
    observe_bind, observe_emit rfl, pure_bind, observe_bind, observe_emit rfl, pure_bind,
    observe_bind, observe_emit rfl, pure_bind, observe_bind, hloop]
  exact congrArg (Trace.mk · (.ok 0)) (List.append_nil tells)

theorem search_untold (hp : ¬ Prepared e) :
    observe reported (search info timeout e) = pure (-1) := by
  obtain ⟨setup, hsetup, hsearch⟩ := search_unprepared info timeout hp
  have hquiet : setup.filterMap reported = [] :=
    filterMap_setup (fun x hx => by cases x <;> first | rfl | cases hx) hsetup
  rw [hsearch, observe]
  simp only [List.filterMap_cons, List.filterMap_append, hquiet, reported]
  rfl

variable {c : Call} {i : Interface} {ds : List Datagram}

theorem visit_announces (haddr : e.addr = some afInet) {address : UInt32}
    (hb : e.broadaddr = some address) :
    observe reported (visit info timeout e) =
      observe reported (search info timeout e) >>= fun _ => pure () := by
  rw [visit, hb]
  simp only
  rw [if_pos haddr, observe_bind, announce_untold, pure_bind, observe_bind]
  rfl

theorem visitIf_announces {ifname : String} (hsel : Selected ifname e) (hd : ¬ Dangling info e) :
    observe reported (visitIf info ifname timeout 0 e) =
      observe reported (search info timeout e) := by
  have huntold : ¬ (e.broadaddr = none ∧ info.broadcast) := fun h => hd ⟨h.1, .inl h.2⟩
  rw [visitIf_selected hsel, observe_bind, announceIf_untold huntold, pure_bind]

theorem turn_all (hif : c.ifname = none) (e : Ifaddrs) : c.turn e = visit c.info c.timeout e := by
  rw [Call.turn, hif]

theorem turn_one {ifname : String} (hif : c.ifname = some ifname) (e : Ifaddrs) :
    c.turn e = (do
      let _ ← visitIf c.info ifname c.timeout 0 e
      pure ()) := by
  rw [Call.turn, hif]

theorem turn_selected (hlisted : Listed c i) (hsel : c.Selects i.entry) (ds : List Datagram) :
    observe reported (c.turn (i.hearing ds)) =
      observe reported (search c.info c.timeout (i.hearing ds)) >>= fun _ => pure () := by
  cases hif : c.ifname with
  | none =>
      rw [Call.Selects, hif] at hsel
      obtain ⟨address, hb⟩ := Option.ne_none_iff_exists'.mp hsel.2
      rw [turn_all hif]
      exact visit_announces hsel.1 hb
  | some ifname =>
      rw [Call.Selects, hif] at hsel
      rw [Listed, hif] at hlisted
      have hd : ¬ Dangling c.info (i.hearing ds) := hlisted.2 hsel
      rw [turn_one hif, observe_bind, visitIf_announces (e := i.hearing ds) hsel hd]
      rfl

theorem turn_other (hlisted : Listed c i) (hsel : ¬ c.Selects i.entry) (ds : List Datagram) :
    c.turn (i.hearing ds) = pure () := by
  cases hif : c.ifname with
  | none =>
      rw [Call.Selects, hif] at hsel
      rw [turn_all hif]
      cases hb : i.entry.broadaddr with
      | none => exact visit_missing hb
      | some address => exact visit_other fun haddr => hsel ⟨haddr, by simp [hb]⟩
  | some ifname =>
      rw [Call.Selects, hif] at hsel
      rw [Listed, hif] at hlisted
      rw [turn_one hif, visitIf_other (e := i.hearing ds) hsel hlisted.1 0]
      rfl

theorem broadaddr_of_searches (hlisted : Listed c i) (hsearches : Searches c i) :
    i.entry.broadaddr ≠ none := by
  obtain ⟨hsel, hp⟩ := hsearches
  cases hif : c.ifname with
  | none =>
      rw [Call.Selects, hif] at hsel
      exact hsel.2
  | some ifname =>
      rw [Call.Selects, hif] at hsel
      rw [Listed, hif] at hlisted
      exact fun hb => hlisted.2 hsel ⟨hb, .inr hp⟩

theorem turn_searches (hlisted : Listed c i) (hsearches : Searches c i)
    (hloop : ∀ id, observe reported (receiveLoop c.info c.timeout i.entry.search.socket id ds) =
      ⟨tells, .ok ()⟩) : observe reported (c.turn (i.hearing ds)) = ⟨tells, .ok ()⟩ := by
  have hsearch : observe reported (search c.info c.timeout (i.hearing ds)) = ⟨tells, .ok 0⟩ :=
    search_told (e := i.hearing ds) hsearches.2 (broadaddr_of_searches hlisted hsearches)
      (hloop i.entry.search.id)
  rw [turn_selected hlisted hsearches.1, hsearch]
  exact congrArg (Trace.mk · (.ok ())) (List.append_nil tells)

theorem turn_passes (hlisted : Listed c i) (hsearches : ¬ Searches c i) (ds : List Datagram) :
    observe reported (c.turn (i.hearing ds)) = pure () := by
  by_cases hsel : c.Selects i.entry
  · have hp : ¬ Prepared (i.hearing ds) := fun hp => hsearches ⟨hsel, hp⟩
    rw [turn_selected hlisted hsel, search_untold hp, pure_bind]
  · rw [turn_other hlisted hsel]
    rfl

end Turn

theorem receiveLoop_told {info : LxiInfo} {timeout fd : Int} {id : Cells UInt8} {d : Datagram}
    {ds : List Datagram} (hsize : 0 < d.size) {x : Int × Cells UInt8}
    (hresult : (getDeviceId timeout id d.probe).result = .ok x) {later : List (String × List UInt8)}
    (hlater : observe reported (receiveLoop info timeout fd x.2 ds) = ⟨later, .ok ()⟩) :
    observe reported (receiveLoop info timeout fd id (d :: ds)) =
      ⟨told info [if (found x).1 = 0 then some (d.sender, (found x).2) else none] ++ later,
        .ok ()⟩ := by
  have hprobe : observe reported (within Event.probe Stop.probe (getDeviceId timeout id d.probe)) =
      pure x := by
    have hquiet : Quiet reported (within Event.probe Stop.probe (getDeviceId timeout id d.probe)) :=
      quiet_within fun _ => rfl
    exact hquiet.observe (by rw [within, hresult]; rfl)
  have hreceive : observe reported (emit (Event.recvfrom fd d.count) : Search Unit) = pure () := rfl
  rw [receiveLoop, observe_bind, hreceive, pure_bind, if_pos (count_pos.mpr hsize), observe_bind,
    hprobe, pure_bind, observe_bind, notify_told, hlater]
  rfl

section Asks

variable {n : Network σ}

theorem left_refl (net : UInt32 → σ) : n.Left net net (n.count net) :=
  fun _ => ⟨rfl, subset_rfl, fun _ _ => rfl⟩

theorem left_trans {net net' net'' : UInt32 → σ} {count count' : UInt32 → Nat}
    (h : n.Left net net' count) (h' : n.Left net' net'' count') : n.Left net net'' count' := by
  intro address
  refine ⟨(h' address).count, (h address).subset.trans (h' address).subset, fun lid hlid => ?_⟩
  rw [(h' address).waits lid ((h address).subset hlid), (h address).waits lid hlid]

theorem count_left {net net' : UInt32 → σ} {count : UInt32 → Nat} (h : n.Left net net' count) :
    n.count net' = count := by
  funext address
  exact (h address).count

theorem left_update {net : UInt32 → σ} {sender : UInt32} {s' : σ} {links : Nat}
    (h : Probed (n.links sender) (n.waiting sender) (net sender) s' links) :
    n.Left net (Function.update net sender s') (Function.update (n.count net) sender links) := by
  intro address
  by_cases hsender : address = sender
  · subst hsender
    rw [Function.update_self, Function.update_self]
    exact h
  · rw [Function.update_of_ne hsender, Function.update_of_ne hsender]
    exact left_refl net address

theorem asks_append {net net' : UInt32 → σ} {as : List Arrival}
    (h : n.Left net net' (n.asks (n.count net) as).2) (bs : List Arrival) :
    n.asks (n.count net) (as ++ bs) =
      ((n.asks (n.count net) as).1 ++ (n.asks (n.count net') bs).1,
        (n.asks (n.count net') bs).2) := by
  rw [count_left h]
  exact Machine.total_append n.ask (n.count net) as bs

theorem meet_asks (timeout : Int) (net : UInt32 → σ) {a : Arrival} (h : n.Host a.sender)
    (hroom : a.setup.Links → n.count net a.sender < n.capacity a.sender) :
    ∃ s' met bound, n.Left net (Function.update net a.sender s') (n.asks (n.count net) [a]).2 ∧
      (∀ fuel, bound ≤ fuel →
        meet (n.clients a.sender) fuel timeout a.setup a.probe (net a.sender) = (s', met)) ∧
      ∀ id, ∃ x, (getDeviceId timeout id met).result = .ok x ∧
        (n.asks (n.count net) [a]).1 =
          [if (found x).1 = 0 then some (a.sender, (found x).2) else none] := by
  obtain ⟨s', met, bound, hprobed, hmeet, hends⟩ :=
    meet_hear h.instrument h.reaches h.tells timeout a.probe hroom
  refine ⟨s', met, bound, left_update hprobed, hmeet, fun id => ?_⟩
  obtain ⟨x, hresult, hfound⟩ := hends id
  refine ⟨x, hresult, ?_⟩
  rw [hfound]
  rfl

/-- The do loop of one search: every sender in front of an empty datagram is asked once, and
what it tells is told to the application. -/
theorem datagrams_asks (info : LxiInfo) (timeout fd : Int) (net : UInt32 → σ) {as : List Arrival}
    (h : ∀ a ∈ upToEmpty as, n.Host a.sender) (hrooms : n.Rooms (n.count net) (upToEmpty as)) :
    ∃ net' ds bound,
      (∀ fuel, bound ≤ fuel → datagrams n.clients fuel timeout net as = (net', ds)) ∧
      n.Left net net' (n.asks (n.count net) (upToEmpty as)).2 ∧
      ∀ id, observe reported (receiveLoop info timeout fd id ds) =
        ⟨told info (n.asks (n.count net) (upToEmpty as)).1, .ok ()⟩ := by
  induction as generalizing net with
  | nil =>
      refine ⟨net, [], 0, fun _ _ => rfl, left_refl net, fun id => ?_⟩
      exact congrArg (Trace.mk · (.ok ())) told_nil.symm
  | cons a as ih =>
      by_cases hsize : 0 < a.size
      · have htaken : upToEmpty (a :: as) = [a] ++ upToEmpty as :=
          List.takeWhile_cons_of_pos (decide_eq_true hsize)
        rw [htaken, List.forall_mem_append] at h
        rw [htaken] at hrooms
        obtain ⟨hroom, hrooms⟩ := hrooms
        obtain ⟨s', met, bound₁, hleft, hmeet, hends⟩ :=
          meet_asks timeout net (h.1 a (List.mem_singleton_self a)) hroom
        have hcount : n.count (Function.update net a.sender s') = (n.ask (n.count net) a).2 :=
          count_left hleft
        obtain ⟨net', ds, bound₂, hdatagrams, hleft', hloop⟩ :=
          ih (Function.update net a.sender s') h.2 (by rw [hcount]; exact hrooms)
        rw [htaken, asks_append hleft]
        refine ⟨net', ⟨a.size, a.sender, met⟩ :: ds, max bound₁ bound₂, fun fuel hfuel => ?_,
          left_trans hleft hleft', fun id => ?_⟩
        · rw [datagrams, if_pos hsize, hmeet fuel (Nat.le_trans (Nat.le_max_left ..) hfuel)]
          simp only
          rw [hdatagrams fuel (Nat.le_trans (Nat.le_max_right ..) hfuel)]
        · obtain ⟨x, hresult, hasks⟩ := hends id
          rw [receiveLoop_told hsize hresult (hloop x.2), told_append, hasks]
      · have htaken : upToEmpty (a :: as) = [] :=
          List.takeWhile_cons_of_neg (by simpa using hsize)
        have hcount : ¬ Datagram.count ⟨a.size, a.sender, a.probe⟩ > 0 := mt count_pos.mp hsize
        rw [htaken]
        refine ⟨net, [⟨a.size, a.sender, a.probe⟩], 0, fun _ _ => ?_, left_refl net, fun id => ?_⟩
        · rw [datagrams, if_neg hsize]
        · rw [receiveLoop, if_neg hcount]
          exact congrArg (Trace.mk · (.ok ())) told_nil.symm

theorem turn_asks {c : Call} {i : Interface} (hlisted : Listed c i)
    (h : ∀ a ∈ taken c i, n.Host a.sender) {net : UInt32 → σ}
    (hrooms : n.Rooms (n.count net) (taken c i)) :
    ∃ net' ds bound,
      (∀ fuel, bound ≤ fuel →
        (if Searches c i then datagrams n.clients fuel c.timeout net i.arrivals else (net, [])) =
          (net', ds)) ∧
      n.Left net net' (n.asks (n.count net) (taken c i)).2 ∧
      observe reported (c.turn (i.hearing ds)) =
        ⟨told c.info (n.asks (n.count net) (taken c i)).1, .ok ()⟩ := by
  rw [taken] at h hrooms ⊢
  by_cases hsearches : Searches c i
  · rw [if_pos hsearches] at h hrooms
    obtain ⟨net', ds, bound, hdatagrams, hleft, hloop⟩ :=
      datagrams_asks c.info c.timeout i.entry.search.socket net h hrooms
    simp only [if_pos hsearches]
    exact ⟨net', ds, bound, hdatagrams, hleft, turn_searches hlisted hsearches hloop⟩
  · simp only [if_neg hsearches]
    refine ⟨net, [], 0, fun _ _ => rfl, left_refl net, ?_⟩
    rw [turn_passes hlisted hsearches]
    exact congrArg (Trace.mk · (.ok ())) told_nil.symm

theorem entries_asks {c : Call} {is : List Interface} (hlisted : ∀ i ∈ is, Listed c i)
    (h : ∀ a ∈ is.flatMap (taken c), n.Host a.sender) {net : UInt32 → σ}
    (hrooms : n.Rooms (n.count net) (is.flatMap (taken c))) :
    ∃ net' es bound,
      (∀ fuel, bound ≤ fuel → entries n.clients fuel c net is = (net', es)) ∧
      n.Left net net' (n.asks (n.count net) (is.flatMap (taken c))).2 ∧
      observe reported (es.forM c.turn) =
        ⟨told c.info (n.asks (n.count net) (is.flatMap (taken c))).1, .ok ()⟩ := by
  induction is generalizing net with
  | nil =>
      refine ⟨net, [], 0, fun _ _ => rfl, left_refl net, ?_⟩
      exact congrArg (Trace.mk · (.ok ())) told_nil.symm
  | cons i is ih =>
      rw [List.forall_mem_cons] at hlisted
      rw [List.flatMap_cons, List.forall_mem_append] at h
      rw [List.flatMap_cons] at hrooms
      obtain ⟨hrooms₁, hrooms₂⟩ := Machine.meets_append.mp hrooms
      obtain ⟨net₁, ds, bound₁, hdatagrams, hleft₁, hturn⟩ := turn_asks hlisted.1 h.1 hrooms₁
      have hcount : n.count net₁ = (n.asks (n.count net) (taken c i)).2 := count_left hleft₁
      obtain ⟨net₂, es, bound₂, hentries, hleft₂, hturns⟩ :=
        ih hlisted.2 h.2 (by rw [hcount]; exact hrooms₂)
      rw [List.flatMap_cons, asks_append hleft₁]
      refine ⟨net₂, i.hearing ds :: es, max bound₁ bound₂, fun fuel hfuel => ?_,
        left_trans hleft₁ hleft₂, ?_⟩
      · rw [entries, hdatagrams fuel (Nat.le_trans (Nat.le_max_left ..) hfuel)]
        simp only
        rw [hentries fuel (Nat.le_trans (Nat.le_max_right ..) hfuel)]
      · rw [List.forM, observe_bind, hturn, hturns, told_append]
        rfl

/-- A discovery in a network of instruments that have links left for it: the application is
told the name of each one that answers, once for every answer and in their order, and
nothing that waits for a session anywhere is lost or changed. -/
theorem discovery_tells (backend : Option MdnsBackend) {c : Call} (hc : c.type = .vxi11)
    {is : List Interface} (hlisted : ∀ i ∈ is, Listed c i)
    (h : ∀ a ∈ is.flatMap (taken c), n.Host a.sender) {net : UInt32 → σ}
    (hrooms : n.Rooms (n.count net) (is.flatMap (taken c))) :
    ∃ net' t bound, (∀ fuel, bound ≤ fuel → discover n.clients fuel backend c is net = (net', t)) ∧
      t.result = .ok lxiOk ∧
      t.events.filterMap reported =
        told c.info (n.asks (n.count net) (is.flatMap (taken c))).1 ∧
      n.Left net net' (n.asks (n.count net) (is.flatMap (taken c))).2 := by
  obtain ⟨net', es, bound, hentries, hleft, hturns⟩ := entries_asks hlisted h hrooms
  have hperform : observe reported (perform backend ⟨0, es, 0⟩ c) =
      ⟨told c.info (n.asks (n.count net) (is.flatMap (taken c))).1, .ok lxiOk⟩ := by
    rw [perform_vxi11 backend _ hc, observe_bind, overInterfaces, observe_bind, observe_emit rfl,
      pure_bind, if_pos rfl, observe_bind, hturns]
    exact congrArg (Trace.mk · (.ok lxiOk))
      ((List.append_nil _).trans (List.append_nil _))
  refine ⟨net', perform backend ⟨0, es, 0⟩ c, bound, fun fuel hfuel => ?_,
    congrArg Trace.result hperform, congrArg Trace.events hperform, hleft⟩
  rw [discover, hentries fuel hfuel]

end Asks

section Singles

def singles : Network ((Int32 → Waiting) × Bool) where
  handlers _ := single
  clients _ := clientOf single ⟨true, false, true, false, true⟩
  links _ := singleLinks
  waiting _ := Prod.fst
  reads _ := singleReads
  respond _ := respondEcho
  capacity _ := 1
  maxRecvSize _ := 1024
  response _ := DeviceId.idReqScpi

theorem singles_host (address : UInt32) : singles.Host address :=
  ⟨single_instrument, clientOf_reaches _ _, respondEcho_tells⟩

def halfTaken (address : UInt32) : (Int32 → Waiting) × Bool := (fun _ => [], address = 0x0b01a8c0)

theorem count_halfTaken :
    singles.count halfTaken = fun address => if address = 0x0b01a8c0 then 1 else 0 := by
  funext address
  by_cases haddress : address = 0x0b01a8c0
  · rw [if_pos haddress, Network.count, halfTaken, decide_eq_true haddress]
    exact singleLinks_taken _
  · rw [if_neg haddress, Network.count, halfTaken, decide_eq_false haddress]
    exact singleLinks_free _

def answers (size : Nat) (sender : UInt32) : Arrival := ⟨size, sender, joined 1, quietProbe⟩

def deaf (sender : UInt32) : Arrival :=
  ⟨28, sender, { joined 1 with clntCreate := none }, quietProbe⟩

def interfaces : List Interface :=
  [⟨⟨some "lo", some afInet, none, ⟨3, 0, 0, fun _ => 0, []⟩⟩, [answers 28 0x0100007f]⟩,
    ⟨⟨some "eth0", some afInet, some 0xff01a8c0, ⟨3, 0, 0, fun _ => 0, []⟩⟩,
      [answers 28 0x0a01a8c0, deaf 0x0b01a8c0, answers 28 0x0a01a8c0, answers 0 0x0c01a8c0,
        answers 28 0x0c01a8c0]⟩]

def everywhere : Call := .discover ⟨true, true, true⟩ 1000 .vxi11

theorem told_interfaces :
    told everywhere.info
        (singles.asks (singles.count halfTaken) (interfaces.flatMap (taken everywhere))).1 =
      [("192.168.1.10", [42, 73, 68, 78, 63]), ("192.168.1.10", [42, 73, 68, 78, 63])] := by
  rw [count_halfTaken]
  decide +kernel

theorem interfaces_rooms :
    singles.Rooms (singles.count halfTaken) (interfaces.flatMap (taken everywhere)) := by
  rw [count_halfTaken, Network.Rooms]
  decide +kernel

theorem discovery_tells_singles :
    ∃ net' t bound,
      (∀ fuel, bound ≤ fuel →
        discover singles.clients fuel none everywhere interfaces halfTaken = (net', t)) ∧
      t.result = .ok lxiOk ∧
      t.events.filterMap reported =
        [("192.168.1.10", [42, 73, 68, 78, 63]), ("192.168.1.10", [42, 73, 68, 78, 63])] ∧
      singles.Left halfTaken net'
        (singles.asks (singles.count halfTaken) (interfaces.flatMap (taken everywhere))).2 := by
  have hlisted : ∀ i ∈ interfaces, Listed everywhere i := fun _ _ => trivial
  have h := discovery_tells none rfl hlisted (fun a _ => singles_host a.sender) interfaces_rooms
  rwa [told_interfaces] at h

end Singles

end LibLxi.RemoteSearch

import LibLxi.IdBounds
import LibLxi.RawReceive
import Mathlib.Data.List.Infix

namespace LibLxi.XmlFallback

open DeviceId Memory ProbeEvents ProbeExits Spans Tracing
open IdBounds (Inside)
open RawReceive (Delivers ReceiveCall)

/-- The tcp_receive_wait of the fallback as a receive call. -/
def httpCall (timeout : Int) (o : ProbeOutcome) : ReceiveCall :=
  ⟨⟨responseSize, by decide⟩, timeout, o.tcpReceive⟩

def Received (timeout : Int) (o : ProbeOutcome) (i : Int) : Prop :=
  Covers (lagging 0 (httpCall timeout o).sizes) i

def xmlDecl : List UInt8 := bytes "<?xml"

def valueOf (doc : XmlDoc) (element : String) : Option (List UInt8) :=
  doc.root.bind fun children => (children.find? fun node => node.name = element).bind (·.value)

/-- What the ID string of a document is to be, if it has all four elements. -/
def identification (doc : XmlDoc) : Option (List UInt8) := do
  let manufacturer ← valueOf doc "Manufacturer"
  let model ← valueOf doc "Model"
  let serialNumber ← valueOf doc "SerialNumber"
  let firmwareRevision ← valueOf doc "FirmwareRevision"
  return (bytes ",").intercalate [manufacturer, model, serialNumber, firmwareRevision]

/-- The probe returns either -1 or 0 and the whole identification. -/
def Named (o : ProbeOutcome) (t : Probe (Int × Cells UInt8)) : Prop :=
  (∃ id, t.result = .ok (-1, id)) ∨
    ∃ doc bs id, o.doc = some doc ∧ identification doc = some bs ∧ t.result = .ok (0, id) ∧
      Terminated id bs

/-- The probe looks only at bytes that were received, keeps to its buffer, and
returns what it may. -/
structure Robust (timeout : Int) (o : ProbeOutcome) (t : Probe (Int × Cells UInt8)) : Prop where
  searched : ∀ n : Nat, .scan n ∈ t.events → ∀ i : Int, 0 ≤ i → i < n → Received timeout o i
  parsed : ∀ buffer, .recover buffer ∈ t.events →
    ∃ pos, read (httpReceived timeout o).message pos buffer.length = buffer ∧
      ∀ i : Int, pos ≤ i → i < pos + buffer.length → Received timeout o i
  inside : Only Inside t
  named : Named o t

/-- A zero was received, and a document that is recovered from the string in
front of it has all four elements, for which id has room. -/
structure Suited (timeout : Int) (o : ProbeOutcome) : Prop where
  ended : ∃ i, Received timeout o i ∧ (httpReceived timeout o).message i = 0
  complete : ∀ text, cString (httpReceived timeout o).message 0 o.mapped = some text →
    xmlDecl <:+: text → ∀ doc, o.doc = some doc →
      ∃ bs, identification doc = some bs ∧ bs.length < idLengthMax

def pieces (doc : XmlDoc) : List (Option (List UInt8)) :=
  [valueOf doc "Manufacturer", some (bytes ","), valueOf doc "Model", some (bytes ","),
    valueOf doc "SerialNumber", some (bytes ","), valueOf doc "FirmwareRevision"]

def joined : List (Option (List UInt8)) → List UInt8
  | some bs :: values => bs ++ joined values
  | _ => []

section Assemble

variable {doc : XmlDoc} {element : String} {value bs : List UInt8} {id : Cells UInt8}

theorem getElementValue_result (hroot : doc.root ≠ none) :
    (getElementValue doc element).result = .ok (valueOf doc element) := by
  cases h : doc.root with
  | none => exact absurd h hroot
  | some children =>
      rw [getElementValue, valueOf, h]
      rfl

theorem root_of_value (h : valueOf doc element = some value) : doc.root ≠ none := by
  intro hroot
  rw [valueOf, hroot] at h
  cases h

variable {α : Type}

theorem strcat_appends (h : Terminated id bs) (value : List UInt8) :
    ∃ id', Terminated id' (bs ++ value) ∧ ∀ k : Nat × Cells UInt8 → Probe α,
      (strcat (some value) (bs.length, id) >>= k).result =
        (k ((bs ++ value).length, id')).result := by
  refine ⟨_, Terminated.append h.text value, fun k => ?_⟩
  rw [List.length_append]
  rfl

theorem element_appends (h : Terminated id bs) (hvalue : valueOf doc element = some value) :
    ∃ id', Terminated id' (bs ++ value) ∧ ∀ k : Nat × Cells UInt8 → Probe α,
      (getElementValue doc element >>= fun value => strcat value (bs.length, id) >>= k).result =
        (k ((bs ++ value).length, id')).result := by
  obtain ⟨id', hends, hresult⟩ := strcat_appends (α := α) h value
  refine ⟨id', hends, fun k => ?_⟩
  rw [bind_ok (getElementValue_result (root_of_value hvalue)), hvalue]
  exact hresult k

theorem element_found {id : Nat × Cells UInt8} {k : Nat × Cells UInt8 → Probe α} {a : α}
    (h : (getElementValue doc element >>= fun value => strcat value id >>= k).result = .ok a) :
    ∃ value id', valueOf doc element = some value ∧ (k id').result = .ok a := by
  obtain ⟨found, hfound, hrest⟩ := result_bind_ok.mp h
  obtain ⟨id', hstrcat, hlast⟩ := result_bind_ok.mp hrest
  have hroot : doc.root ≠ none := by
    intro hroot
    rw [getElementValue, hroot] at hfound
    cases hfound
  rw [getElementValue_result hroot, Except.ok.injEq] at hfound
  cases found with
  | none => cases hstrcat
  | some value => exact ⟨value, id', hfound, hlast⟩

theorem assembleId_named (h : identification doc = some bs) (id : Cells UInt8) :
    ∃ id', (assembleId doc id).result = .ok id' ∧ Terminated id' bs := by
  simp only [identification, Option.bind_eq_bind, Option.bind_eq_some_iff, Option.pure_def,
    Option.some.injEq] at h
  obtain ⟨manufacturer, h₁, model, h₂, serialNumber, h₃, firmwareRevision, h₄, rfl⟩ := h
  have hempty : Terminated (store id 0 [0]) [] := Terminated.store (n := 0) rfl
  obtain ⟨_, hends, e₁⟩ := element_appends (α := Cells UInt8) hempty h₁
  obtain ⟨_, hends, c₁⟩ := strcat_appends (α := Cells UInt8) hends (bytes ",")
  obtain ⟨_, hends, e₂⟩ := element_appends (α := Cells UInt8) hends h₂
  obtain ⟨_, hends, c₂⟩ := strcat_appends (α := Cells UInt8) hends (bytes ",")
  obtain ⟨_, hends, e₃⟩ := element_appends (α := Cells UInt8) hends h₃
  obtain ⟨_, hends, c₃⟩ := strcat_appends (α := Cells UInt8) hends (bytes ",")
  obtain ⟨id', hends, e₄⟩ := element_appends (α := Cells UInt8) hends h₄
  refine ⟨id', ?_, ?_⟩
  · rw [assembleId, storeId_bind]
    refine (e₁ _).trans ((c₁ _).trans ((e₂ _).trans ((c₂ _).trans ?_)))
    exact (e₃ _).trans ((c₃ _).trans (e₄ _))
  · simpa [List.intercalate, List.append_assoc] using hends

theorem assembleId_whole {id' : Cells UInt8} (h : (assembleId doc id).result = .ok id') :
    ∃ bs, identification doc = some bs := by
  rw [assembleId, storeId_bind] at h
  obtain ⟨manufacturer, id₁, h₁, h⟩ := element_found h
  obtain ⟨id₂, -, h⟩ := result_bind_ok.mp h
  obtain ⟨model, id₃, h₂, h⟩ := element_found h
  obtain ⟨id₄, -, h⟩ := result_bind_ok.mp h
  obtain ⟨serialNumber, id₅, h₃, h⟩ := element_found h
  obtain ⟨id₆, -, h⟩ := result_bind_ok.mp h
  obtain ⟨firmwareRevision, id₇, h₄, -⟩ := element_found h
  rw [identification, h₁, h₂, h₃, h₄]
  exact ⟨_, rfl⟩

theorem joined_pieces (h : identification doc = some bs) : joined (pieces doc) = bs := by
  simp only [identification, Option.bind_eq_bind, Option.bind_eq_some_iff, Option.pure_def,
    Option.some.injEq] at h
  obtain ⟨manufacturer, h₁, model, h₂, serialNumber, h₃, firmwareRevision, h₄, rfl⟩ := h
  simp [pieces, joined, h₁, h₂, h₃, h₄, List.intercalate]

def Appends (k : Nat × Cells UInt8 → Probe α) (values : List (Option (List UInt8))) : Prop :=
  ∀ id : Nat × Cells UInt8, id.1 < idLengthMax →
    (Only Inside (k id) ↔ id.1 + (joined values).length < idLengthMax)

variable {k : Nat × Cells UInt8 → Probe α} {values : List (Option (List UInt8))}

theorem appends_strcat (hk : Appends k values) (value : Option (List UInt8)) :
    Appends (fun id => strcat value id >>= k) (value :: values) := by
  intro id hid
  cases value with
  | none => exact iff_of_true (only_stop _) hid
  | some bs =>
      have hevents : Only Inside (strcat (some bs) id >>= k) ↔
          Inside (.storeId id.1 (bs ++ [0])) ∧
            Only Inside (k (id.1 + bs.length, store id.2 id.1 (bs ++ [0]))) := List.forall_mem_cons
      have hstore : Inside (.storeId id.1 (bs ++ [0])) ↔ id.1 + bs.length < idLengthMax := by
        simp only [Inside, IdBounds.Within, List.length_append, List.length_singleton]
        omega
      dsimp only
      rw [hevents, hstore, joined, List.length_append, ← Nat.add_assoc]
      constructor
      · rintro ⟨hfits, hrest⟩
        exact (hk _ hfits).mp hrest
      · intro hfits
        have hbefore : id.1 + bs.length < idLengthMax := by omega
        exact ⟨hbefore, (hk _ hbefore).mpr hfits⟩

theorem appends_element (hk : Appends k values) (doc : XmlDoc) (element : String) :
    Appends (fun id => getElementValue doc element >>= fun value => strcat value id >>= k)
      (valueOf doc element :: values) := by
  intro id hid
  by_cases hroot : doc.root = none
  · have hstop : getElementValue doc element = stop .nullRoot := by
      rw [getElementValue, hroot]
      rfl
    rw [hstop, valueOf, hroot]
    exact iff_of_true (only_stop _) hid
  · have hquiet : (getElementValue doc element).events = [] := by
      cases h : doc.root with
      | none => exact absurd h hroot
      | some children =>
          rw [getElementValue, h]
          rfl
    dsimp only
    rw [bind_ok (getElementValue_result hroot), hquiet]
    exact appends_strcat hk (valueOf doc element) id hid

/-- What is assembled stays inside id if and only if it is shorter. -/
theorem assembleId_inside_iff (doc : XmlDoc) (id : Cells UInt8) :
    Only Inside (assembleId doc id) ↔ (joined (pieces doc)).length < idLengthMax := by
  have hlast : Appends (fun id => pure id.2) [] := fun id hid => iff_of_true (only_pure _) hid
  have h₄ := appends_element hlast doc "FirmwareRevision"
  have h₃ := appends_element (appends_strcat h₄ (bytes ",")) doc "SerialNumber"
  have h₂ := appends_element (appends_strcat h₃ (bytes ",")) doc "Model"
  have h₁ := appends_element (appends_strcat h₂ (bytes ",")) doc "Manufacturer"
  have hfirst : Inside (.storeId 0 [0]) := by
    simp [Inside, IdBounds.Within, idLengthMax]
  have hempty : Only Inside _ ↔ 0 + (joined (pieces doc)).length < idLengthMax :=
    h₁ (0, store id 0 [0]) (Nat.succ_pos _)
  rw [zero_add] at hempty
  rw [assembleId, storeId_bind, Only, List.forall_mem_cons, and_iff_right hfirst]
  exact hempty

end Assemble

def looks : Event → Option (Nat ⊕ List UInt8)
  | .scan cells => some (.inl cells)
  | .recover buffer => some (.inr buffer)
  | _ => none

theorem scan_mem {events : List Event} {n : Nat} :
    .scan n ∈ events ↔ .inl n ∈ events.filterMap looks := by
  rw [List.mem_filterMap]
  constructor
  · intro h
    exact ⟨_, h, rfl⟩
  · rintro ⟨e, he, hlooks⟩
    cases e <;> cases hlooks
    exact he

theorem recover_mem {events : List Event} {buffer : List UInt8} :
    .recover buffer ∈ events ↔ .inr buffer ∈ events.filterMap looks := by
  rw [List.mem_filterMap]
  constructor
  · intro h
    exact ⟨_, h, rfl⟩
  · rintro ⟨e, he, hlooks⟩
    cases e <;> cases hlooks
    exact he

theorem find_xml_none {text : List UInt8} :
    (text.tails.find? fun xml => bytes "<?xml" <+: xml) = none ↔ ¬ xmlDecl <:+: text := by
  rw [List.find?_eq_none, List.infix_iff_prefix_suffix]
  simp only [List.mem_tails, decide_eq_true_eq, not_exists, not_and, xmlDecl]
  exact forall_congr' fun xml => imp_not_comm

section Search

variable {timeout : Int} {id : Cells UInt8} {o : ProbeOutcome} {text : List UInt8}

theorem findXml_unended {response : Cells UInt8} {mapped : Nat}
    (h : cString response 0 mapped = none) :
    (findXml response mapped).result = .error .unmapped := by
  rw [findXml, h]
  rfl

theorem findXml_ended {response : Cells UInt8} {mapped : Nat}
    (h : cString response 0 mapped = some text) :
    findXml response mapped =
      ⟨[.scan (text.length + 1)], .ok (text.tails.find? fun xml => bytes "<?xml" <+: xml)⟩ := by
  rw [findXml, h]
  rfl

theorem fetched_looks (events : List Tcp.Event) :
    (events.map DeviceId.Event.tcp).filterMap looks = [] := by
  simp [List.filterMap_map, Function.comp_def, looks]

theorem fallback_unended (htransfers : Transfers timeout o)
    (h : cString (httpReceived timeout o).message 0 o.mapped = none) (id : Cells UInt8) :
    (httpFallback timeout id o).result = .error .unmapped := by
  rw [httpFallback, emit_bind, fetchXml_transfers htransfers, bind_ok rfl,
    bind_error (findXml_unended h)]

theorem fallback_missing (htransfers : Transfers timeout o)
    (h : cString (httpReceived timeout o).message 0 o.mapped = some text)
    (hmissing : ¬ xmlDecl <:+: text) (id : Cells UInt8) :
    (httpFallback timeout id o).events.filterMap looks = [.inl (text.length + 1)] ∧
      (httpFallback timeout id o).result = .ok (-1, id) := by
  rw [httpFallback, emit_bind, fetchXml_transfers htransfers, bind_ok rfl, findXml_ended h,
    find_xml_none.mpr hmissing, bind_ok rfl]
  simp only [List.filterMap_cons, looks, List.filterMap_append, fetched_looks]
  exact ⟨rfl, rfl⟩

theorem fallback_found (htransfers : Transfers timeout o)
    (h : cString (httpReceived timeout o).message 0 o.mapped = some text)
    (hfound : xmlDecl <:+: text) (id : Cells UInt8) :
    ∃ xml, xml <:+ text ∧
      (httpFallback timeout id o).events.filterMap looks =
        [.inl (text.length + 1), .inr xml] ∧
      (httpFallback timeout id o).result =
        match o.doc with
        | none => .ok (-1, id)
        | some doc => (assembleId doc id).result.map fun id => (0, id) := by
  cases hxml : text.tails.find? fun xml => bytes "<?xml" <+: xml with
  | none => exact absurd hfound (find_xml_none.mp hxml)
  | some xml =>
      refine ⟨xml, (List.mem_tails _ _).mp (List.mem_of_find?_eq_some hxml), ?_⟩
      rw [httpFallback, emit_bind, fetchXml_transfers htransfers, bind_ok rfl, findXml_ended h, hxml,
        bind_ok rfl]
      simp only [List.filterMap_cons, looks, List.filterMap_append, fetched_looks, emit_bind]
      cases o.doc with
      | none => exact ⟨rfl, rfl⟩
      | some doc =>
          have hquiet : Quiet looks (assembleId doc id >>= fun id => pure ((0 : Int), id)) :=
            (assembleId_quiet (fun _ _ => rfl) doc id).bind fun _ => quiet_pure _
          constructor
          · rw [Quiet] at hquiet
            simp only [hquiet]
            rfl
          · exact result_bind_pure _ _

theorem tcp_inside (events : List Tcp.Event) : ∀ e ∈ events.map Event.tcp, Inside e := by
  rw [List.forall_mem_map]
  exact fun _ _ => trivial

theorem xmlError_inside (id : Cells UInt8) : Only Inside (xmlError id) :=
  only_emit_bind.mpr ⟨trivial, only_pure _⟩

theorem fetchXml_inside (timeout : Int) (o : ProbeOutcome) : Only Inside (fetchXml timeout o) := by
  rw [fetchXml_eq]
  refine only_emits_bind.mpr ⟨tcp_inside _, only_emits_bind.mpr ⟨tcp_inside _, ?_⟩⟩
  refine (only_need _ _).bind fun _ => only_emits_bind.mpr ⟨tcp_inside _, ?_⟩
  exact (only_need _ _).bind fun _ => only_emits_bind.mpr ⟨tcp_inside _, only_pure _⟩

theorem transfers_of_fetchXml {response : Cells UInt8}
    (h : (fetchXml timeout o).result = .ok response) :
    Transfers timeout o ∧ response = (httpReceived timeout o).message := by
  have htransfers : Transfers timeout o := by
    rw [fetchXml_eq] at h
    cases hsent : (httpSent timeout o).ret with
    | none =>
        rw [hsent] at h
        cases h
    | some sent =>
        cases hreceived : (httpReceived timeout o).ret with
        | none =>
            rw [hsent, hreceived] at h
            cases h
        | some received => exact ⟨⟨sent, hsent⟩, ⟨received, hreceived⟩⟩
  rw [fetchXml_transfers htransfers] at h
  exact ⟨htransfers, (Except.ok.inj h).symm⟩

theorem findXml_inside {α : Type} {response : Cells UInt8} {mapped : Nat}
    {k : Option (List UInt8) → Probe α} :
    Only Inside (findXml response mapped >>= k) ↔
      ∀ text, cString response 0 mapped = some text →
        Only Inside (k (text.tails.find? fun xml => bytes "<?xml" <+: xml)) := by
  cases h : cString response 0 mapped with
  | none =>
      have hscan : (findXml response mapped).events = [.scan mapped] := by
        rw [findXml, h]
        rfl
      rw [bind_error (findXml_unended h), hscan]
      refine iff_of_true (List.forall_mem_singleton.mpr trivial) fun text htext => ?_
      cases htext
  | some text =>
      rw [findXml_ended h, bind_ok rfl, Only, List.forall_mem_append, List.forall_mem_singleton]
      simp only [Option.some.injEq, forall_eq']
      exact and_iff_right trivial

theorem httpFallback_inside_iff (timeout : Int) (id : Cells UInt8) (o : ProbeOutcome) :
    Only Inside (httpFallback timeout id o) ↔
      (Transfers timeout o → ∀ text, cString (httpReceived timeout o).message 0 o.mapped = some text →
        xmlDecl <:+: text → ∀ doc, o.doc = some doc →
          (joined (pieces doc)).length < idLengthMax) := by
  have hmute : Inside (.freopen "/dev/null") := trivial
  have hparse (xml : List UInt8) : Inside (.recover xml) := trivial
  rw [httpFallback, only_emit_bind, and_iff_right hmute, only_bind,
    and_iff_right (fetchXml_inside timeout o)]
  constructor
  · intro h htransfers text htext hfound doc hdoc
    have hsearch := h _ (congrArg Trace.result (fetchXml_transfers htransfers))
    have hassemble := findXml_inside.mp hsearch text htext
    cases hxml : text.tails.find? fun xml => bytes "<?xml" <+: xml with
    | none => exact absurd hfound (find_xml_none.mp hxml)
    | some xml =>
        rw [hxml] at hassemble
        obtain ⟨-, hassemble⟩ := only_emit_bind.mp hassemble
        rw [hdoc] at hassemble
        exact (assembleId_inside_iff doc id).mp (only_bind.mp hassemble).1
  · intro h response hresponse
    obtain ⟨htransfers, rfl⟩ := transfers_of_fetchXml hresponse
    refine findXml_inside.mpr fun text htext => ?_
    cases hxml : text.tails.find? fun xml => bytes "<?xml" <+: xml with
    | none => exact xmlError_inside id
    | some xml =>
        refine only_emit_bind.mpr ⟨hparse xml, ?_⟩
        have hfound : xmlDecl <:+: text := by
          by_contra hmissing
          cases hxml.symm.trans (find_xml_none.mpr hmissing)
        cases hdoc : o.doc with
        | none => exact xmlError_inside id
        | some doc =>
            have hfits := h htransfers text htext hfound doc hdoc
            exact ((assembleId_inside_iff doc id).mpr hfits).bind fun _ => only_pure _

section Received

variable (htext : cString (httpReceived timeout o).message 0 o.mapped = some text)

include htext

theorem searched_iff :
    (∀ i : Int, 0 ≤ i → i < (text.length + 1 : Nat) → Received timeout o i) ↔
      ∃ i, Received timeout o i ∧ (httpReceived timeout o).message i = 0 := by
  obtain ⟨-, -, hzero, hnonzero⟩ := cString_some htext
  rw [zero_add] at hzero
  constructor
  · intro h
    exact ⟨text.length, h _ (Int.natCast_nonneg _) (by omega), hzero⟩
  · rintro ⟨i, hi, hend⟩ j hl hu
    have hbehind : (text.length : Int) ≤ i := by
      by_contra hbefore
      exact hnonzero i (lagging_covers_bounds hi).1 (by omega) hend
    exact lagging_covers_below (le_refl 0) hi hl (by omega)

theorem parsed_of_searched {xml : List UInt8} (hxml : xml <:+ text)
    (h : ∀ i : Int, 0 ≤ i → i < (text.length + 1 : Nat) → Received timeout o i) :
    ∃ pos, read (httpReceived timeout o).message pos xml.length = xml ∧
      ∀ i : Int, pos ≤ i → i < pos + xml.length → Received timeout o i := by
  obtain ⟨-, hread, -, -⟩ := cString_some htext
  obtain ⟨before, rfl⟩ := hxml
  rw [List.length_append] at h hread
  rw [read_add, zero_add] at hread
  refine ⟨before.length, (List.append_inj' hread (read_length _ _ _)).2, ?_⟩
  intro i hl hu
  exact h i (by omega) (by omega)

theorem robust_iff {t : Probe (Int × Cells UInt8)} {xmls : List (List UInt8)}
    (hlooks : t.events.filterMap looks = .inl (text.length + 1) :: xmls.map .inr)
    (hxmls : ∀ xml ∈ xmls, xml <:+ text) :
    Robust timeout o t ↔
      (∃ i, Received timeout o i ∧ (httpReceived timeout o).message i = 0) ∧
        Only Inside t ∧ Named o t := by
  rw [← searched_iff htext]
  constructor
  · intro h
    refine ⟨h.searched _ ?_, h.inside, h.named⟩
    rw [scan_mem, hlooks]
    exact List.mem_cons_self
  · rintro ⟨hsearched, hinside, hnamed⟩
    refine ⟨?_, ?_, hinside, hnamed⟩
    · intro n hn
      rw [scan_mem, hlooks, List.mem_cons] at hn
      rcases hn with hn | hn
      · cases hn
        exact hsearched
      · obtain ⟨xml, -, hinr⟩ := List.mem_map.mp hn
        cases hinr
    · intro buffer hbuffer
      rw [recover_mem, hlooks, List.mem_cons] at hbuffer
      rcases hbuffer with hinl | hbuffer
      · cases hinl
      · obtain ⟨xml, hxml, hinr⟩ := List.mem_map.mp hbuffer
        cases hinr
        exact parsed_of_searched htext (hxmls _ hxml) hsearched

end Received

theorem named_iff {doc : XmlDoc} {t : Probe (Int × Cells UInt8)} (hdoc : o.doc = some doc)
    (h : t.result = (assembleId doc id).result.map fun id => (0, id)) :
    Named o t ↔ ∃ bs, identification doc = some bs := by
  constructor
  · rintro (⟨id', hfailed⟩ | ⟨doc', bs, id', hdoc', hbs, -, -⟩)
    · cases hid : (assembleId doc id).result with
      | error r =>
          rw [h, hid] at hfailed
          cases hfailed
      | ok id' => exact assembleId_whole hid
    · cases hdoc.symm.trans hdoc'
      exact ⟨bs, hbs⟩
  · rintro ⟨bs, hbs⟩
    obtain ⟨id', hid, hends⟩ := assembleId_named hbs id
    rw [hid] at h
    exact .inr ⟨doc, bs, id', hdoc, hbs, h, hends⟩

theorem named_complete {t : Probe (Int × Cells UInt8)}
    (h : t.result =
      match o.doc with
      | none => .ok (-1, id)
      | some doc => (assembleId doc id).result.map fun id => (0, id)) :
    Named o t ↔ ∀ doc, o.doc = some doc → ∃ bs, identification doc = some bs := by
  cases hdoc : o.doc with
  | none =>
      rw [hdoc] at h
      exact iff_of_true (.inl ⟨id, h⟩) (by simp)
  | some doc =>
      rw [hdoc] at h
      rw [named_iff hdoc h]
      simp

theorem complete_iff (doc : XmlDoc) :
    ((joined (pieces doc)).length < idLengthMax ∧ ∃ bs, identification doc = some bs) ↔
      ∃ bs, identification doc = some bs ∧ bs.length < idLengthMax := by
  constructor
  · rintro ⟨hfits, bs, hbs⟩
    rw [joined_pieces hbs] at hfits
    exact ⟨bs, hbs, hfits⟩
  · rintro ⟨bs, hbs, hfits⟩
    rw [joined_pieces hbs]
    exact ⟨hfits, bs, hbs⟩

theorem suited_iff (htext : cString (httpReceived timeout o).message 0 o.mapped = some text) :
    Suited timeout o ↔
      (∃ i, Received timeout o i ∧ (httpReceived timeout o).message i = 0) ∧
        (xmlDecl <:+: text → ∀ doc, o.doc = some doc →
          ∃ bs, identification doc = some bs ∧ bs.length < idLengthMax) := by
  constructor
  · intro h
    exact ⟨h.ended, h.complete text htext⟩
  · rintro ⟨hended, hcomplete⟩
    refine ⟨hended, fun text' htext' => ?_⟩
    cases htext.symm.trans htext'
    exact hcomplete

theorem Robust.returned {t : Probe (Int × Cells UInt8)} (h : Robust timeout o t) :
    ∃ a, t.result = .ok a := by
  rcases h.named with ⟨id, hok⟩ | ⟨doc, bs, id, -, -, hok, -⟩
  · exact ⟨_, hok⟩
  · exact ⟨_, hok⟩

variable (hdelivers : (httpCall timeout o).Readable →
  Delivers responseSize o.pending o.tcpReceive.results)

include hdelivers

theorem transfers_of_delivers (hsent : ∃ ret, (httpSent timeout o).ret = some ret) :
    Transfers timeout o where
  sent := hsent
  received := ⟨_, (RawReceive.tcpReceive_eq (c := httpCall timeout o) hdelivers
    (httpData timeout o) o.response false).1⟩

theorem received_bounds {i : Int} (h : Received timeout o i) : 0 ≤ i ∧ i < responseSize := by
  obtain ⟨hl, hu⟩ := lagging_covers_bounds h
  refine ⟨hl, lt_of_lt_of_le hu ?_⟩
  rw [ReceiveCall.sizes]
  split_ifs with hreadable
  · exact_mod_cast (hdelivers hreadable).sum_le.1
  · exact Int.natCast_nonneg _

theorem not_suited_unended (hmapped : responseSize ≤ o.mapped)
    (h : cString (httpReceived timeout o).message 0 o.mapped = none) : ¬ Suited timeout o := by
  intro hsuited
  obtain ⟨i, hi, hend⟩ := hsuited.ended
  obtain ⟨hl, hu⟩ := received_bounds hdelivers hi
  exact cString_eq_none.mp h i hl (by omega) hend

end Search

/-- Whatever the connection gives, the fallback is robust if and only if a zero
was received and no document lacks an element or has more than id can hold. -/
theorem fallback_robust_iff (timeout : Int) (id : Cells UInt8) {o : ProbeOutcome}
    (hsent : ∃ ret, (httpSent timeout o).ret = some ret)
    (hdelivers : (httpCall timeout o).Readable →
      Delivers responseSize o.pending o.tcpReceive.results)
    (hmapped : responseSize ≤ o.mapped) :
    Robust timeout o (httpFallback timeout id o) ↔ Suited timeout o := by
  have htransfers := transfers_of_delivers hdelivers hsent
  cases htext : cString (httpReceived timeout o).message 0 o.mapped with
  | none =>
      refine iff_of_false ?_ (not_suited_unended hdelivers hmapped htext)
      intro h
      obtain ⟨a, hok⟩ := h.returned
      cases (fallback_unended htransfers htext id).symm.trans hok
  | some text =>
      have hinside := httpFallback_inside_iff timeout id o
      simp only [forall_prop_of_true htransfers, htext, Option.some.injEq, forall_eq'] at hinside
      rw [suited_iff htext]
      by_cases hxml : xmlDecl <:+: text
      · obtain ⟨xml, hsuffix, hlooks, hresult⟩ := fallback_found htransfers htext hxml id
        rw [robust_iff htext hlooks (List.forall_mem_singleton.mpr hsuffix), hinside,
          named_complete hresult]
        simp only [forall_prop_of_true hxml, ← forall_and, complete_iff]
      · obtain ⟨hlooks, hresult⟩ := fallback_missing htransfers htext hxml id
        have hnamed : Named o (httpFallback timeout id o) := .inl ⟨id, hresult⟩
        rw [robust_iff htext hlooks (List.forall_mem_nil _), hinside]
        exact and_congr_right fun _ =>
          iff_of_true ⟨fun h => absurd h hxml, hnamed⟩ fun h => absurd h hxml

def served (response : List UInt8) (children : List XmlNode) : ProbeOutcome :=
  { instrument emptyReply with
    tcpConnect := { (default : Tcp.ConnectOutcome) with socket := 4 }
    tcpSend := ⟨1, .again, [.count idReqHttp.length]⟩
    tcpReceive := ⟨1, [.count response.length, .count 0]⟩
    pending := response
    mapped := responseSize
    doc := some ⟨some children⟩ }

def named (elements : List String) : List XmlNode := elements.map fun e => ⟨e, some (bytes e)⟩

theorem fallback_robust_served :
    Robust 1000 (served (bytes "<?xml" ++ [0])
        (named ["Model", "FirmwareRevision", "Manufacturer", "SerialNumber"]))
      (httpFallback 1000 (fun _ => 0) (served (bytes "<?xml" ++ [0])
        (named ["Model", "FirmwareRevision", "Manufacturer", "SerialNumber"]))) := by
  refine (fallback_robust_iff 1000 (fun _ => 0) ⟨_, rfl⟩ ?_ (by decide)).mpr ⟨⟨5, ?_, rfl⟩, ?_⟩
  · intro _
    simp [Delivers, served, bytes, responseSize]
  · exact ⟨(0, 6), by decide, by decide⟩
  · intro text _ _ doc hdoc
    cases hdoc
    exact ⟨_, rfl, by decide⟩

/-- A response without a zero is searched past its end, whatever it serves. A
document without a serial number has the fallback follow a null pointer. -/
theorem fallback_unsafe :
    ¬ Robust 1000 (served (bytes "<?xml")
          (named ["Manufacturer", "Model", "SerialNumber", "FirmwareRevision"]))
        (httpFallback 1000 (fun _ => 0) (served (bytes "<?xml")
          (named ["Manufacturer", "Model", "SerialNumber", "FirmwareRevision"]))) ∧
      (httpFallback 1000 (fun _ => 0) (served (bytes "<?xml" ++ [0])
          (named ["Manufacturer", "Model", "FirmwareRevision"]))).result = .error .nullValue := by
  refine ⟨fun h => ?_, rfl⟩
  have hreceived := h.searched 6 (by decide) 5 (by decide) (by decide)
  have hbounds := (lagging_covers_bounds hreceived).2
  revert hbounds
  decide

end LibLxi.XmlFallback

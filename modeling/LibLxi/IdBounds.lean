import LibLxi.ProbeExits

namespace LibLxi.IdBounds

open DeviceId Memory ProbeExits Tracing

/-- What get_device_id itself reads and writes of id is inside its buffer. -/
def Within : Event → Prop
  | .readId index => 0 ≤ index ∧ index < idLengthMax
  | .storeId index bs => 0 ≤ index ∧ index + bs.length ≤ idLengthMax
  | _ => True

/-- No access to id is outside of it, those of its device_read calls included. -/
def Inside : Event → Prop
  | .rpc (.deviceRead _ _ dataVal dataLen) =>
      0 < dataLen → 0 ≤ dataVal ∧ dataVal + dataLen ≤ idLengthMax
  | e => Within e

def chop (c : UInt8) (bs : List UInt8) : List UInt8 :=
  if bs.getLast? = some c then bs.dropLast else bs

/-- A probe keeps to its buffer and ends with the stripped reply in it. -/
structure Bounded (t : Probe (Int × Cells UInt8)) (reply : List UInt8) : Prop where
  within : ∀ e ∈ t.events, Within e
  ended : ∃ id, t.result = .ok (0, id) ∧ Terminated id (chop carriageReturn (chop newline reply))

theorem chop_append (c b : UInt8) (bs : List UInt8) :
    chop c (bs ++ [b]) = if b = c then bs else bs ++ [b] := by
  simp only [chop, List.getLast?_concat, List.dropLast_concat, Option.some.injEq]

theorem chop_length (c : UInt8) (bs : List UInt8) : (chop c bs).length ≤ bs.length := by
  rw [chop]
  split_ifs
  · rw [List.length_dropLast]
    exact Nat.sub_le _ _
  · exact le_refl _

theorem chop_eq_nil {c : UInt8} {bs : List UInt8} (hbs : bs ≠ []) : chop c bs = [] ↔ bs = [c] := by
  rcases List.eq_nil_or_concat bs with rfl | ⟨init, b, rfl⟩
  · exact absurd rfl hbs
  · rw [List.concat_eq_append, chop_append]
    split_ifs with hb
    · subst hb
      simp
    · refine iff_of_false (by simp) fun hc => hb ?_
      have hlast := congrArg List.getLast? hc
      rwa [List.getLast?_concat, List.getLast?_singleton, Option.some.injEq] at hlast

section Strip

variable {id : Cells UInt8} {bs : List UInt8} {c : UInt8}

theorem terminated_last {init : List UInt8} {b : UInt8} (h : Terminated id (init ++ [b])) :
    id init.length = b := by
  have hlast := getElem?_read id 0 (Nat.lt_succ_self init.length)
  have htext := h.text
  rw [List.length_append, List.length_singleton] at htext
  rw [htext, List.getElem?_concat_length, Option.some.injEq, zero_add] at hlast
  exact hlast.symm

theorem terminated_init {init : List UInt8} {b : UInt8} (h : Terminated id (init ++ [b])) :
    read id 0 init.length = init := by
  have htext := h.text
  rw [List.length_append, List.length_singleton, read_add] at htext
  exact (List.append_inj' htext rfl).1

theorem strip_chop (h : Terminated id bs) (hbs : bs ≠ []) (c : UInt8) :
    ∃ id', (strip c bs.length id).result = .ok (((chop c bs).length : Int), id') ∧
      Terminated id' (chop c bs) := by
  rcases List.eq_nil_or_concat bs with rfl | ⟨init, b, rfl⟩
  · exact absurd rfl hbs
  rw [List.concat_eq_append] at h ⊢
  have hindex : ((init ++ [b]).length : Int) - 1 = init.length := by
    rw [List.length_append, List.length_singleton]
    omega
  rw [strip, hindex, terminated_last h, chop_append, emit_bind]
  split_ifs
  · exact ⟨_, rfl, Terminated.store (terminated_init h)⟩
  · exact ⟨id, rfl, h⟩

theorem strip_within (hbs : bs ≠ []) (hlength : bs.length ≤ idLengthMax) :
    ∀ e ∈ (strip c bs.length id).events, Within e := by
  have hpos := List.length_pos_of_ne_nil hbs
  have hread : Within (.readId (bs.length - 1)) := by
    constructor <;> omega
  have hstore : Within (.storeId (bs.length - 1) [0]) := by
    constructor
    · omega
    · rw [List.length_singleton]
      omega
  rw [strip, emit_bind]
  split_ifs
  · exact List.forall_mem_cons.mpr ⟨hread, List.forall_mem_singleton.mpr hstore⟩
  · exact List.forall_mem_singleton.mpr hread

/-- Of an empty string a strip reads the byte in front of the buffer. -/
theorem strip_outside : ¬ ∀ e ∈ (strip c 0 id).events, Within e := by
  intro h
  obtain ⟨hindex, -⟩ := h (.readId (0 - 1)) List.mem_cons_self
  omega

end Strip

variable {timeout : Int} {o : ProbeOutcome} {id : Cells UInt8} {n : Nat}

theorem finishId_stripped (hn : 0 < n) {found found' : Int × Cells UInt8}
    (h : (strip newline n (store id n [0])).result = .ok found)
    (h' : (strip carriageReturn found.1 found.2).result = .ok found') :
    finishId timeout n id o =
      ⟨.storeId n [0] :: ((strip newline n (store id n [0])).events ++
        (strip carriageReturn found.1 found.2).events), .ok (0, found'.2)⟩ := by
  rw [finishId, ProbeEvents.storeId_bind, if_pos (Int.natCast_pos.mpr hn), bind_ok h]
  simp only [bind_ok h', events_pure, result_pure, List.append_nil]

section Named

variable (hn : 0 < n)

include hn

theorem finishId_strips (timeout : Int) (id : Cells UInt8) (o : ProbeOutcome) :
    ∃ id₁ found, Terminated id₁ (chop newline (read id 0 n)) ∧
      (strip carriageReturn (chop newline (read id 0 n)).length id₁).result = .ok found ∧
      finishId timeout n id o =
        ⟨.storeId n [0] :: ((strip newline n (store id n [0])).events ++
          (strip carriageReturn (chop newline (read id 0 n)).length id₁).events),
          .ok (0, found.2)⟩ := by
  have hterminated := Terminated.store (m := id) (n := n) rfl
  have hlength := read_length id 0 n
  have hreply : read id 0 n ≠ [] := List.ne_nil_of_length_pos (by omega)
  obtain ⟨id₁, hfirst, hchopped⟩ := strip_chop hterminated hreply newline
  obtain ⟨found, hsecond⟩ := strip_result carriageReturn (chop newline (read id 0 n)).length id₁
  rw [hlength] at hfirst
  exact ⟨id₁, found, hchopped, hsecond, finishId_stripped hn hfirst hsecond⟩

theorem fits_of_within (h : ∀ e ∈ (finishId timeout n id o).events, Within e) :
    n < idLengthMax ∧ read id 0 n ≠ [newline] := by
  have hreply : read id 0 n ≠ [] := List.ne_nil_of_length_pos (by rwa [read_length])
  obtain ⟨id₁, found, -, -, hfinish⟩ := finishId_strips hn timeout id o
  rw [hfinish] at h
  obtain ⟨⟨-, hfits⟩, hstrips⟩ := List.forall_mem_cons.mp h
  obtain ⟨-, hlast⟩ := List.forall_mem_append.mp hstrips
  constructor
  · rw [List.length_singleton] at hfits
    omega
  · intro hnewline
    rw [(chop_eq_nil hreply).mpr hnewline] at hlast
    exact strip_outside hlast

theorem bounded_of_fits (hfits : n < idLengthMax) (hnewline : read id 0 n ≠ [newline]) :
    Bounded (finishId timeout n id o) (read id 0 n) := by
  have hlength := read_length id 0 n
  have hreply : read id 0 n ≠ [] := List.ne_nil_of_length_pos (by omega)
  have hleft : chop newline (read id 0 n) ≠ [] := mt (chop_eq_nil hreply).mp hnewline
  have hshorter := chop_length newline (read id 0 n)
  obtain ⟨id₁, found, hchopped, hsecond, hfinish⟩ := finishId_strips hn timeout id o
  obtain ⟨id₂, hthird, hended⟩ := strip_chop hchopped hleft carriageReturn
  cases hsecond.symm.trans hthird
  have hzero : Within (.storeId n [0]) := by
    refine ⟨Int.natCast_nonneg n, ?_⟩
    rw [List.length_singleton]
    omega
  have hfirst : ∀ e ∈ (strip newline n (store id n [0])).events, Within e := by
    have hwithin : ∀ e ∈ (strip newline (read id 0 n).length (store id n [0])).events, Within e :=
      strip_within hreply (by omega)
    rwa [hlength] at hwithin
  rw [hfinish]
  refine ⟨List.forall_mem_cons.mpr ⟨hzero, List.forall_mem_append.mpr ⟨hfirst, ?_⟩⟩, id₂, rfl, hended⟩
  exact strip_within hleft (by omega)

end Named

theorem finishId_bounded_iff (hn : 0 < n) :
    Bounded (finishId timeout n id o) (read id 0 n) ↔
      n < idLengthMax ∧ read id 0 n ≠ [newline] :=
  ⟨fun h => fits_of_within hn h.within, fun h => bounded_of_fits hn h.1 h.2⟩

/-- Whatever an instrument replies, the string is terminated and stripped inside
the buffer if and only if the reply leaves room for the zero and is not a lone
newline. -/
theorem reply_bounded_iff (hreplies : Replies timeout o n) (hn : 1 ≤ n)
    (id : Cells UInt8) :
    Bounded (getDeviceId timeout id o) (read (idReply timeout id o).message 0 n) ↔
      n < idLengthMax ∧ read (idReply timeout id o).message 0 n ≠ [newline] := by
  rw [← finishId_bounded_iff hn, getDeviceId_replies hreplies (Int.natCast_nonneg n) id, rpc,
    emits_bind]
  constructor
  · rintro ⟨hwithin, hended⟩
    exact ⟨(List.forall_mem_append.mp hwithin).2, hended⟩
  · rintro ⟨hwithin, hended⟩
    refine ⟨List.forall_mem_append.mpr ⟨?_, hwithin⟩, hended⟩
    intro e he
    obtain ⟨e', -, rfl⟩ := List.mem_map.mp he
    trivial

theorem reply_bounded_ended :
    Bounded (getDeviceId 1000 (fun _ => 0) (instrument ⟨[0x41, 0x0d, 0x0a], by decide⟩))
      [0x41, 0x0d, 0x0a] := by
  have hreplies : Replies 1000 (instrument ⟨[0x41, 0x0d, 0x0a], by decide⟩) (3 : Nat) :=
    ⟨by decide, by decide, rfl⟩
  exact (reply_bounded_iff hreplies (by decide) (fun _ => 0)).mpr (by decide)

theorem reply_unbounded_newline :
    Replies 1000 (instrument ⟨[0x0a], by decide⟩) (1 : Nat) ∧
      .readId (-1) ∈ (getDeviceId 1000 (fun _ => 0) (instrument ⟨[0x0a], by decide⟩)).events ∧
      ¬ Bounded (getDeviceId 1000 (fun _ => 0) (instrument ⟨[0x0a], by decide⟩)) [0x0a] := by
  have hread :
      .readId (-1) ∈ (getDeviceId 1000 (fun _ => 0) (instrument ⟨[0x0a], by decide⟩)).events := by
    decide
  refine ⟨⟨by decide, by decide, rfl⟩, hread, fun h => ?_⟩
  have hindex := (h.within _ hread).1
  omega

end LibLxi.IdBounds

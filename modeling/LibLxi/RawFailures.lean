import LibLxi.ClientInvariant
import LibLxi.RawPieces

namespace LibLxi.RawFailures

open Backends ClientInvariant Lxi Memory Platform RawPieces SessionInvariant Tcp

/-- The TCP connection was established: at once, or with select() reporting the
socket writable and no error pending on it. -/
def Established (o : ConnectOutcome) : Prop :=
  0 ≤ o.connect ∨ o.connectErrno = .inProgress ∧ 0 < o.select ∧ o.soError = 0

structure CallsSucceed (o : ConnectOutcome) : Prop where
  socket : 0 ≤ o.socket
  getFlags : 0 ≤ o.getFlags
  setNonblock : 0 ≤ o.setNonblock
  resolve : ∃ addr, resolve o = .ok addr
  resetFlags : 0 ≤ o.resetFlags
  getsockopt : o.getsockopt = 0

def Ended (o : ConnectOutcome) : Prop := 0 ≤ o.connect ∨ o.connectErrno = .inProgress ∧ 0 < o.select

theorem awaitConnect_pos {fd timeout : Int} {o : ConnectOutcome} :
    0 < (awaitConnect fd timeout o).1 ↔ Ended o := by
  rw [awaitConnect, Ended]
  split
  · split
    · simp_all
    · simp_all
      omega
  · simp_all

theorem checkConnect_eq_zero {fd result : Int} {o : ConnectOutcome} :
    (checkConnect fd result o).1 = 0 ↔ 0 ≤ o.resetFlags ∧ 0 < result ∧ o.getsockopt = 0 := by
  rw [checkConnect]
  split_ifs <;> simp <;> omega

/-- tcp_connect succeeds without a look at the pending socket error. -/
theorem tcpConnect_eq_zero {port timeout : Int} {o : ConnectOutcome} :
    (tcpConnect port timeout o).1 = 0 ↔ CallsSucceed o ∧ Ended o := by
  have hexit := tcpConnect_exit port timeout o
  have hfailed : ¬ (-1 : Int) = 0 := by decide
  generalize tcpConnect port timeout o = x at hexit ⊢
  cases hexit with
  | noSocket hsocket => exact iff_of_false hfailed fun h => Int.not_le.mpr hsocket h.1.socket
  | noFlags hsocket hflags => exact iff_of_false hfailed fun h => Int.not_le.mpr hflags h.1.getFlags
  | blocking hsocket hflags hnonblock =>
      exact iff_of_false hfailed fun h => Int.not_le.mpr hnonblock h.1.setNonblock
  | unresolved hsocket hflags hnonblock message hresolve =>
      apply iff_of_false hfailed
      intro h
      obtain ⟨addr, haddr⟩ := h.1.resolve
      cases hresolve.symm.trans haddr
  | tried hsocket hflags hnonblock addr hresolve =>
      have hret : (establish o.socket port timeout addr o).1 = 0 ↔
          0 ≤ o.resetFlags ∧ Ended o ∧ o.getsockopt = 0 := by
        rw [← awaitConnect_pos]
        exact checkConnect_eq_zero
      refine hret.trans ⟨?_, ?_⟩
      · rintro ⟨hreset, hended, hgetsockopt⟩
        exact ⟨⟨hsocket, hflags, hnonblock, ⟨addr, hresolve⟩, hreset, hgetsockopt⟩, hended⟩
      · rintro ⟨hcalls, hended⟩
        exact ⟨hcalls.resetFlags, hended, hcalls.getsockopt⟩

def Refused (o : ConnectOutcome) : Prop :=
  o.connect < 0 ∧ o.connectErrno = .inProgress ∧ 0 < o.select ∧ o.soError ≠ 0

theorem ended_iff {o : ConnectOutcome} : Ended o ↔ Established o ∨ Refused o := by
  rw [Ended, Established, Refused]
  by_cases hconnect : 0 ≤ o.connect
  · simp [hconnect]
  · have hneg : o.connect < 0 := by omega
    simp only [hconnect, hneg, false_or, true_and]
    tauto

theorem not_established_of_refused {o : ConnectOutcome} (h : Refused o) : ¬ Established o := by
  rintro (hc | ⟨-, -, hso⟩)
  · exact absurd h.1 (Int.not_lt.mpr hc)
  · exact h.2.2.2 hso

theorem lxiConnect_raw_iff (s : State World) (port timeout : Int) (name : Option String)
    (o : ConnectOutcome) (vxi11 : Vxi11.ConnectOutcome) :
    (∃ r s', lxiConnect (connectEffect port name timeout o vxi11) .raw s = some (r, s') ∧ 0 ≤ r) ↔
      freeSession s.session ≠ none ∧ (tcpConnect port timeout o).1 = 0 :=
  lxiConnect_handle_iff rfl rfl

/-- recv() fails with an error that does not mean that there is no data yet,
before it has delivered a byte. -/
def FailsFirst (o : ReceiveOutcome) : Prop :=
  o.select ≠ -1 ∧ o.select ≠ 0 ∧ ∃ e rest, o.results = .error e :: rest ∧ e ≠ .again

theorem tcpReceive_of_failsFirst {o : ReceiveOutcome} (h : FailsFirst o) (data : TcpData)
    (buffer : Cells UInt8) (length timeout : Int) (pending : List UInt8) :
    (tcpReceive data buffer length timeout pending o).ret = some 0 := by
  obtain ⟨hselect, hready, e, rest, hresults, -⟩ := h
  simp [tcpReceive, tcpReceive_, hselect, hready, hresults, receiveLoop]

theorem lxiReceive_of_failsFirst {s : State World} {i : Nat} {b : Block}
    (hlive : Live s i ⟨.tcp, b⟩) {o : ReceiveOutcome} (h : FailsFirst o) (buffer : Cells UInt8)
    (length : Length) (timeout : Int) (replies : List Vxi11.ReadReply) :
    ∃ s', lxiReceive (receiveEffect buffer length timeout o replies) i s = some (0, s') := by
  rw [lxiReceive_live hlive]
  simp only [receiveEffect, tcpReceive_of_failsFirst h, Option.map_some]
  exact ⟨_, rfl⟩

/-- RAW failures are reported, but for two: a connection attempt whose failure
only SO_ERROR tells, and a failure of the first recv(). -/
theorem raw_failures_reported_iff (s : State World) :
    (∀ (port timeout : Int) (name : Option String) (o : ConnectOutcome)
        (vxi11 : Vxi11.ConnectOutcome),
      (∀ r s', lxiConnect (connectEffect port name timeout o vxi11) .raw s = some (r, s') → 0 ≤ r →
          Established o) ↔
        ¬ (freeSession s.session ≠ none ∧ CallsSucceed o ∧ Refused o)) ∧
    (∀ (i : Nat) (b : Block), Live s i ⟨.tcp, b⟩ → ∀ (buffer : Cells UInt8) (length : Length)
        (timeout : Int) (o : ReceiveOutcome) (replies : List Vxi11.ReadReply),
      (∀ r s', lxiReceive (receiveEffect buffer length timeout o replies) i s = some (r, s') →
          FailsFirst o → r = lxiError) ↔
        ¬ FailsFirst o) := by
  constructor
  · intro port timeout name o vxi11
    have hhandle := lxiConnect_raw_iff s port timeout name o vxi11
    rw [tcpConnect_eq_zero, ended_iff] at hhandle
    constructor
    · rintro h ⟨hfree, hcalls, hrefused⟩
      obtain ⟨r, s', hconnect, hr⟩ := hhandle.mpr ⟨hfree, hcalls, .inr hrefused⟩
      exact not_established_of_refused hrefused (h r s' hconnect hr)
    · intro h r s' hconnect hr
      obtain ⟨hfree, hcalls, hended⟩ := hhandle.mp ⟨r, s', hconnect, hr⟩
      exact hended.resolve_right fun hrefused => h ⟨hfree, hcalls, hrefused⟩
  · intro i b hlive buffer length timeout o replies
    constructor
    · intro h hfails
      obtain ⟨s', hreceive⟩ := lxiReceive_of_failsFirst hlive hfails buffer length timeout replies
      exact absurd (h 0 s' hreceive hfails) (by decide)
    · intro h r s' _ hfails
      exact absurd hfails h

def attempt (soError : Int) : ConnectOutcome where
  socket := 4
  getFlags := 2
  setNonblock := 0
  inetAddr := 0x0100007f
  getaddrinfo := 0
  aiFamily := afInet
  aiAddr := 0
  connect := -1
  connectErrno := .inProgress
  select := 1
  resetFlags := 0
  getsockopt := 0
  soError := soError
  errno := .again

theorem attempt_callsSucceed (soError : Int) : CallsSucceed (attempt soError) := by
  constructor <;> simp [attempt, resolve, inaddrNone]

def firstRecv (result : Transfer) : ReceiveOutcome := ⟨1, [result]⟩

theorem raw_failures_reported_attempt :
    (∀ r s', lxiConnect (connectEffect 5025 none 1000 (attempt 0) default) .raw (rawSession []) =
        some (r, s') → 0 ≤ r → Established (attempt 0)) ∧
      ∀ r s', lxiReceive (receiveEffect (fun _ => 0) ⟨3, by decide⟩ 1000
          (firstRecv (.error .again)) []) 0 (rawSession []) = some (r, s') →
        FailsFirst (firstRecv (.error .again)) → r = lxiError := by
  obtain ⟨hconnect, hreceive⟩ := raw_failures_reported_iff (rawSession [])
  refine ⟨(hconnect 5025 1000 none (attempt 0) default).mpr ?_,
    (hreceive 0 0 (rawSession_live []) (fun _ => 0) ⟨3, by decide⟩ 1000
      (firstRecv (.error .again)) []).mpr ?_⟩
  · simp [Refused, attempt]
  · simp [FailsFirst, firstRecv]

theorem raw_failures_unreported :
    ¬ (∀ r s', lxiConnect (connectEffect 5025 none 1000 (attempt 111) default) .raw (rawSession []) =
        some (r, s') → 0 ≤ r → Established (attempt 111)) ∧
      ¬ ∀ r s', lxiReceive (receiveEffect (fun _ => 0) ⟨3, by decide⟩ 1000
          (firstRecv (.error (.other 104))) []) 0 (rawSession []) = some (r, s') →
        FailsFirst (firstRecv (.error (.other 104))) → r = lxiError := by
  have hfree : freeSession (rawSession []).session ≠ none := fun h =>
    absurd (freeSession_none.mp h 1 (by decide)) (by decide)
  have hended : Ended (attempt 111) := by simp [Ended, attempt]
  have hfails : FailsFirst (firstRecv (.error (.other 104))) := by simp [FailsFirst, firstRecv]
  constructor
  · intro h
    obtain ⟨r, s', hconnect, hr⟩ := (lxiConnect_raw_iff (rawSession []) 5025 1000 none (attempt 111)
      default).mpr ⟨hfree, tcpConnect_eq_zero.mpr ⟨attempt_callsSucceed 111, hended⟩⟩
    have hestablished := h r s' hconnect hr
    simp [Established, attempt] at hestablished
  · intro h
    obtain ⟨s', hreceive⟩ := lxiReceive_of_failsFirst (rawSession_live []) hfails (fun _ => 0)
      ⟨3, by decide⟩ 1000 []
    exact absurd (h 0 s' hreceive hfails) (by decide)

end LibLxi.RawFailures

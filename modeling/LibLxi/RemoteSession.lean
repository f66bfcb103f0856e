import LibLxi.Machine
import LibLxi.ReadLoop
import LibLxi.RemoteCalls

namespace LibLxi.RemoteSession

open Machine Memory Platform ReadLoop RemoteCalls Rpc Vxi11 Vxi11Service WireMessages Xdr

variable {σ : Type}

section Client

def statusOf {β : Type} : Outcome β → ClntStat
  | .ok _ => .success
  | .error .cantEncodeArgs => .failure 1
  | .error .cantDecodeRes => .failure 2
  | .error .timedOut => .failure 5
  | .error .procUnavail => .failure 10
  | .error .cantDecodeArgs => .failure 11
  | .error .systemError => .failure 12

def coreWrite (parms : DeviceWriteParms) (h : parms.data.length < 2 ^ 31) :
    Vxi11core.DeviceWriteParms where
  lid := parms.lid
  ioTimeout := parms.ioTimeout
  lockTimeout := parms.lockTimeout
  flags := parms.flags
  data := ⟨parms.data, by change _ ≤ 2 ^ 32 - 1; omega⟩

def coreRead (parms : DeviceReadParms) : Vxi11core.DeviceReadParms where
  lid := parms.lid
  requestSize := parms.requestSize
  ioTimeout := parms.ioTimeout
  lockTimeout := parms.lockTimeout
  flags := parms.flags
  termChar := parms.termChar.toInt8

/-- The reply of a call that failed is not looked at. -/
def writeReply : Outcome Vxi11core.DeviceWriteResp → WriteReply
  | .ok resp => ⟨.success, ⟨resp.error, resp.size⟩⟩
  | .error e => ⟨statusOf (.error e : Outcome Unit), ⟨0, 0⟩⟩

def readReply : Outcome Vxi11core.DeviceReadResp → ReadReply
  | .ok resp =>
      ⟨.success, ⟨resp.error, resp.reason,
        ⟨resp.data.bytes, resp.data.bounded.trans_lt (by decide)⟩⟩⟩
  | .error e => ⟨statusOf (.error e : Outcome Unit), ⟨0, 0, ⟨[], empty_isUInt⟩⟩⟩

variable (clnt : Clnt σ)

/-- What the client's device_write_1 gets for a message. -/
def write (data : Vxi11Data) (message : Cells UInt8) (length : Length) (timeout : Int) (s : σ) :
    σ × WriteReply :=
  let parms := writeParms data message length.val timeout
  let (s', o) := deviceWrite1 clnt (coreWrite parms ((read_length _ _ _).trans_lt length.isInt))
    (zeroed .deviceWriteResp) s
  (s', writeReply o)

def send (data : Vxi11Data) (message : Cells UInt8) (length : Length) (timeout : Int) (s : σ) :
    σ × Int :=
  let (s', reply) := write clnt data message length timeout s
  (s', (vxi11Send data message length.val timeout reply).1)

def goesOn (length pos : Nat) (reply : ReadReply) : Prop :=
  Answered reply ∧ pos + reply.dataLen ≤ length ∧ reply.resp.reason = 0

instance (length pos : Nat) (reply : ReadReply) : Decidable (goesOn length pos reply) :=
  inferInstanceAs (Decidable (_ ∧ _))

/-- The replies that the reads of one vxi11_receive get. -/
def answers (parms : DeviceReadParms) (length : Nat) : Nat → Nat → σ → σ × List ReadReply
  | 0, _, s => (s, [])
  | fuel + 1, pos, s =>
      let (s', o) := deviceRead1 clnt
        (coreRead { parms with requestSize := UInt32.ofInt ((length : Int) - pos) })
        (zeroed .deviceReadResp) s
      let reply := readReply o
      if goesOn length pos reply then
        let (s'', replies) := answers parms length fuel (pos + reply.dataLen) s'
        (s'', reply :: replies)
      else (s', [reply])

def readParms (data : Vxi11Data) (length : Nat) (timeout : Int) : DeviceReadParms where
  lid := data.linkResp.lid
  requestSize := UInt32.ofInt length
  ioTimeout := UInt32.ofInt timeout
  lockTimeout := 0
  flags := 0
  termChar := 0

def receive (data : Vxi11Data) (message : Cells UInt8) (length : Length) (timeout : Int) (fuel : Nat)
    (s : σ) : σ × Received :=
  let (s', replies) := answers clnt (readParms data length.val timeout) length.val fuel 0 s
  (s', vxi11Receive data message length.val timeout replies)

end Client

abbrev Waiting := List (List UInt8)

/-- A reply to a read gives the front of a response, none of it perhaps. It gives a reason
only where the response ends or the request is used up. -/
structure Gives (requestSize : Nat) (resp : Vxi11core.DeviceReadResp) (response more : List UInt8) :
    Prop where
  error : resp.error = 0
  split : response = resp.data.bytes ++ more
  bounded : resp.data.bytes.length ≤ requestSize
  ended : resp.reason ≠ 0 → more = [] ∨ resp.data.bytes.length = requestSize

section Gives

variable {requestSize : Nat} {resp : Vxi11core.DeviceReadResp} {response more : List UInt8}

theorem Gives.take (h : Gives requestSize resp response more) :
    response.take requestSize = resp.data.bytes ++ more.take (requestSize - resp.data.bytes.length) := by
  rw [h.split, List.take_append, List.take_of_length_le h.bounded]

theorem Gives.drop (h : Gives requestSize resp response more) :
    response.drop requestSize = more.drop (requestSize - resp.data.bytes.length) := by
  rw [h.split, List.drop_append, List.drop_of_length_le h.bounded, List.nil_append]

theorem Gives.stopped (h : Gives requestSize resp response more) (hreason : resp.reason ≠ 0) :
    response.take requestSize = resp.data.bytes ∧ response.drop requestSize = more := by
  rw [h.take, h.drop]
  rcases h.ended hreason with rfl | hfull
  · simp
  · simp [hfull]

end Gives

def leave (more : List UInt8) (others : Waiting) : Waiting :=
  if more = [] then others else more :: others

/-- A server whose device_write and device_read keep a queue of responses for every
link that it has, and take messages of at most maxRecvSize bytes. It ends a response
after finitely many reads, as reads bounds them. A read where nothing waits is answered
with the error of a timeout. -/
structure Conforms (handlers : Handlers σ) (links : σ → Set Int32) (waiting : σ → Int32 → Waiting)
    (reads : σ → Int32 → Nat) (respond : List UInt8 → Waiting → Waiting) (maxRecvSize : Nat) :
    Prop where
  write : ∀ s (x : Vxi11core.DeviceWriteParms), x.lid ∈ links s → x.data.bytes.length ≤ maxRecvSize →
    ∃ s' retval, retval > 0 ∧
      handlers .deviceWrite s x = (s', retval, ⟨0, UInt32.ofNat x.data.bytes.length⟩) ∧
      links s' = links s ∧
      waiting s' = Function.update (waiting s) x.lid (respond x.data.bytes (waiting s x.lid))
  idle : ∀ s (x : Vxi11core.DeviceReadParms), x.lid ∈ links s → waiting s x.lid = [] →
    ∃ s' retval, ∃ resp : Vxi11core.DeviceReadResp, retval > 0 ∧
      handlers .deviceRead s x = (s', retval, resp) ∧ resp.error = 15 ∧
      links s' = links s ∧ waiting s' = waiting s
  read : ∀ s (x : Vxi11core.DeviceReadParms) response others, x.lid ∈ links s →
    waiting s x.lid = response :: others →
    ∃ s' retval, ∃ (resp : Vxi11core.DeviceReadResp) (more : _), retval > 0 ∧
      handlers .deviceRead s x = (s', retval, resp) ∧
      Gives x.requestSize.toNat resp response more ∧ links s' = links s ∧
      waiting s' = Function.update (waiting s) x.lid
        (if resp.reason = 0 then more :: others else leave more others) ∧
      (resp.reason = 0 → reads s' x.lid < reads s x.lid)

/-- The calls of a client reach the dispatcher of a server. -/
def Reaches (clnt : Clnt σ) (handlers : Handlers σ) : Prop :=
  ∃ passes, Conveys clnt (served (deviceCore1 handlers) passes) passes

def clientOf (handlers : Handlers σ) (passes : Passes) : Clnt σ :=
  tirpcClnt (served (deviceCore1 handlers) passes) passes

theorem clientOf_reaches (handlers : Handlers σ) (passes : Passes) :
    Reaches (clientOf handlers passes) handlers :=
  ⟨passes, tirpcClnt_conveys _ _⟩

section Calls

variable {handlers : Handlers σ} {clnt : Clnt σ} {s s' : σ} {retval : Int}

theorem stub_reaches (hclnt : Reaches clnt handlers) {p : Proc} (hp : program p = .deviceCore)
    {x : p.argument.Obj} (hsafe : InlineSafe p.argument x) (y : p.result.Obj) (s : σ) :
    p.stub clnt x y s = direct handlers p x s := by
  obtain ⟨passes, hconveys⟩ := hclnt
  have hdispatcher : (program p).dispatcher handlers = deviceCore1 handlers := by rw [hp]; rfl
  rw [← hdispatcher] at hconveys
  exact (congrFun (stub_eq clnt p x y) s).trans
    (clntCall_direct handlers p hconveys x y s fun _ => hsafe)

theorem deviceWrite1_eq (hclnt : Reaches clnt handlers) (x : Vxi11core.DeviceWriteParms)
    (y : Vxi11core.DeviceWriteResp) (s : σ) :
    deviceWrite1 clnt x y s = ((handlers .deviceWrite s x).1,
      if (handlers .deviceWrite s x).2.1 > 0 then .ok (handlers .deviceWrite s x).2.2
      else .error .timedOut) :=
  stub_reaches hclnt (p := .deviceWrite) rfl (inlineSafe_of_none rfl) y s

theorem deviceRead1_eq (hclnt : Reaches clnt handlers) (x : Vxi11core.DeviceReadParms)
    (y : Vxi11core.DeviceReadResp) (s : σ) :
    deviceRead1 clnt x y s = ((handlers .deviceRead s x).1,
      if (handlers .deviceRead s x).2.1 > 0 then .ok (handlers .deviceRead s x).2.2
      else .error .timedOut) :=
  stub_reaches hclnt (p := .deviceRead) rfl (inlineSafe_of_none rfl) y s

theorem deviceWrite1_ok (hclnt : Reaches clnt handlers) {x : Vxi11core.DeviceWriteParms}
    {resp : Vxi11core.DeviceWriteResp} (h : handlers .deviceWrite s x = (s', retval, resp))
    (hret : retval > 0) (y : Vxi11core.DeviceWriteResp) :
    deviceWrite1 clnt x y s = (s', .ok resp) := by
  rw [deviceWrite1_eq hclnt, h]
  exact congrArg (Prod.mk s') (if_pos hret)

theorem deviceRead1_ok (hclnt : Reaches clnt handlers) {x : Vxi11core.DeviceReadParms}
    {resp : Vxi11core.DeviceReadResp} (h : handlers .deviceRead s x = (s', retval, resp))
    (hret : retval > 0) (y : Vxi11core.DeviceReadResp) :
    deviceRead1 clnt x y s = (s', .ok resp) := by
  rw [deviceRead1_eq hclnt, h]
  exact congrArg (Prod.mk s') (if_pos hret)

end Calls

section Device

variable {handlers : Handlers σ} {links : σ → Set Int32} {waiting : σ → Int32 → Waiting}
  {reads : σ → Int32 → Nat} {respond : List UInt8 → Waiting → Waiting} {maxRecvSize : Nat}
  {clnt : Clnt σ}

theorem write_reaches (h : Conforms handlers links waiting reads respond maxRecvSize)
    (hclnt : Reaches clnt handlers) {data : Vxi11Data} {s : σ} (hlink : data.linkResp.lid ∈ links s)
    (message : Cells UInt8) {length : Length} (hlength : length.val ≤ maxRecvSize) (timeout : Int) :
    ∃ s', write clnt data message length timeout s =
        (s', ⟨.success, ⟨0, UInt32.ofNat length.val⟩⟩) ∧
      links s' = links s ∧
      waiting s' = Function.update (waiting s) data.linkResp.lid
        (respond (read message 0 length.val) (waiting s data.linkResp.lid)) := by
  have hbytes : (read message 0 length.val).length ≤ maxRecvSize := by rwa [read_length]
  obtain ⟨s', retval, hret, hhandler, hlinks, hwaiting⟩ := h.write s (coreWrite
    (writeParms data message length.val timeout) ((read_length _ _ _).trans_lt length.isInt)) hlink
    hbytes
  refine ⟨s', ?_, hlinks, hwaiting⟩
  have hreply : (⟨.success, ⟨0, UInt32.ofNat (read message 0 length.val).length⟩⟩ : WriteReply) =
      ⟨.success, ⟨0, UInt32.ofNat length.val⟩⟩ := by rw [read_length]
  rw [write, deviceWrite1_ok hclnt hhandler hret]
  exact congrArg (Prod.mk s') hreply

theorem vxi11Send_written (data : Vxi11Data) (message : Cells UInt8) (length : Length) (timeout : Int) :
    (vxi11Send data message length.val timeout ⟨.success, ⟨0, UInt32.ofNat length.val⟩⟩).1 =
      length.val := by
  have hlt := length.isInt
  have hsize : (UInt32.ofNat length.val).toNat = length.val :=
    UInt32.toNat_ofNat_of_lt' (by change _ < 2 ^ 32; omega)
  change toInt (UInt32.ofNat length.val).toNat = _
  rw [hsize, toInt_eq_self (by omega) (by exact_mod_cast hlt)]

theorem send_reaches (h : Conforms handlers links waiting reads respond maxRecvSize)
    (hclnt : Reaches clnt handlers) {data : Vxi11Data} {s : σ} (hlink : data.linkResp.lid ∈ links s)
    (message : Cells UInt8) {length : Length} (hlength : length.val ≤ maxRecvSize) (timeout : Int) :
    ∃ s', send clnt data message length timeout s = (s', (length.val : Int)) ∧
      links s' = links s ∧
      waiting s' = Function.update (waiting s) data.linkResp.lid
        (respond (read message 0 length.val) (waiting s data.linkResp.lid)) := by
  obtain ⟨s', hwrite, hkept⟩ := write_reaches h hclnt hlink message hlength timeout
  refine ⟨s', ?_, hkept⟩
  rw [send, hwrite]
  exact congrArg (Prod.mk s') (vxi11Send_written data message length timeout)

section Receive

variable {data : Vxi11Data} {length pos fuel : Nat} {parms : DeviceReadParms} {s : σ}

theorem answers_succ (hclnt : Reaches clnt handlers) {s' : σ} {retval : Int}
    {resp : Vxi11core.DeviceReadResp}
    (h : handlers .deviceRead s
      (coreRead { parms with requestSize := UInt32.ofInt ((length : Int) - pos) }) =
        (s', retval, resp)) (hret : retval > 0) :
    answers clnt parms length (fuel + 1) pos s =
      if goesOn length pos (readReply (.ok resp)) then
        ((answers clnt parms length fuel (pos + (readReply (.ok resp)).dataLen) s').1,
          readReply (.ok resp) ::
            (answers clnt parms length fuel (pos + (readReply (.ok resp)).dataLen) s').2)
      else (s', [readReply (.ok resp)]) := by
  rw [answers, deviceRead1_ok hclnt h hret]

/-- What a receive has done behind position pos, where these bytes of the first
response were still waiting: it stored as many of them as there is room for. -/
structure Received (length pos : Nat) (lid : Int32) (response : List UInt8) (others : Waiting)
    (before after : Int32 → Waiting) (message : Cells UInt8) (received : Vxi11.Received) : Prop where
  ret : received.ret = some ((pos + (response.take (length - pos)).length : Nat) : Int)
  message : received.message = store message pos (response.take (length - pos))
  after : after = Function.update before lid (leave (response.drop (length - pos)) others)

section Turns

variable {lid : Int32} {resp : Vxi11core.DeviceReadResp} {response more : List UInt8}
  {others : Waiting} {before mid after : Int32 → Waiting} {message : Cells UInt8}
  {rest received : Vxi11.Received}

/-- One read in front of what the rest of the call has done. -/
theorem Received.turn (hgives : Gives (length - pos) resp response more)
    (hmid : mid = Function.update before lid (more :: others))
    (hrest : Received length (pos + resp.data.bytes.length) lid more others mid after
      (store message pos resp.data.bytes) rest)
    (hret : received.ret = rest.ret) (hmessage : received.message = rest.message) :
    Received length pos lid response others before after message received := by
  have htake := hgives.take
  have hdrop := hgives.drop
  rw [Nat.sub_sub] at htake hdrop
  constructor
  · rw [hret, htake, List.length_append, ← Nat.add_assoc]
    exact hrest.ret
  · have hpast : (pos : Int) + resp.data.bytes.length =
        ((pos + resp.data.bytes.length : Nat) : Int) := rfl
    rw [hmessage, htake, store_append, hpast]
    exact hrest.message
  · rw [hdrop, hrest.after, hmid]
    exact Function.update_idem ..

/-- The read that ends the call. -/
theorem received_last (hgives : Gives (length - pos) resp response more) (hreason : resp.reason ≠ 0)
    (hafter : after = Function.update before lid (leave more others))
    (hret : received.ret = some ((pos + resp.data.bytes.length : Nat) : Int))
    (hmessage : received.message = store message pos resp.data.bytes) :
    Received length pos lid response others before after message received := by
  obtain ⟨htake, hdrop⟩ := hgives.stopped hreason
  constructor
  · rw [htake, hret]
  · rw [htake, hmessage]
  · rw [hdrop, hafter]

end Turns

theorem receiveLoop_reaches (h : Conforms handlers links waiting reads respond maxRecvSize)
    (hclnt : Reaches clnt handlers) (parms : DeviceReadParms) (hlength : length < 2 ^ 31)
    (hpos : pos ≤ length) (hlink : parms.lid ∈ links s) (client : Option Client)
    (message : Cells UInt8) (response : List UInt8) (others : Waiting)
    (hwaiting : waiting s parms.lid = response :: others) (hfuel : reads s parms.lid < fuel) :
    links (answers clnt parms length fuel pos s).1 = links s ∧
    Received length pos parms.lid response others (waiting s)
      (waiting (answers clnt parms length fuel pos s).1) message
      (receiveLoop client parms length pos pos message
        (answers clnt parms length fuel pos s).2) := by
  induction fuel generalizing pos s message response with
  | zero => omega
  | succ fuel ih =>
      obtain ⟨s', retval, resp, more, hret, hhandler, hgives, hlinks, hwaiting', hreads⟩ := h.read s
        (coreRead { parms with requestSize := UInt32.ofInt ((length : Int) - pos) }) response others
        hlink hwaiting
      have hrequest : (UInt32.ofInt ((length : Int) - pos)).toNat = length - pos :=
        requestSize_toNat hlength hpos
      have hgives : Gives (length - pos) resp response more := by
        rw [← hrequest]
        exact hgives
      have hwaiting' : waiting s' = Function.update (waiting s) parms.lid
        (if resp.reason = 0 then more :: others else leave more others) := hwaiting'
      have hbounded := hgives.bounded
      have hans : Answered (readReply (.ok resp)) := ⟨rfl, hgives.error⟩
      have hfits : pos + (readReply (.ok resp)).dataLen ≤ length := by
        change pos + resp.data.bytes.length ≤ length
        omega
      rw [answers_succ hclnt hhandler hret]
      by_cases hreason : resp.reason = 0
      · have hgoes : goesOn length pos (readReply (.ok resp)) := ⟨hans, hfits, hreason⟩
        rw [if_pos hreason] at hwaiting'
        have hnext : waiting s' parms.lid = more :: others := by
          rw [hwaiting']
          exact Function.update_self ..
        have hfewer : reads s' parms.lid < reads s parms.lid := hreads hreason
        have hlink' : parms.lid ∈ links s' := hlinks ▸ hlink
        obtain ⟨hrestLinks, hrest⟩ := ih hfits hlink' (store message pos resp.data.bytes) more hnext
          (by omega)
        have hzero : (readReply (.ok resp)).resp.reason = 0 := hreason
        rw [if_pos hgoes, receiveLoop_fits hlength hans hfits]
        simp only [hzero, if_true]
        exact ⟨hrestLinks.trans hlinks, Received.turn hgives hwaiting' hrest rfl rfl⟩
      · have hstops : ¬ goesOn length pos (readReply (.ok resp)) := fun hgoes => hreason hgoes.2.2
        have hnonzero : (readReply (.ok resp)).resp.reason ≠ 0 := hreason
        rw [if_neg hreason] at hwaiting'
        rw [if_neg hstops, receiveLoop_fits hlength hans hfits]
        simp only [hnonzero, if_false]
        exact ⟨hlinks, received_last hgives hreason hwaiting' rfl rfl⟩

theorem answers_stable (h : Conforms handlers links waiting reads respond maxRecvSize)
    (hclnt : Reaches clnt handlers) (parms : DeviceReadParms) {fuel' : Nat} (hpos : pos ≤ length)
    (hlink : parms.lid ∈ links s) (response : List UInt8) (others : Waiting)
    (hwaiting : waiting s parms.lid = response :: others) (hfuel : reads s parms.lid < fuel)
    (hfuel' : reads s parms.lid < fuel') :
    answers clnt parms length fuel pos s = answers clnt parms length fuel' pos s := by
  induction fuel generalizing fuel' pos s response with
  | zero => omega
  | succ fuel ih =>
      obtain ⟨fuel', rfl⟩ : ∃ n, fuel' = n + 1 := ⟨fuel' - 1, by omega⟩
      obtain ⟨s', retval, resp, more, hret, hhandler, hgives, hlinks, hwaiting', hreads⟩ := h.read s
        (coreRead { parms with requestSize := UInt32.ofInt ((length : Int) - pos) }) response others
        hlink hwaiting
      rw [answers_succ hclnt hhandler hret, answers_succ hclnt hhandler hret]
      by_cases hgoes : goesOn length pos (readReply (.ok resp))
      · have hreason : resp.reason = 0 := hgoes.2.2
        have hnext : waiting s' parms.lid = more :: others := by
          rw [hwaiting', if_pos hreason]
          exact Function.update_self ..
        have hfewer : reads s' parms.lid < reads s parms.lid := hreads hreason
        have hlink' : parms.lid ∈ links s' := hlinks ▸ hlink
        have hrest := ih hgoes.2.1 hlink' more hnext (by omega) (show _ < fuel' by omega)
        rw [if_pos hgoes, if_pos hgoes, hrest]
      · rw [if_neg hgoes, if_neg hgoes]

theorem answers_idle (h : Conforms handlers links waiting reads respond maxRecvSize)
    (hclnt : Reaches clnt handlers) (parms : DeviceReadParms) (length pos : Nat)
    (hlink : parms.lid ∈ links s) (hwaiting : waiting s parms.lid = []) :
    ∃ s' reply, ¬ Answered reply ∧ links s' = links s ∧ waiting s' = waiting s ∧
      ∀ fuel, answers clnt parms length (fuel + 1) pos s = (s', [reply]) := by
  obtain ⟨s', retval, resp, hret, hhandler, herror, hlinks, hwaiting'⟩ := h.idle s
    (coreRead { parms with requestSize := UInt32.ofInt ((length : Int) - pos) }) hlink hwaiting
  have hrefused : ¬ Answered (readReply (.ok resp)) := fun hans => by
    have h0 : resp.error = 0 := hans.2
    rw [herror] at h0
    cases h0
  refine ⟨s', readReply (.ok resp), hrefused, hlinks, hwaiting', fun fuel => ?_⟩
  rw [answers_succ hclnt hhandler hret, if_neg fun hgoes => hrefused hgoes.1]

end Receive

end Device

section Echo

def echoReason (asked given : Nat) (more : List UInt8) : Int32 :=
  if more = [] then 4 else if given = asked then 1 else 0

def echoRead (w : Int32 → Waiting) (x : Vxi11core.DeviceReadParms) :
    (Int32 → Waiting) × Int × Vxi11core.DeviceReadResp :=
  match w x.lid with
  | [] => (w, 1, ⟨15, 0, noBytes⟩)
  | response :: others =>
      let n := min x.requestSize.toNat 2
      let more := response.drop n
      (Function.update w x.lid (leave more others), 1,
        ⟨0, echoReason x.requestSize.toNat (response.take n).length more, response.take n,
          (List.length_take_le _ _).trans ((Nat.min_le_right _ _).trans (by decide))⟩)

/-- A server that gives every message back, two bytes at a time. -/
def echo : Handlers (Int32 → Waiting)
  | .deviceWrite => fun w x =>
      (Function.update w x.lid (w x.lid ++ [x.data.bytes]), 1, ⟨0, UInt32.ofNat x.data.bytes.length⟩)
  | .deviceRead => echoRead
  | p => fun w _ => (w, 0, zeroed p.result)

theorem gives_echo (response : List UInt8) (asked : Nat) {data : Bytes}
    (hdata : data.bytes = response.take (min asked 2)) :
    Gives asked ⟨0, echoReason asked data.bytes.length (response.drop (min asked 2)), data⟩ response
      (response.drop (min asked 2)) where
  error := rfl
  split := by rw [hdata, List.take_append_drop]
  bounded := by
    rw [hdata, List.length_take]
    omega
  ended hreason := by
    simp only [echoReason] at hreason
    split_ifs at hreason with hmore hfull
    · exact .inl hmore
    · exact .inr hfull
    · exact absurd rfl hreason

theorem echo_goesOn {response : List UInt8} {asked : Nat}
    (hreason : echoReason asked (response.take (min asked 2)).length (response.drop (min asked 2)) = 0) :
    response.drop (min asked 2) ≠ [] ∧ (response.drop (min asked 2)).length < response.length := by
  rw [echoReason] at hreason
  split_ifs at hreason with hmore hfull
  · exact absurd hreason (by decide)
  · exact absurd hreason (by decide)
  · refine ⟨hmore, ?_⟩
    rw [List.drop_eq_nil_iff] at hmore
    rw [List.length_take] at hfull
    rw [List.length_drop]
    omega

def echoReads (w : Int32 → Waiting) (lid : Int32) : Nat := ((w lid).headD []).length

def respondEcho (message : List UInt8) (w : Waiting) : Waiting := w ++ [message]

theorem echo_conforms (maxRecvSize : Nat) :
    Conforms echo (fun _ => Set.univ) id echoReads respondEcho maxRecvSize where
  write s x _ _ := ⟨_, 1, Int.one_pos, rfl, rfl, rfl⟩
  idle s x _ hw := by
    refine ⟨s, 1, ⟨15, 0, noBytes⟩, Int.one_pos, ?_, rfl, rfl, rfl⟩
    change echoRead s x = _
    rw [echoRead, show s x.lid = [] from hw]
  read s x response others _ hw := by
    have hw : s x.lid = response :: others := hw
    have hbounded : (response.take (min x.requestSize.toNat 2)).length ≤ uintMax.toNat :=
      (List.length_take_le _ _).trans ((Nat.min_le_right _ _).trans (by decide))
    refine ⟨Function.update s x.lid (leave (response.drop (min x.requestSize.toNat 2)) others), 1,
      ⟨0, _, response.take (min x.requestSize.toNat 2), hbounded⟩, _, Int.one_pos, ?_,
      gives_echo response _ rfl, rfl, ?_, fun hreason => ?_⟩
    · change echoRead s x = _
      rw [echoRead, hw]
    · change Function.update s x.lid _ = Function.update s x.lid _
      split
      · rw [leave, if_neg (echo_goesOn ‹_›).1]
      · rfl
    · obtain ⟨hmore, hless⟩ := echo_goesOn hreason
      rw [echoReads, echoReads, Function.update_self, leave, if_neg hmore, hw]
      exact hless

end Echo

section Sessions

inductive Op
  | send (message : Cells UInt8) (length : Length) (timeout : Int)
  | receive (message : Cells UInt8) (length : Length) (timeout : Int)

/-- The returned value and, for a receive, the bytes in front of it. -/
inductive Answer
  | sent (ret : Int)
  | received (ret : Int) (bytes : List UInt8)
  deriving DecidableEq

abbrev Action := Vxi11Data × Op

def Action.lid (a : Action) : Int32 := a.1.linkResp.lid

/-- A call over the wire, none where it has not returned yet. -/
def step (clnt : Clnt σ) (fuel : Nat) (s : σ) : Action → Option (Answer × σ)
  | (data, .send message length timeout) =>
      let (s', ret) := send clnt data message length timeout s
      some (.sent ret, s')
  | (data, .receive message length timeout) =>
      let (s', received) := receive clnt data message length timeout fuel s
      received.ret.map fun ret => (.received ret (read received.message 0 ret.toNat), s')

def ideal (respond : List UInt8 → Waiting → Waiting) (w : Int32 → Waiting) (a : Action) :
    Answer × (Int32 → Waiting) :=
  match a.2 with
  | .send message length _ =>
      (.sent length.val,
        Function.update w a.lid (respond (read message 0 length.val) (w a.lid)))
  | .receive _ length _ =>
      match w a.lid with
      | [] => (.received (-1) [], w)
      | response :: others =>
          (.received (response.take length.val).length (response.take length.val),
            Function.update w a.lid (leave (response.drop length.val) others))

def Action.Fits (maxRecvSize : Nat) : Action → Prop
  | (_, .send _ length _) => length.val ≤ maxRecvSize
  | (_, .receive ..) => True

section Conforms

variable {handlers : Handlers σ} {links : σ → Set Int32} {waiting : σ → Int32 → Waiting}
  {reads : σ → Int32 → Nat} {respond : List UInt8 → Waiting → Waiting} {maxRecvSize : Nat}
  {clnt : Clnt σ}

/-- A receive does not wait for ever: with enough reads it has ended, and it ends the
same way with more. -/
theorem receive_ideal (h : Conforms handlers links waiting reads respond maxRecvSize)
    (hclnt : Reaches clnt handlers) {data : Vxi11Data} {s : σ} (hlink : data.linkResp.lid ∈ links s)
    (message : Cells UInt8) (length : Length) (timeout : Int) :
    ∃ s' received ret bound, (∀ fuel, bound ≤ fuel →
        receive clnt data message length timeout fuel s = (s', received)) ∧
      received.ret = some ret ∧ links s' = links s ∧
      (.received ret (read received.message 0 ret.toNat), waiting s') =
        ideal respond (waiting s) (data, .receive message length timeout) := by
  have hreceive (replies : List ReadReply) :
      vxi11Receive data message length.val timeout replies =
        receiveLoop data.rpcClient (readParms data length.val timeout) length.val (0 : Nat) (0 : Nat)
          message replies := rfl
  cases hw : waiting s data.linkResp.lid with
  | nil =>
      obtain ⟨s', reply, hrefused, hlinks, hwaiting, hanswers⟩ := answers_idle h hclnt
        (readParms data length.val timeout) length.val 0 hlink hw
      obtain ⟨errors, hloop⟩ : ∃ errors : List Platform.Message, receiveLoop data.rpcClient
          (readParms data length.val timeout) length.val (0 : Nat) (0 : Nat) message [reply] = _ :=
        receiveLoop_refused hrefused (0 : Nat) data.rpcClient (readParms data length.val timeout)
          message []
      refine ⟨s', vxi11Receive data message length.val timeout [reply], -1, 1, fun fuel hfuel => ?_, ?_,
        hlinks, ?_⟩
      · obtain ⟨fuel, rfl⟩ : ∃ n, fuel = n + 1 := ⟨fuel - 1, by omega⟩
        rw [receive, hanswers fuel]
      · rw [hreceive, hloop]
      · simp only [ideal, Action.lid, hw, hwaiting]
        rfl
  | cons response others =>
      have henough := Nat.lt_succ_self (reads s data.linkResp.lid)
      obtain ⟨hlinks, hreceived⟩ := receiveLoop_reaches h hclnt (readParms data length.val timeout)
        length.isInt (Nat.zero_le _) hlink data.rpcClient message response others hw henough
      refine ⟨_, _, _, reads s data.linkResp.lid + 1, fun fuel hfuel => ?_, hreceived.ret, hlinks, ?_⟩
      · rw [receive, answers_stable h hclnt _ (Nat.zero_le length.val) hlink response others hw hfuel
          henough]
        rfl
      · have hbytes := read_store message 0 (response.take length.val)
        simp only [ideal, Action.lid, hw]
        rw [hreceived.after, hreceived.message, Nat.sub_zero, Nat.zero_add]
        simp only [Int.toNat_natCast, Nat.cast_zero, hbytes]
        rfl

theorem step_ideal (h : Conforms handlers links waiting reads respond maxRecvSize)
    (hclnt : Reaches clnt handlers) {s : σ} {a : Action} (hlink : a.lid ∈ links s)
    (hfits : a.Fits maxRecvSize) :
    ∃ s' bound, links s' = links s ∧ waiting s' = (ideal respond (waiting s) a).2 ∧
      ∀ fuel, bound ≤ fuel → step clnt fuel s a = some ((ideal respond (waiting s) a).1, s') := by
  obtain ⟨data, op⟩ := a
  cases op with
  | send message length timeout =>
      obtain ⟨s', hsend, hlinks, hwaiting⟩ := send_reaches h hclnt hlink message hfits timeout
      refine ⟨s', 0, hlinks, hwaiting, fun fuel _ => ?_⟩
      simp only [step, ideal, hsend]
  | receive message length timeout =>
      obtain ⟨s', received, ret, bound, hreceive, hret, hlinks, hideal⟩ :=
        receive_ideal h hclnt hlink message length timeout
      refine ⟨s', bound, hlinks, congrArg Prod.snd hideal, fun fuel hfuel => ?_⟩
      rw [← hideal, step, hreceive fuel hfuel]
      simp only [hret, Option.map_some]

theorem outputs_ideal (h : Conforms handlers links waiting reads respond maxRecvSize)
    (hclnt : Reaches clnt handlers) {s : σ} (as : List Action)
    (has : ∀ a ∈ as, a.lid ∈ links s ∧ a.Fits maxRecvSize) :
    ∃ s' bound, (links s' = links s ∧ waiting s' = (total (ideal respond) (waiting s) as).2) ∧
      ∀ fuel, bound ≤ fuel →
        outputs (step clnt fuel) s as = some ((total (ideal respond) (waiting s) as).1, s') := by
  have hstep (t : σ) (w : Int32 → Waiting) (a : Action) (ha : a.lid ∈ links s ∧ a.Fits maxRecvSize)
      (ht : links t = links s ∧ waiting t = w) :
      ∃ u bound, (links u = links s ∧ waiting u = (ideal respond w a).2) ∧ ∀ fuel, bound ≤ fuel →
        step clnt fuel t a = some ((ideal respond w a).1, u) := by
    obtain ⟨ht, rfl⟩ := ht
    rw [← ht] at ha ⊢
    obtain ⟨u, bound, hlinks, hwaiting, hstep⟩ := step_ideal h hclnt ha.1 ha.2
    exact ⟨u, bound, ⟨hlinks, hwaiting⟩, hstep⟩
  exact outputs_total hstep ⟨rfl, rfl⟩ (meets_of_forall has _)

/-- Whatever calls are made on whatever sessions, with messages that are not too long,
they all return, with what they would do on a queue of responses for every link. -/
theorem run_ideal (h : Conforms handlers links waiting reads respond maxRecvSize)
    (hclnt : Reaches clnt handlers) {s : σ} (as : List Action) (hlinks : ∀ a ∈ as, a.lid ∈ links s)
    (hfits : ∀ a ∈ as, a.Fits maxRecvSize) :
    ∃ s' bound, waiting s' = (total (ideal respond) (waiting s) as).2 ∧ ∀ fuel, bound ≤ fuel →
      outputs (step clnt fuel) s as = some ((total (ideal respond) (waiting s) as).1, s') := by
  obtain ⟨s', bound, ⟨-, hwaiting⟩, hrun⟩ :=
    outputs_ideal h hclnt as fun a ha => ⟨hlinks a ha, hfits a ha⟩
  exact ⟨s', bound, hwaiting, hrun⟩

end Conforms

theorem four_isInt : 4 < 2 ^ 31 := by decide

def inTurn : List Action :=
  [(⟨some 1, ⟨0, 7, 0, 0⟩⟩, .send (fun _ => 65) ⟨4, four_isInt⟩ 1000),
    (⟨some 2, ⟨0, 8, 0, 0⟩⟩, .receive (fun _ => 0) ⟨4, four_isInt⟩ 1000),
    (⟨some 1, ⟨0, 7, 0, 0⟩⟩, .receive (fun _ => 0) ⟨4, four_isInt⟩ 1000)]

theorem inTurn_fits : ∀ a ∈ inTurn, a.Fits 4 := by
  rintro a ha
  simp only [inTurn, List.mem_cons, List.not_mem_nil, or_false] at ha
  rcases ha with rfl | rfl | rfl
  · exact le_rfl
  · trivial
  · trivial

theorem run_ideal_inTurn :
    ∃ s' bound, s' = (total (ideal respondEcho) (fun _ => []) inTurn).2 ∧ ∀ fuel, bound ≤ fuel →
      outputs (step (clientOf echo ⟨true, false, true, false, true⟩) fuel) (fun _ => []) inTurn =
        some ([.sent 4, .received (-1) [], .received 4 [65, 65, 65, 65]], s') :=
  run_ideal (echo_conforms 4) (clientOf_reaches echo ⟨true, false, true, false, true⟩)
    (s := fun _ => []) inTurn (fun _ _ => trivial) inTurn_fits

end Sessions

end LibLxi.RemoteSession

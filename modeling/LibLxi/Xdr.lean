import LibLxi.XdrLanguage

namespace LibLxi.Xdr

open XdrLanguage

inductive Op
  | encode
  | decode
  | free
  deriving DecidableEq

/-- An XDR stream: the bytes put so far, or those still to get; whether it hands
out in-line buffers, with the units left in the one it handed out; whether the
pointers of the object are set before the call; whether the library frees what a
failed decode has allocated, as not every one does; and how many blocks its
routines have allocated and not freed. -/
structure Stream where
  op : Op
  bytes : List UInt8
  inline : Bool
  window : Nat
  preset : Bool
  releases : Bool
  blocks : Int
  deriving DecidableEq

/-- A routine on a stream. The value is missing where the routine returns FALSE. -/
structure Routine (α : Type) where
  run : Stream → Option α × Stream

instance : Monad Routine where
  pure a := ⟨fun s => (some a, s)⟩
  bind m k := ⟨fun s =>
    match m.run s with
    | (some a, t) => (k a).run t
    | (none, t) => (none, t)⟩

variable {α β : Type}

theorem run_bind (m : Routine α) (k : α → Routine β) (s : Stream) :
    (m >>= k).run s = match m.run s with
      | (some a, t) => (k a).run t
      | (none, t) => (none, t) := rfl

def fail : Routine α := ⟨fun s => (none, s)⟩

def byOp (encode decode free : Routine α) : Routine α := ⟨fun s =>
  match s.op with
  | .encode => encode.run s
  | .decode => decode.run s
  | .free => free.run s⟩

def put (bs : List UInt8) : Routine Unit := ⟨fun s => (some (), { s with bytes := s.bytes ++ bs })⟩

def get (d : Decoder α) : Routine α := ⟨fun s =>
  match d s.bytes with
  | some (v, rest) => (some v, { s with bytes := rest })
  | none => (none, s)⟩

/-- Memory for a decoded pointer, unless the pointer is set already. -/
def allocate : Routine Unit := ⟨fun s =>
  (some (), if s.preset = true then s else { s with blocks := s.blocks + 1 })⟩

def release : Routine Unit := ⟨fun s => (some (), { s with blocks := s.blocks - 1 })⟩

/-- What a failed decode has allocated is freed, or left to the caller. -/
def orRelease (m : Routine α) : Routine α := ⟨fun s =>
  match m.run s with
  | (some a, t) => (some a, t)
  | (none, t) =>
      (none, if t.preset = false ∧ t.releases = true then { t with blocks := t.blocks - 1 } else t)⟩

def xdrUnit (toWord : α → UInt32) (ofWord : UInt32 → α) (x : α) : Routine α :=
  byOp (do put (word (toWord x)); return x) (get (takeWord.map ofWord)) (pure x)

abbrev BoolT := Int32

def truth (b : BoolT) : UInt32 := if b = 0 then 0 else 1

def ofTruth (w : UInt32) : BoolT := if w = 0 then 0 else 1

def ofBool (b : Bool) : BoolT := if b then 1 else 0

/-- A bool_t counts as true unless it is zero. -/
def truthOf (b : BoolT) : Bool := decide (b ≠ 0)

def xdrInt (ip : Int32) : Routine Int32 := xdrUnit Int32.toUInt32 UInt32.toInt32 ip

def xdrUInt (up : UInt32) : Routine UInt32 := xdrUnit id id up

def xdrEnum (ep : Int32) : Routine Int32 := xdrUnit Int32.toUInt32 UInt32.toInt32 ep

def xdrBool (bp : BoolT) : Routine BoolT := xdrUnit truth ofTruth bp

def xdrUShort (usp : UInt16) : Routine UInt16 := xdrUnit UInt16.toUInt32 UInt32.toUInt16 usp

def xdrChar (cp : Int8) : Routine Int8 :=
  xdrUnit (fun c => c.toInt32.toUInt32) (fun w => w.toInt32.toInt8) cp

def xdrUChar (cp : UInt8) : Routine UInt8 := xdrUnit UInt8.toUInt32 UInt32.toUInt8 cp

/-- The largest u_int, which is also the bound ~0. -/
def uintMax : UInt32 := 0xffffffff

/-- The most bytes of a text, so that a u_int counts them with the zero behind. -/
def textMax : UInt32 := 0xfffffffe

abbrev Bytes := Counted uintMax

abbrev Text := CText textMax

def noBytes : Bytes := ⟨[], Nat.zero_le _⟩

def noText : Text := ⟨[], Nat.zero_le _, List.not_mem_nil⟩

/-- The count goes out before it is compared with the bound. -/
def putCounted (max : UInt32) (bs : List UInt8) : Routine Unit := do
  put (word (UInt32.ofNat bs.length))
  if UInt32.ofNat bs.length > max then fail else put (padded bs)

def asBytes {max : UInt32} (v : Counted max) : Bytes :=
  ⟨v.bytes, v.bounded.trans (Nat.le_of_lt_succ max.toNat_lt)⟩

/-- No memory is taken for a count of zero. -/
def xdrBytes (max : UInt32) (cpp : Bytes) : Routine Bytes :=
  byOp
    (do putCounted max cpp.bytes; return cpp)
    (do
      let n ← get takeWord
      if h : n ≤ max then
        if n = 0 then return noBytes
        else
          allocate
          orRelease (get ((takePadded n.toNat).map fun v => asBytes (ofPadded h v)))
      else fail)
    (if cpp.bytes = [] then return cpp else do release; return noBytes)

/-- The text takes memory for its last zero, also where it is empty. A count that
leaves no room for that zero is refused. -/
def xdrString (max : UInt32) (cpp : Text) : Routine Text :=
  byOp
    (do putCounted max cpp.bytes; return cpp)
    (do
      let n ← get takeWord
      if h : n ≤ max ∧ n ≤ textMax then
        allocate
        orRelease (get ((takePadded n.toNat).map fun v => textOf (ofPadded h.2 v)))
      else fail)
    (do release; return cpp)

def bytesPerXdrUnit : Nat := 4

/-- Whether the stream hands out a buffer of that many bytes. When it decodes it
has to have them. -/
def xdrInline (len : Nat) : Routine Bool := ⟨fun s =>
  if s.inline = true ∧ (s.op = .decode → len ≤ s.bytes.length) then
    (some true, { s with window := len / bytesPerXdrUnit })
  else (some false, s)⟩

def inlineOr (units : Nat) (buffer plain : Routine α) : Routine α := do
  if ← xdrInline (units * bytesPerXdrUnit) then buffer else plain

/-- A store behind the end of the in-line buffer does not succeed. -/
def ixdrPut (w : UInt32) : Routine Unit := ⟨fun s =>
  match s.window with
  | 0 => (none, s)
  | n + 1 => (some (), { s with bytes := s.bytes ++ word w, window := n })⟩

def ixdrGet : Routine UInt32 := ⟨fun s =>
  match s.window with
  | 0 => (none, s)
  | n + 1 =>
      match takeWord s.bytes with
      | some (w, rest) => (some w, { s with bytes := rest, window := n })
      | none => (none, s)⟩

def ixdrPutLong (v : Int32) : Routine Unit := ixdrPut v.toUInt32

def ixdrPutULong (v : UInt32) : Routine Unit := ixdrPut v

/-- A bool_t goes out as it is, where xdrBool makes it zero or one. -/
def ixdrPutBool (v : BoolT) : Routine Unit := ixdrPut v.toUInt32

def ixdrGetLong : Routine Int32 := do return (← ixdrGet).toInt32

def ixdrGetULong : Routine UInt32 := ixdrGet

def ixdrGetBool : Routine BoolT := do return (← ixdrGet).toInt32

end LibLxi.Xdr

import Mathlib.Tactic.Ring

namespace LibLxi.Platform

/-- Conversion of a value to a C int of 32 bits. -/
def toInt (x : Int) : Int := (x + 2 ^ 31) % 2 ^ 32 - 2 ^ 31

theorem toInt_eq_self {x : Int} (hl : -2 ^ 31 ≤ x) (hu : x < 2 ^ 31) : toInt x = x := by
  rw [toInt]
  omega

theorem toInt_neg {x : Int} (hl : 2 ^ 31 ≤ x) (hu : x < 2 ^ 32) : toInt x < 0 := by
  rw [toInt]
  omega

structure Length where
  val : Nat
  isInt : val < 2 ^ 31
  deriving DecidableEq

/-- On the supported systems EWOULDBLOCK is the same value as EAGAIN. -/
inductive Errno
  | again
  | inProgress
  | other (code : Nat)
  deriving DecidableEq, Inhabited, Repr

/-- What error_printf writes to stderr behind its prefix. The texts of
strerror, gai_strerror and avahi_strerror belong to their libraries. -/
inductive Message
  | text (text : String)
  | strerror (errno : Errno)
  | gaiStrerror (status : Int)
  | avahiStrerror (before : String)
  | code (before : String) (code : Int) (after : String)
  deriving DecidableEq, Repr

structure Timeval where
  sec : Int
  usec : Int
  deriving DecidableEq, Repr

/-- A timeout in milliseconds; both C operators truncate towards zero. -/
def timevalOf (timeout : Int) : Timeval := ⟨timeout.tdiv 1000, timeout.tmod 1000 * 1000⟩

end LibLxi.Platform

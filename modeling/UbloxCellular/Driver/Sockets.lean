import Mathlib.Algebra.GroupWithZero.Nat
import Mathlib.Algebra.Ring.Int.Defs
import Mathlib.Algebra.Ring.Nat
import Mathlib.Data.List.FinRange
import Mathlib.Data.List.Infix
import Mathlib.Logic.Function.Basic
import Mathlib.Tactic.Common

namespace UbloxCellular

namespace NsapiError
def ok : Int := 0
def wouldBlock : Int := -3001
def unsupported : Int := -3002
def parameter : Int := -3003
def noConnection : Int := -3004
def noSocket : Int := -3005
def noMemory : Int := -3007
def authFailure : Int := -3011
def deviceError : Int := -3012
def isConnected : Int := -3015
def connectionLost : Int := -3016
end NsapiError

def toUnsigned (z : Int) : Nat := (z % 2 ^ 32).toNat

def toSigned (n : Nat) : Int :=
  if n % 2 ^ 32 < 2 ^ 31 then (n % 2 ^ 32 : Nat) else (n % 2 ^ 32 : Nat) - 2 ^ 32

def addU (a b : Nat) : Nat := (a + b) % 2 ^ 32

def subU (a b : Nat) : Nat := (a + (2 ^ 32 - b % 2 ^ 32)) % 2 ^ 32

theorem subU_of_le {a b : Nat} (h : b ≤ a) (ha : a < 2 ^ 32) : subU a b = a - b := by
  rw [subU]
  rw [Nat.mod_eq_of_lt (Nat.lt_of_le_of_lt h ha)]
  have he : a + (2 ^ 32 - b) = (a - b) + 2 ^ 32 := by omega
  rw [he,Nat.add_mod_right]
  exact Nat.mod_eq_of_lt (by omega)

theorem addU_of_lt {a b : Nat} (h : a + b < 2 ^ 32) : addU a b = a + b := Nat.mod_eq_of_lt h

theorem toSigned_of_lt {n : Nat} (h : n < 2 ^ 31) : toSigned n = n := by
  rw [toSigned]
  rw [Nat.mod_eq_of_lt (by omega),if_pos h]

theorem toSigned_neg {n : Nat} (h : 2 ^ 31 ≤ n) (hn : n < 2 ^ 32) : toSigned n < 0 := by
  rw [toSigned]
  rw [Nat.mod_eq_of_lt hn,if_neg (by omega)]
  omega

theorem toUnsigned_natCast {n : Nat} (h : n < 2 ^ 32) : toUnsigned n = n := by
  rw [toUnsigned]
  omega

def socketUnused : Int := -1
def socketTimeout : Nat := 1000

abbrev Handle := Fin 7

instance neZero_handles : NeZero 7 := ⟨Nat.succ_ne_zero 6⟩

structure SockCtrl where
  modemHandle : Int
  pending : Nat
  callback : Option Nat
  data : Option Nat
  deriving DecidableEq, Repr

def SockCtrl.cleared : SockCtrl := ⟨socketUnused,0,none,none⟩

abbrev Sockets := Handle → SockCtrl

namespace Sockets

def initial : Sockets := fun _ => .cleared

def findSocket (s : Sockets) (modemHandle : Int) : Option Handle :=
  (List.finRange 7).find? (fun x => (s x).modemHandle = modemHandle)

def clearSocket (s : Sockets) (x : Handle) : Sockets := Function.update s x .cleared

def clearFound (s : Sockets) (modemHandle : Int) : Sockets :=
  (s.findSocket modemHandle).elim s s.clearSocket

def setPending (s : Sockets) (x : Handle) (pending : Nat) : Sockets :=
  Function.update s x { s x with pending := pending }

theorem findSocket_handle {s : Sockets} {h : Int} {x : Handle} (hx : s.findSocket h = some x) :
    (s x).modemHandle = h := by simpa using List.find?_some hx

theorem findSocket_none {s : Sockets} {h : Int} (hx : s.findSocket h = none) (x : Handle) :
    (s x).modemHandle ≠ h := by
  have := List.find?_eq_none.mp hx x (List.mem_finRange x)
  simpa using this

@[simp] theorem clearSocket_self (s : Sockets) (x : Handle) : s.clearSocket x x = .cleared := by
  simp [clearSocket]

theorem clearSocket_other (s : Sockets) {x y : Handle} (h : y ≠ x) : s.clearSocket x y = s y := by
  simp [clearSocket,h]

theorem setPending_handle (s : Sockets) (x y : Handle) (n : Nat) :
    (s.setPending y n x).modemHandle = (s x).modemHandle := by
  rw [setPending]
  by_cases h : x = y
  · subst h
    simp
  · simp [h]

theorem setPending_pending (s : Sockets) (x y : Handle) (n : Nat) :
    (s.setPending y n x).pending = if x = y then n else (s x).pending := by
  rw [setPending]
  split
  · rename_i h
    subst h
    simp
  · rename_i h
    simp [h]

theorem clearSocket_handle (s : Sockets) (x y : Handle) :
    (s.clearSocket x y).modemHandle = if y = x then socketUnused else (s y).modemHandle := by
  by_cases h : y = x
  · subst h
    rw [clearSocket_self,if_pos rfl]
    rfl
  · rw [clearSocket_other s h,if_neg h]

theorem clearFound_handle (s : Sockets) (a : Int) (y : Handle) :
    (s.clearFound a y).modemHandle = (s y).modemHandle ∨
      (s.clearFound a y).modemHandle = socketUnused := by
  rw [clearFound]
  cases s.findSocket a with
  | none => exact .inl rfl
  | some x =>
    rw [Option.elim_some,clearSocket_handle]
    split
    · exact .inr rfl
    · exact .inl rfl

theorem clearFound_only {s : Sockets} {a : Int} {y : Handle} (hy : (s y).modemHandle = a)
    (h : ∀ z, (s z).modemHandle = a → z = y) :
    (s.clearFound a y).modemHandle = socketUnused := by
  rw [clearFound]
  cases hx : s.findSocket a with
  | none => exact absurd hy (findSocket_none hx y)
  | some x =>
    obtain rfl : x = y := h x (findSocket_handle hx)
    rw [Option.elim_some,clearSocket_self]
    rfl

def Sole (id : Int) (x : Handle) (s : Sockets) : Prop := ∀ y, (s y).modemHandle = id ↔ y = x

theorem Sole.find {id : Int} {x : Handle} {s : Sockets} (h : Sole id x s) :
    s.findSocket id = some x := by
  cases hf : s.findSocket id with
  | none => exact absurd ((h x).mpr rfl) (findSocket_none hf x)
  | some y => rw [(h y).mp (findSocket_handle hf)]

theorem Sole.find_other {id a : Int} {x y : Handle} {s : Sockets} (h : Sole id x s) (ha : a ≠ id)
    (hf : s.findSocket a = some y) : y ≠ x := by
  rintro rfl
  exact ha ((findSocket_handle hf).symm.trans ((h y).mpr rfl))

theorem Sole.setPending {id : Int} {x : Handle} {s : Sockets} (h : Sole id x s) (y : Handle)
    (n : Nat) : Sole id x (s.setPending y n) := by
  intro z
  rw [setPending_handle]
  exact h z

end Sockets

end UbloxCellular

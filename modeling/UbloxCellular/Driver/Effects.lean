import UbloxCellular.Interaction.Wp
import Mathlib.Logic.Basic

namespace UbloxCellular
open Interaction

structure Sig where
  State : Type
  Cmd : Type
  Pat : Type → Type
  Call : Type
  ok : Pat Unit
  unnatural : Pat Unit

inductive Hw where
  | modemInit
  | modemPowerUp
  | modemPowerDown
  | modemDeinit
  | setBaud (baud : Int)
  deriving DecidableEq, Repr

inductive Buffer where
  | ipAddress
  | block
  | hexRead
  | hexWrite
  deriving DecidableEq, Repr

inductive Eff (S : Sig) : Type → Type 1 where
  | atTimeout : Eff S Int
  | setAtTimeout (t : Int) : Eff S Unit
  | parserTimeout (t : Int) : Eff S Unit
  | get : Eff S S.State
  | modify (f : S.State → S.State) : Eff S Unit
  | send (c : S.Cmd) : Eff S Bool
  | recv {β : Type} (p : S.Pat β) : Eff S (Option β)
  | read (buf : Nat) (size : Int) : Eff S (Int × List UInt8)
  | write (data : List UInt8) : Eff S Int
  | flush : Eff S Unit
  | poll : Eff S Bool
  | wait (ms : Nat) : Eff S Unit
  | timerStart : Eff S Unit
  | timerReadMs : Eff S Nat
  | malloc (b : Buffer) (size : Nat) : Eff S Bool
  | uninit (β : Type) [Inhabited β] : Eff S β
  | setIpAddress (s : String) : Eff S Bool
  | addressNonzero (s : String) : Eff S Bool
  | apnconfig (imsi : String) : Eff S (Option (List String))
  | connectionStatusCb : Eff S Unit
  | pppConnect (cb : Option Nat) (uname pwd : Option String) : Eff S Int
  | pppDisconnect : Eff S Int
  | hw (h : Hw) : Eff S Unit
  | enter (c : S.Call) : Eff S Unit

instance fact_eq (b : Bool) : Fact (b = b) := ⟨rfl⟩

abbrev Code (S : Sig) := Prog (Locked (Eff S))

namespace Code
variable {S : Sig} {α β : Type}

def act (e : Eff S β) : Code S β := Prog.perform (.act e)

def lock : Code S Unit := Prog.perform .lock
def unlock : Code S Unit := Prog.perform .unlock

def locked (p : Code S α) : Code S α := do
  lock
  let a ← p
  unlock
  return a

def atSetTimeout (timeout : Int) : Code S Unit := do
  act (.setAtTimeout timeout)
  act (.parserTimeout timeout)

def timed (timeout back : Int) (p : Code S α) : Code S α := do
  atSetTimeout timeout
  let a ← p
  atSetTimeout back
  return a

def atTimeout : Code S Int := act .atTimeout
def get : Code S S.State := act .get
def modify (f : S.State → S.State) : Code S Unit := act (.modify f)
def send (c : S.Cmd) : Code S Bool := act (.send c)
def recv (p : S.Pat β) : Code S (Option β) := act (.recv p)
def wait (ms : Nat) : Code S Unit := act (.wait ms)
def hw (h : Hw) : Code S Unit := act (.hw h)
def enter (c : S.Call) : Code S Unit := act (.enter c)

def recvOk : Code S Bool := do
  let r ← recv S.ok
  return r.isSome

def recvUnnatural : Code S Unit := do
  let _ ← recv S.unnatural
  return ()

def exchange (c : S.Cmd) : Code S Bool := (send c).both recvOk

def exchanges : List S.Cmd → Code S Bool
  | [] => pure true
  | c :: cs => (exchange c).both (exchanges cs)

def ask (c : S.Cmd) (p : S.Pat β) : Code S (Option β) := do
  if ← send c then recv p else return none

def void (p : Code S α) : Code S Unit := do
  let _ ← p
  return ()

def handleEvent : Code S Unit :=
  Prog.iterate (fun _ : Unit => do
    if ← act .poll then
      locked do
        let t ← atTimeout
        timed 10 t recvUnnatural
    return (.inl () : Unit ⊕ Unit)) ()

section Frame
variable {G : Type} {F : Frame (Locked (Eff S)) G}

instance keeps_recvOk [F.Keeps (recv S.ok)] : F.Keeps (recvOk : Code S Bool) := by
  rw [recvOk]
  infer_instance

instance keeps_recvUnnatural [F.Keeps (recv S.unnatural)] :
    F.Keeps (recvUnnatural : Code S Unit) := by
  rw [recvUnnatural]
  infer_instance

instance keeps_exchange (c : S.Cmd) [F.Keeps (send c)] [F.Keeps (recv S.ok)] :
    F.Keeps (exchange c) := by
  rw [exchange]
  infer_instance

instance keeps_exchanges (cs : List S.Cmd) [∀ c : S.Cmd, F.Keeps (send c)]
    [F.Keeps (recv S.ok)] : F.Keeps (exchanges cs) := by
  induction cs with
  | nil =>
    rw [exchanges]
    infer_instance
  | cons c cs ih =>
    rw [exchanges]
    infer_instance

instance keeps_ask (c : S.Cmd) (p : S.Pat β) [F.Keeps (send c)] [F.Keeps (recv p)] :
    F.Keeps (ask c p) := by
  rw [ask]
  infer_instance

instance keeps_void {p : Code S α} [F.Keeps p] : F.Keeps (void p) := by
  rw [void]
  infer_instance

instance keeps_locked {p : Code S α} [F.Keeps (lock : Code S Unit)]
    [F.Keeps (unlock : Code S Unit)] [F.Keeps p] : F.Keeps (locked p) := by
  rw [locked]
  infer_instance

end Frame

end Code

end UbloxCellular

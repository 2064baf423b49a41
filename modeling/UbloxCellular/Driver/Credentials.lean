import Mathlib.Data.List.Basic

namespace UbloxCellular

inductive Security where
  | none
  | wep
  | wpa
  | wpa2
  | wpaWpa2
  | pap
  | chap
  | unknown
  deriving DecidableEq, Repr

def securityToModem : Security → Int
  | .none => 0
  | .pap => 1
  | .chap => 2
  | _ => 3

structure Credentials where
  apn : Option String
  uname : Option String
  pwd : Option String
  deriving DecidableEq, Repr

def apnGet : List String → String × List String
  | [] => ("", [])
  | s :: rest => (s, rest)

def hasMore (config : Option (List String)) : Bool :=
  config.elim false (fun l => (apnGet l).1 ≠ "")

def restCredentials (config : Option (List String)) : Option (List String) :=
  config.map (fun l => (apnGet (apnGet (apnGet l).2).2).2)

def triplesLeft (config : Option (List String)) : Nat := config.elim 0 List.length

theorem rest_shorter {config : Option (List String)}
    (h : hasMore (restCredentials config) = true) :
    triplesLeft (restCredentials config) < triplesLeft config := by
  rcases config with _ | l
  · cases h
  · rcases l with _ | ⟨a,_ | ⟨b,_ | ⟨c,l⟩⟩⟩
    · cases h
    · cases h
    · cases h
    · change l.length < l.length + 1 + 1 + 1
      omega

namespace Credentials

def read (config : Option (List String)) (c : Credentials) : Credentials :=
  config.elim c (fun l =>
    let apn := apnGet l
    let uname := apnGet apn.2
    let pwd := apnGet uname.2
    ⟨some apn.1,some uname.1,some pwd.1⟩)

def fillBlank (c : Credentials) : Credentials :=
  ⟨some (c.apn.getD ""),some (c.uname.getD ""),some (c.pwd.getD "")⟩

def next (config : Option (List String)) (c : Credentials) : Credentials :=
  (c.read config).fillBlank

def given (apn uname pwd : Option String) (c : Credentials) : Credentials where
  apn := apn.orElse (fun _ => c.apn)
  uname := if uname.isSome ∧ pwd.isSome then uname else none
  pwd := if uname.isSome ∧ pwd.isSome then pwd else none

end Credentials

end UbloxCellular

import UbloxCellular.N2xx.State

namespace UbloxCellular.N2xx
open Interaction Code

abbrev N2xxCode := Code sig

variable {β : Type}

def Base.isRegisteredCsd (b : Base) : Bool :=
  b.devInfo.regStatusCsd = 1 || b.devInfo.regStatusCsd = 5 || b.devInfo.regStatusCsd = 9

def Base.isRegisteredPsd (b : Base) : Bool :=
  b.devInfo.regStatusPsd = 1 || b.devInfo.regStatusPsd = 5

def Base.isRegisteredEps (b : Base) : Bool :=
  b.devInfo.regStatusEps = 1 || b.devInfo.regStatusEps = 5

def DeviceInfo.notRegistered (i : DeviceInfo) : DeviceInfo :=
  { i with regStatusCsd := 0, regStatusPsd := 0, regStatusEps := 0 }

def strstr (buf s : String) : Bool := decide (s.toList <:+: buf.toList)

def isSpace (c : Char) : Bool := c = ' ' || ('\t' ≤ c && c ≤ '\r')

inductive Scan where
  | eof
  | mismatch
  | value (n : Int) (rest : List Char)
  deriving DecidableEq, Repr

def scanDigits (sign : Int) (s : List Char) : Scan :=
  let digits := s.takeWhile Char.isDigit
  if digits = [] then .mismatch
  else .value (sign * digits.foldl (fun n c => 10 * n + (c.toNat - '0'.toNat)) 0)
    (s.dropWhile Char.isDigit)

def scanInt (s : List Char) : Scan :=
  match s.dropWhile isSpace with
  | [] => .eof
  | '-' :: rest => scanDigits (-1) rest
  | '+' :: rest => scanDigits 1 rest
  | rest => scanDigits 1 rest

def scanCsq (resp : String) : Int × Option Int :=
  match scanInt resp.toList with
  | .eof => (-1, none)
  | .mismatch => (0, none)
  | .value n _ => (1, some n)

def scanCscon (resp : String) : Int × Option Int :=
  match scanInt resp.toList with
  | .eof => (-1, none)
  | .mismatch => (0, none)
  | .value _ (',' :: rest) =>
    match scanInt rest with
    | .value stat _ => (2, some stat)
    | _ => (1, none)
  | .value _ _ => (1, none)

def atReq (cmd : Cmd) (recvFormat : Pat β) (store : β → N2xxCode Unit) :
    N2xxCode (Bool × Option β) := locked do
  let r ← ask cmd recvFormat
  r.elim (pure (false, none)) fun response => do
    store response
    let success ← recvOk
    return (success, some response)

def atSend (cmd : Cmd) : N2xxCode Bool := locked (exchange cmd)

def readInfo (cmd : Cmd) (recvFormat : Pat String) (store : String → Driver → Driver) :
    N2xxCode Bool := do
  let r ← atReq cmd recvFormat (fun response => modify (store response))
  return r.1

def cgmi : (String → Driver → Driver) → N2xxCode Bool := readInfo .cgmi .line
def cgmm : (String → Driver → Driver) → N2xxCode Bool := readInfo .cgmm .line
def cimi : (String → Driver → Driver) → N2xxCode Bool := readInfo .cimi .line
def ccid : (String → Driver → Driver) → N2xxCode Bool := readInfo .nccid .nccid
def cgmr : (String → Driver → Driver) → N2xxCode Bool := readInfo .cgmr .line
def cgsn (snt : Int) : (String → Driver → Driver) → N2xxCode Bool := readInfo (.cgsn snt) .cgsn

def getSaraN2xxInfo : N2xxCode Bool :=
  (cgmi (fun s => Driver.onSara (fun i => { i with cgmi := s }))).both <|
  (cgmm (fun s => Driver.onSara (fun i => { i with cgmm := s }))).both <|
  (cgmr (fun s => Driver.onSara (fun i => { i with cgmr := s }))).both
  (cgsn 1 (fun s => Driver.onSara (fun i => { i with cgsn := s })))

def cereg (n : Int) : N2xxCode Bool := atSend (.cereg n)

def getCereg : N2xxCode Int := locked do
  if ← atSend .ceregQuery then
    let d ← get
    return d.base.devInfo.regStatusEps.toNat
  else return NsapiError.deviceError

def getCscon : N2xxCode Int := do
  let r ← atReq .csconQuery .cscon (fun _ => pure ())
  if r.1 then
    let scan := scanCscon (r.2.getD "")
    if scan.1 ≠ 0 then scan.2.elim (act (.uninit Int)) pure else return NsapiError.deviceError
  else return NsapiError.deviceError

def getCsq : N2xxCode Int := do
  lock
  let r ← atReq .csq .csq (fun _ => pure ())
  let scan := scanCsq (r.2.getD "")
  if r.1 ∧ scan.1 ≠ 0 then return scan.2.getD NsapiError.deviceError
  else do
    unlock
    return NsapiError.deviceError

def copsPlmn (plmn : String) : N2xxCode Bool := atSend (.copsPlmn plmn)
def cops (mode : Int) : N2xxCode Bool := atSend (.cops mode)
def getCops : N2xxCode (Bool × Option Int) := atReq .copsQuery .cops (fun _ => pure ())
def cfun (mode : Int) : N2xxCode Bool := atSend (.cfun mode)
def reboot : N2xxCode Bool := atSend .nrb
def nconfig (name : String) (state : Bool) : N2xxCode Bool := atSend (.nconfig name state)
def autoConnect (state : Bool) : N2xxCode Bool := nconfig "AUTOCONNECT" state

def getIccid : N2xxCode Bool := ccid (fun s => Driver.onInfo (fun i => { i with iccid := s }))
def getImsi : N2xxCode Bool := cimi (fun s => Driver.onInfo (fun i => { i with imsi := s }))
def getImei : N2xxCode Bool := cgsn 1 (fun s => Driver.onInfo (fun i => { i with imei := s }))
def getMeid : N2xxCode Bool := return false
def setSms : N2xxCode Bool := return false

def powerUp : N2xxCode Bool := locked do
  let timeout ← atTimeout
  hw .modemInit
  wait 5000
  let success ← timed 1000 timeout (Prog.upTo id (fun _ => do
    act .flush
    atSend .at) 20 false)
  if success then atSend .cmee else return false

def powerDown : N2xxCode Unit := locked do
  hw .modemPowerDown
  hw .modemDeinit
  modify (Driver.onInfo DeviceInfo.notRegistered)

def setDeviceIdentity : N2xxCode Bool := locked do
  let r ← atReq .cgmm .identity (fun _ => pure ())
  if r.1 ∧ strstr (r.2.getD "") "Neul Hi2110" then
    modify (Driver.onInfo (fun i => { i with dev := .saraN2 }))
  return r.1

def deviceInit (_dev : DeviceType) : N2xxCode Bool := return true

def initialiseSimCard : N2xxCode Bool := return true

def init (pin : Option String) : N2xxCode Bool := do
  let d ← get
  if d.base.modemInitialised then return true
  else do
    if ← powerUp then
      if pin.isSome then
        modify (Driver.onBase (fun b => { b with pin := pin }))
      if ← initialiseSimCard then
        if ← setDeviceIdentity then
          let d ← get
          if ← (deviceInit d.base.devInfo.dev).both getSaraN2xxInfo then
            modify (Driver.onBase (fun b => { b with modemInitialised := true }))
    let d ← get
    return d.base.modemInitialised

def nwkRegistration : N2xxCode Bool := locked do
  let timeout ← atTimeout
  if ← cereg 1 then
    let r ← getCops
    if r.1 ∧ r.2 ≠ some 0 then
      let _ ← cops 0
    let _ ← getCereg
    let d ← get
    timed 1000 timeout (Prog.upTo id (fun _ => do
      recvUnnatural
      let d ← get
      return d.base.isRegisteredEps) 180 d.base.isRegisteredEps)
  else return false

def nwkDeregistration : N2xxCode Bool := do
  if ← cops 2 then
    wait 1000
    modify (Driver.onInfo DeviceInfo.notRegistered)
    return true
  else return false

def deinit : N2xxCode Unit := do
  powerDown
  modify (Driver.onBase (fun b => { b with modemInitialised := false }))

def setPin (pin : Option String) : N2xxCode Unit :=
  modify (Driver.onBase (fun b => { b with pin := pin }))

def simPinCheckEnable (_enableNotDisable : Bool) : N2xxCode Bool := return false

def changeSimPin (_pin : Option String) : N2xxCode Bool := return false

end UbloxCellular.N2xx

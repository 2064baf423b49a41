import UbloxCellular.Gsm.State

namespace UbloxCellular.Gsm
open Interaction Code

variable {I : Type}

abbrev BaseCode (I : Type) := Code (sig I)

def Base.isRegisteredCsd (b : Base) : Bool :=
  b.devInfo.regStatusCsd = 1 || b.devInfo.regStatusCsd = 5 || b.devInfo.regStatusCsd = 9

def Base.isRegisteredPsd (b : Base) : Bool :=
  b.devInfo.regStatusPsd = 1 || b.devInfo.regStatusPsd = 5

def Base.isRegisteredEps (b : Base) : Bool :=
  b.devInfo.regStatusEps = 1 || b.devInfo.regStatusEps = 5

def Base.isRegistered (b : Base) : Bool :=
  b.isRegisteredPsd || b.isRegisteredCsd || b.isRegisteredEps

def DeviceInfo.notRegistered (i : DeviceInfo) : DeviceInfo :=
  { i with regStatusCsd := 0, regStatusPsd := 0, regStatusEps := 0 }

def strstr (buf s : String) : Bool := decide (s.toList <:+: buf.toList)

def identify (buf : String) (dev : DeviceType) : DeviceType :=
  if strstr buf "SARA-G35" then .saraG35
  else if strstr buf "LISA-U200-03S" then .lisaU203S
  else if strstr buf "LISA-U2" then .lisaU2
  else if strstr buf "SARA-U2" then .saraU2
  else if strstr buf "LEON-G2" then .leonG2
  else if strstr buf "TOBY-L2" then .tobyL2
  else if strstr buf "MPCI-L2" then .mpciL2
  else dev

def readInfo (c : Cmd) (p : Pat String) (store : String → DeviceInfo → DeviceInfo) :
    BaseCode I Bool := locked do
  let r ← ask c p
  r.elim (pure false) fun s => do
    modify (Driver.onInfo (store s))
    return true

def getIccid : BaseCode I Bool := readInfo .ccid .ccid (fun s i => { i with iccid := s })
def getImsi : BaseCode I Bool := readInfo .cimi .cimi (fun s i => { i with imsi := s })
def getImei : BaseCode I Bool := readInfo .cgsn .cgsn (fun s i => { i with imei := s })
def getMeid : BaseCode I Bool := readInfo .gsn .gsn (fun s i => { i with meid := s })

def setSms : BaseCode I Bool := locked do
  if ← exchanges [.cmgf,.cnmi,.cgsms] then
    let r ← ask .cscaQuery .csca
    r.elim (pure true) fun _ => do
      let _ ← recvOk
      return true
  else return false

def powerUpTry (timeout : Int) : BaseCode I Bool := do
  hw .modemPowerUp
  wait 500
  act .flush
  timed 1000 timeout do
    if ← send .at then
      wait 100
      recvOk
    else return false

def powerUp : BaseCode I Bool := locked do
  let timeout ← atTimeout
  hw .modemInit
  wait 250
  let success ← Prog.upTo id (fun _ => powerUpTry timeout) 20 false
  if success then
    let d ← get
    if ← exchange (.ipr d.base.baud) then
      wait 100
      hw (.setBaud d.base.baud)
    exchanges [.ate0Cmee,.k0,.c1,.d0]
  else return false

def powerDown : BaseCode I Unit := locked do
  let d ← get
  if d.base.modemInitialised then
    let _ ← exchange .cpwroff
  hw .modemPowerDown
  hw .modemDeinit
  modify (Driver.onInfo DeviceInfo.notRegistered)

def setDeviceIdentity : BaseCode I Bool := locked do
  let r ← ask .ati .ati
  r.elim (pure false) fun buf => do
    modify (Driver.onInfo (fun i => { i with dev := identify buf i.dev }))
    return true

def deviceInit (dev : DeviceType) : BaseCode I Bool := locked do
  if dev = .lisaU2 ∨ dev = .leonG2 ∨ dev = .tobyL2 then exchange (.ugpioc 20)
  else if dev = .saraU2 ∨ dev = .saraG35 then exchange (.ugpioc 16)
  else return true

def cpinAnswer (pinstr : String) : BaseCode I Bool :=
  if pinstr = "SIM PIN" then do
    modify (Driver.onBase (fun b => { b with simPinCheckEnabled := true }))
    let d ← get
    exchange (.cpin d.base.pin)
  else if pinstr = "READY" then do
    modify (Driver.onBase (fun b => { b with simPinCheckEnabled := false }))
    return true
  else return false

def simTry (s : Bool × Bool) : BaseCode I (Bool × Bool) := do
  let r ← ask .cpinQuery .cpin
  let s ← r.elim (pure s) fun pinstr => do
    if ← recvOk then
      let success ← cpinAnswer pinstr
      return (true, success)
    else return s
  wait 1000
  return s

def initialiseSimCard : BaseCode I Bool := locked do
  let s ← Prog.upTo Prod.fst simTry 10 (false, false)
  return s.2

def initAfterSim : BaseCode I Bool := do
  if ← setDeviceIdentity then
    let d ← get
    if ← deviceInit d.base.devInfo.dev then
      if ← getIccid then
        let gotImsi ← Prog.upTo id (fun _ => do
          let got ← getImsi
          if got then return true else
            wait 1000
            return false) 3 false
        if gotImsi then (getImei.both getMeid).both setSms else return false
      else return false
    else return false
  else return false

def init (pin : Option String) : BaseCode I Bool := do
  enter .init
  let d ← get
  if d.base.modemInitialised then return true
  else do
    if ← powerUp then
      if pin.isSome then
        modify (Driver.onBase (fun b => { b with pin := pin }))
      if ← initialiseSimCard then
        if ← initAfterSim then
          modify (Driver.onBase (fun b => { b with modemInitialised := true }))
    let d ← get
    return d.base.modemInitialised

def enableUrcs : BaseCode I Unit := do
  if ← exchanges [.creg,.cgreg] then
    let _ ← exchange .cereg
    let r ← ask .copsQuery .cops
    r.elim (pure ()) fun status => do
      if ← recvOk then
        if status ≠ 0 then
          let _ ← exchange (.cops 0)
    let _ ← exchange .cregQuery
    let _ ← exchange .cgregQuery
    let _ ← exchange .ceregQuery

def nwkRegistration : BaseCode I Bool := do
  enter .nwkRegistration
  locked do
    let timeout ← atTimeout
    let d ← get
    if d.base.isRegistered then return true
    else do
      enableUrcs
      let registered ← timed 1000 timeout (Prog.upTo id (fun _ => do
        let d ← get
        recvUnnatural
        return d.base.isRegistered) 180 false)
      if registered then
        timed 1000 timeout do
          let r ← ask .copsQuery .copsAct
          r.elim (pure ()) fun status =>
            modify (Driver.onInfo (fun i => { i with rat := UInt8.ofInt status }))
      return registered

def nwkDeregistration : BaseCode I Bool := locked do
  if ← exchange (.cops 2) then
    modify (Driver.onInfo DeviceInfo.notRegistered)
    return true
  else return false

def deinit : BaseCode I Unit := do
  powerDown
  modify (Driver.onBase (fun b => { b with modemInitialised := false }))

def setPin (pin : Option String) : BaseCode I Unit :=
  modify (Driver.onBase (fun b => { b with pin := pin }))

def simLock (enable : Bool) (mode : Nat) : BaseCode I Bool := do
  let d ← get
  if ← exchange (.clck mode d.base.pin) then
    modify (Driver.onBase (fun b => { b with simPinCheckEnabled := enable }))
    return true
  else return false

def simPinCheckEnable (enableNotDisable : Bool) : BaseCode I Bool := do
  enter (.simPinCheckEnable enableNotDisable)
  locked do
    let d ← get
    if d.base.pin.isSome then
      if d.base.simPinCheckEnabled && !enableNotDisable then simLock false 0
      else if !d.base.simPinCheckEnabled && enableNotDisable then simLock true 1
      else return true
    else return false

def changeSimPin (pin : Option String) : BaseCode I Bool := do
  enter (.changeSimPin pin)
  locked do
    let d ← get
    if pin.isSome && d.base.pin.isSome then
      if ← exchange (.cpwd d.base.pin pin) then
        modify (Driver.onBase (fun b => { b with pin := pin }))
        return true
      else return false
    else return false

end UbloxCellular.Gsm

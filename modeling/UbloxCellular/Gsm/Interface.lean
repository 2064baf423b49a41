import UbloxCellular.Gsm.Base

namespace UbloxCellular.Gsm
open Interaction Code

abbrev AtCode := Code (sig AtInterface)

inductive Urc where
  | uusord (socket length : Int)
  | uusorf (socket length : Int)
  | uusocl (socket : Int)
  | uupsdd (socket : Int)
  | creg (status : Int)
  | cgreg (status : Int)
  | cereg (status : Int)
  deriving DecidableEq, Repr

def pendingUrc (socket length : Int) (s : Sockets) : Sockets :=
  (s.findSocket socket).elim s (fun x => s.setPending x (toUnsigned length))

theorem pendingUrc_handle (s : Sockets) (x : Handle) (a n : Int) :
    (pendingUrc a n s x).modemHandle = (s x).modemHandle := by
  rw [pendingUrc]
  cases s.findSocket a with
  | none => rfl
  | some y => exact Sockets.setPending_handle s x y _

def Urc.handle : Urc → Driver AtInterface → Driver AtInterface
  | .uusord a b => Driver.onSockets (pendingUrc a b)
  | .uusorf a b => Driver.onSockets (pendingUrc a b)
  | .uusocl a => Driver.onSockets (fun s => s.clearFound a)
  | .uupsdd a => Driver.onSockets (fun s => s.clearFound a)
  | .creg status => Driver.onInfo (fun i => { i with regStatusCsd := UInt8.ofInt status })
  | .cgreg status => Driver.onInfo (fun i => { i with regStatusPsd := UInt8.ofInt status })
  | .cereg status => Driver.onInfo (fun i => { i with regStatusEps := UInt8.ofInt status })

def getNextCredentials (config : Option (List String)) : AtCode (Option (List String)) := do
  modify (Driver.onCred (.next config))
  return restCredentials config

def activate (timeout : Int) : AtCode Bool := timed 30000 timeout (exchange (.upsda 3))

def tryProtocol (timeout : Int) (activated : Bool) (protocol : Int) : AtCode Bool := do
  let d ← get
  if d.iface.auth = .unknown ∨ securityToModem d.iface.auth = protocol then
    if ← exchange (.upsdAuth protocol) then activate timeout else return activated
  else return activated

def activateProfile (apn username password : String) (_auth : Security) : AtCode Bool := do
  let timeout ← atTimeout
  let success ← if apn ≠ "" then exchange (.upsdApn apn) else pure false
  let success ← if success ∧ username ≠ "" then exchange (.upsdUsername username)
    else pure success
  let success ← if success ∧ password ≠ "" then exchange (.upsdPassword password)
    else pure success
  if success then
    if ← exchange .upsdDynamicIp then
      let activated ← tryProtocol timeout false 0
      let activated ← tryProtocol timeout activated 1
      tryProtocol timeout activated 2
    else return false
  else return false

def activateProfileReuseExternal : AtCode Bool := do
  let timeout ← atTimeout
  let r ← ask .cgdcontQuery .cgdcont
  let cid ← r.elim (pure (-1 : Int)) fun answer => do
    if ← recvOk then
      if ← act (.setIpAddress answer.2) then return answer.1 else return -1
    else return -1
  if cid ≠ -1 then
    if ← exchange (.upsdCid cid) then activate timeout else return false
  else return false

def activateProfileByCid (cid : Int) (apn username password : String) (auth : Security) :
    AtCode Bool := do
  let timeout ← atTimeout
  if ← exchanges [.cgdcont cid apn,.uauthreq cid (securityToModem auth) username password,
      .upsdCid cid] then
    activate timeout
  else return false

def connectOnce (config : Option (List String)) : AtCode (Bool × Option (List String)) := do
  let config ← getNextCredentials config
  modify (Driver.onIface (fun i =>
    { i with auth :=
        if i.cred.uname.getD "" ≠ "" ∧ i.cred.pwd.getD "" ≠ "" then i.auth else .none }))
  let d ← get
  let apn := d.iface.cred.apn.getD ""
  let uname := d.iface.cred.uname.getD ""
  let pwd := d.iface.cred.pwd.getD ""
  enter (.attempt apn uname pwd d.iface.auth)
  let success ←
    if d.base.devInfo.dev ≠ .tobyL2 ∧ d.base.devInfo.dev ≠ .mpciL2 then
      activateProfile apn uname pwd d.iface.auth
    else do
      if ← activateProfileReuseExternal then pure true
      else activateProfileByCid 1 apn uname pwd d.iface.auth
  return (success, config)

def connectLoop (config : Option (List String)) : AtCode Bool :=
  Prog.iterate (fun config => do
    let r ← connectOnce config
    return if !r.1 && hasMore r.2 then .inl r.2 else .inr r.1) config

def connectModemStack : AtCode Bool := locked do
  let r ← ask (.upsnd 8) .upsndStatus
  r.elim (pure false) fun active => do
    if ← recvOk then
      if active = 0 then
        let d ← get
        let config ← if d.iface.cred.apn = none then act (.apnconfig d.base.devInfo.imsi)
          else pure none
        connectLoop config
      else return true
    else return false

def checkIpAddress : AtCode Bool := do
  let r ← ask (.upsnd 0) .upsndIp
  r.elim (pure false) fun ip => do
    modify (Driver.onIface (fun i => { i with ip := some ip }))
    if ← recvOk then
      if ← act (.setIpAddress ip) then act (.addressNonzero ip) else return false
    else return false

def getIpAddress : AtCode (Option String) := do
  locked do
    let d ← get
    if d.iface.ip = none then
      if ← act (.malloc .ipAddress 0) then
        modify (Driver.onIface (fun i => { i with ip := some "" }))
    let d ← get
    if d.iface.ip ≠ none then
      modify (Driver.onIface (fun i => { i with ip := some "" }))
      if !(← checkIpAddress) then
        modify (Driver.onIface (fun i => { i with ip := none }))
  let d ← get
  return d.iface.ip

def disconnectModemStack : AtCode Bool := locked do
  let ip ← getIpAddress
  if ip ≠ none then
    if ← exchange (.upsda 4) then
      act .connectionStatusCb
      return true
    else return false
  else return false

inductive Protocol where
  | tcp
  | udp
  | other
  deriving DecidableEq, Repr

def openReply (x : Handle) : AtCode (Int × Option Handle) := do
  let r ← recv .usocr
  r.elim (pure (NsapiError.noSocket, none)) fun modemHandle => do
    if modemHandle ≠ socketUnused then
      if ← recvOk then
        modify (Driver.onSockets (fun s =>
          Function.update (s.clearSocket x) x { SockCtrl.cleared with modemHandle := modemHandle }))
        return (NsapiError.ok, some x)
      else return (NsapiError.noSocket, none)
    else return (NsapiError.noSocket, none)

def openWith (x : Handle) (proto : Int) : AtCode (Int × Option Handle) := do
  if ← send (.usocr proto none) then openReply x else return (NsapiError.deviceError, none)

def socketOpen (proto : Protocol) : AtCode (Int × Option Handle) := locked do
  let d ← get
  (d.iface.sockets.findSocket socketUnused).elim (pure (NsapiError.noMemory, none)) fun x =>
    match proto with
    | .udp => openWith x 17
    | .tcp => openWith x 6
    | .other => pure (NsapiError.unsupported, none)

def closeExchange (x : Handle) : AtCode Bool := do
  let d ← get
  exchange (.usocl (d.iface.sockets x).modemHandle)

def socketClose (x : Handle) : AtCode Int := locked do
  if ← closeExchange x then
    modify (Driver.onSockets (fun s => s.clearSocket x))
    return NsapiError.ok
  else return NsapiError.deviceError

def reopen (x : Handle) (savedSocket : SockCtrl) (proto : Int) (port : Nat) : AtCode Int := do
  let r ← ask (.usocr proto (some port)) .usocr
  r.elim (pure NsapiError.connectionLost) fun modemHandle => do
    if modemHandle ≠ socketUnused then
      if ← recvOk then
        modify (Driver.onSockets (fun s => Function.update s x savedSocket))
        return NsapiError.ok
      else return NsapiError.connectionLost
    else return NsapiError.connectionLost

def socketBind (x : Handle) (port : Nat) : AtCode Int := locked do
  let d ← get
  let r ← ask (.usoctl (d.iface.sockets x).modemHandle) .usoctl
  r.elim (pure NsapiError.noSocket) fun proto => do
    if ← recvOk then
      let d ← get
      let savedSocket := d.iface.sockets x
      if ← closeExchange x then
        modify (Driver.onSockets (fun s => s.clearSocket x))
        reopen x savedSocket proto port
      else return NsapiError.deviceError
    else return NsapiError.noSocket

def socketConnect (x : Handle) (ip : String) (port : Nat) : AtCode Int := locked do
  let d ← get
  if ← exchange (.usoco (d.iface.sockets x).modemHandle ip port) then return NsapiError.ok
  else return NsapiError.deviceError

def sendBlock (command : Int → Cmd) (x : Handle) (block : List UInt8) : AtCode Bool := locked do
  let d ← get
  let r ← ask (command (d.iface.sockets x).modemHandle) .prompt
  r.elim (pure false) fun _ => do
    wait 50
    let written ← act (.write block)
    if written < toSigned block.length then return false else recvOk

structure SendState where
  success : Bool
  buf : Nat
  blk : Nat
  count : Nat
  deriving DecidableEq, Repr

def sendLoop (command : Nat → Int → Cmd) (x : Handle) (data : List UInt8) : AtCode SendState :=
  Prog.iterate (fun s : SendState => do
    if 0 < s.count ∧ s.success then
      let blk := if s.count < s.blk then s.count else s.blk
      let success ← sendBlock (command blk) x ((data.drop s.buf).take blk)
      return .inl { success := success, buf := s.buf + blk, blk := blk, count := subU s.count blk }
    else return .inr s) ⟨true,0,maxWriteSize,data.length⟩

def sendResult (size : Nat) (s : SendState) : Int :=
  if s.success then toSigned (subU size s.count) else NsapiError.deviceError

def socketSend (x : Handle) (data : List UInt8) : AtCode Int := do
  let s ← sendLoop (fun blk id => .usowr id blk) x data
  return sendResult data.length s

def socketSendto (x : Handle) (ip : String) (port : Nat) (data : List UInt8) : AtCode Int := do
  let s ← sendLoop (fun blk id => .usost id ip port blk) x data
  return sendResult data.length s

structure RecvState where
  success : Bool
  buf : Nat
  count : Nat
  size : Nat
  error : Int
  data : List UInt8
  address : Option (String × Int)
  deriving DecidableEq, Repr

def RecvState.start (size : UInt32) : RecvState :=
  ⟨true,0,0,size.toNat,NsapiError.deviceError,[],none⟩

def RecvState.fail (s : RecvState) : RecvState := { s with success := false }

def RecvState.timedOut (s : RecvState) : RecvState :=
  if s.count = 0 then { s with success := false, error := NsapiError.wouldBlock, size := 0 }
  else { s with size := 0 }

def RecvState.store (s : RecvState) (readSz : Int) (bytes : List UInt8) : RecvState :=
  { s with count := addU s.count (toUnsigned readSz), buf := s.buf + readSz.toNat,
           size := subU s.size (toUnsigned readSz), data := s.data ++ bytes.take readSz.toNat }

def RecvState.result (s : RecvState) : Int := if s.success then toSigned s.count else s.error

def subPending (x : Handle) (n : Nat) : AtCode Unit :=
  modify (Driver.onSockets (fun s => s.setPending x (subU (s x).pending n)))

def recvWait (s : RecvState) : AtCode RecvState := do
  let ms ← act .timerReadMs
  if ms < socketTimeout then
    recvUnnatural
    return s
  else return s.timedOut

def recvBlock (x : Handle) (s : RecvState) : AtCode RecvState := do
  let d ← get
  let r ← ask (.usord (d.iface.sockets x).modemHandle (min maxReadSize s.size)) .usord
  r.elim (pure s.fail) fun usordSz => do
    subPending x usordSz
    let usordSz := min usordSz s.size
    let read ← act (.read s.buf (toSigned usordSz))
    let s := if 0 < read.1 then s.store read.1 read.2 else s.fail
    let _ ← recvOk
    return s

def recvIteration (block : Handle → RecvState → AtCode RecvState) (x : Handle) (s : RecvState) :
    AtCode RecvState := locked do
  let timeout ← atTimeout
  timed 1000 timeout do
    let d ← get
    if 0 < (d.iface.sockets x).pending then block x s else recvWait s

def recvLoop (block : Handle → RecvState → AtCode RecvState) (x : Handle) (size : UInt32) :
    AtCode RecvState := do
  act .timerStart
  Prog.iterate (fun s : RecvState => do
    if s.success ∧ 0 < s.size then
      let s ← recvIteration block x s
      return .inl s
    else return .inr s) (RecvState.start size)

def socketRecv (x : Handle) (size : UInt32) : AtCode (Int × List UInt8) := do
  let s ← recvLoop recvBlock x size
  return (s.result, s.data)

def recvfromBlock (x : Handle) (s : RecvState) : AtCode RecvState := do
  let d ← get
  let readBlk := min maxReadSize s.size
  let r ← ask (.usorf (d.iface.sockets x).modemHandle readBlk) .usorf
  r.elim (pure s.fail) fun reply => do
    subPending x reply.2.2
    let usorfSz := min reply.2.2 s.size
    let read ← act (.read s.buf (toSigned usorfSz))
    let s ← if 0 < read.1 then do
        let _ ← act (.setIpAddress reply.1)
        let s := { s.store read.1 read.2 with address := some (reply.1, reply.2.1) }
        pure (if usorfSz < readBlk ∨ usorfSz = maxReadSize then { s with size := 0 } else s)
      else pure s.fail
    let _ ← recvOk
    return s

def socketRecvfrom (x : Handle) (size : UInt32) :
    AtCode (Int × List UInt8 × Option (String × Int)) := do
  let s ← recvLoop recvfromBlock x size
  return (s.result, s.data, s.address)

def socketAttach (x : Handle) (callback data : Option Nat) : AtCode Unit :=
  modify (Driver.onSockets (fun s =>
    Function.update s x { s x with callback := callback, data := data }))

def unsupported : AtCode Int := return NsapiError.unsupported

def setAuthentication (auth : Security) : AtCode Unit :=
  modify (Driver.onIface (fun i => { i with auth := auth }))

def setCredentials (apn uname pwd : Option String) : AtCode Unit :=
  modify (Driver.onCred (fun _ => ⟨apn,uname,pwd⟩))

def gethostbyname (host : String) : AtCode Int := do
  if ← act (.setIpAddress host) then return NsapiError.ok
  else locked do
    let timeout ← atTimeout
    timed 60000 timeout do
      let r ← ask (.udnsrn host) .udnsrn
      r.elim (pure NsapiError.deviceError) fun ip => do
        if ← recvOk then
          if ← act (.setIpAddress ip) then return NsapiError.ok
          else return NsapiError.deviceError
        else return NsapiError.deviceError

def pendingSimActions : AtCode Int := do
  let d ← get
  let error ← if d.iface.simPinCheckChangePending then do
      let done ← simPinCheckEnable d.iface.simPinCheckChangePendingEnabledValue
      modify (Driver.onIface (fun i => { i with simPinCheckChangePending := false }))
      pure (if done then NsapiError.noConnection else NsapiError.authFailure)
    else pure NsapiError.noConnection
  let d ← get
  if d.iface.simPinChangePending then
    let done ← changeSimPin d.iface.simPinChangePendingNewPinValue
    modify (Driver.onIface (fun i => { i with simPinChangePending := false }))
    return if done then error else NsapiError.authFailure
  else return error

def connect : AtCode Int := do
  let r ← if ← init none then do
      let error ← pendingSimActions
      if error = NsapiError.noConnection then
        let registered ← Prog.upTo id (fun _ => nwkRegistration) 3 false
        pure (error, registered)
      else pure (error, false)
    else pure (NsapiError.deviceError, false)
  if ← (pure r.2 : AtCode Bool).both connectModemStack then return NsapiError.ok
  else return r.1

def givePin (pin : Option String) : AtCode Unit :=
  if pin.isSome then modify (Driver.onBase (fun b => { b with pin := pin })) else return ()

def connectWith (simPin apn uname pwd : Option String) : AtCode Int := do
  givePin simPin
  modify (Driver.onCred (.given apn uname pwd))
  connect

def disconnect : AtCode Int := do
  if ← disconnectModemStack.both nwkDeregistration then return NsapiError.ok
  else return NsapiError.deviceError

def immediately (action : AtCode Bool) : AtCode Int := do
  if ← init none then
    if ← action then return NsapiError.ok else return NsapiError.authFailure
  else return NsapiError.deviceError

def setSimPinCheck (set immediate : Bool) (simPin : Option String) : AtCode Int := do
  givePin simPin
  if immediate then immediately (simPinCheckEnable set)
  else
    modify (Driver.onIface (fun i => { i with
      simPinCheckChangePending := true, simPinCheckChangePendingEnabledValue := set }))
    return NsapiError.ok

def setNewSimPin (newPin : Option String) (immediate : Bool) (oldPin : Option String) :
    AtCode Int := do
  givePin oldPin
  if immediate then immediately (changeSimPin newPin)
  else
    modify (Driver.onIface (fun i => { i with
      simPinChangePending := true, simPinChangePendingNewPinValue := newPin }))
    return NsapiError.ok

def isConnected : AtCode Bool := do
  let ip ← getIpAddress
  return ip ≠ none

def getGateway : AtCode (Option String) := getIpAddress

end UbloxCellular.Gsm

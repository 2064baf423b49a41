import UbloxCellular.N2xx.Base

namespace UbloxCellular.N2xx
open Interaction Code

def sendAT (cmd : String) : N2xxCode Bool := exchange (.raw cmd)

inductive Urc where
  | nsonmi (socket length : Int)
  | cereg (status : Int)
  deriving DecidableEq, Repr

def announced (socket length : Int) (s : Sockets) : Sockets :=
  (s.findSocket socket).elim s (fun x => s.setPending x (addU (s x).pending (toUnsigned length)))

def Urc.handle : Urc → Driver → Driver
  | .nsonmi a b => Driver.onSockets (announced a b)
  | .cereg status => Driver.onInfo (fun i => { i with regStatusEps := UInt8.ofInt status })

def getNextCredentials (config : Option (List String)) : N2xxCode Unit :=
  modify (Driver.onIface (fun i => { i with cred := i.cred.next config }))

inductive Protocol where
  | tcp
  | udp
  | other
  deriving DecidableEq, Repr

def socketOpen (proto : Protocol) : N2xxCode (Int × Option Handle) :=
  if proto ≠ .udp then return (NsapiError.unsupported, none)
  else locked do
    let d ← get
    (d.iface.sockets.findSocket socketUnused).elim (pure (NsapiError.noMemory, none)) fun x => do
      let r ← ask (.nsocr d.iface.localListenPort) .nsocr
      r.elim (pure (NsapiError.deviceError, none)) fun modemHandle => do
        if ← recvOk then
          modify (Driver.onSockets (fun s => Function.update (s.clearSocket x) x
            { SockCtrl.cleared with modemHandle := modemHandle }))
          return (NsapiError.ok, some x)
        else return (NsapiError.deviceError, none)

def socketClose (x : Handle) : N2xxCode Int := locked do
  let d ← get
  if ← exchange (.nsocl (d.iface.sockets x).modemHandle) then
    modify (Driver.onSockets (fun s => s.clearSocket x))
    return NsapiError.ok
  else return NsapiError.deviceError

def unsupported : N2xxCode Int := return NsapiError.unsupported

def hexDigit (n : Nat) : Char := "0123456789ABCDEF".toList.getD n '0'

def binToHex (buff : List UInt8) : String :=
  String.ofList (buff.flatMap (fun byte => [hexDigit (byte.toNat / 16),hexDigit (byte.toNat % 16)]))

def hexChar (c : UInt8) : UInt8 :=
  if 48 ≤ c ∧ c ≤ 57 then c - 48
  else if 65 ≤ c ∧ c ≤ 70 then c - 65 + 10
  else if 97 ≤ c ∧ c ≤ 102 then c - 97 + 10
  else 0xFF

def hexLoop (result : Nat) (length : Int) (buff : List UInt8) : List UInt8 → Int × List UInt8
  | [] => (result, buff)
  | [a] => (if a = 0 then result else -1, buff)
  | a :: b :: s =>
    if a = 0 then (result, buff)
    else if hexChar a = 0xFF ∨ hexChar b = 0xFF ∨ length ≤ 0 then (-1, buff)
    else hexLoop (result + 1) (length - 1) (buff ++ [(hexChar a <<< 4) + hexChar b]) s

def hexToBin (s : List UInt8) (length : Int) : Int × List UInt8 :=
  if length ≤ 0 then (-1, []) else hexLoop 0 length [] s

def sendto (x : Handle) (ip : String) (port : Nat) (buf : List UInt8) (size : Nat) :
    N2xxCode Int := do
  if ← act (.malloc .hexWrite (size * 2 + 1)) then
    let str := binToHex (buf.take size)
    locked do
      let d ← get
      let r ← ask (.nsostf (d.iface.sockets x).modemHandle ip port size str) .nsostf
      r.elim (pure NsapiError.deviceError) fun reply => do
        let _ ← recvOk
        return reply.2
  else return NsapiError.noMemory

structure SendState where
  failed : Bool
  buf : Nat
  blk : Nat
  count : Nat
  deriving DecidableEq, Repr

def SendState.size (s : SendState) : Nat := if s.count < s.blk then s.count else s.blk

def SendState.next (s : SendState) (sent : Int) : SendState where
  failed := s.failed
  buf := s.buf + sent.toNat
  blk := s.size
  count := subU s.count (toUnsigned sent)

def sendBlock (x : Handle) (ip : String) (port : Nat) (data : List UInt8) (s : SendState) :
    N2xxCode (SendState ⊕ SendState) := do
  if 0 < s.count then
    let sent ← sendto x ip port (data.drop s.buf) s.size
    if sent < 0 then return .inr { s with failed := true } else return .inl (s.next sent)
  else return .inr s

def SendState.start (size : Nat) : SendState := ⟨false,0,maxWriteSize,size⟩

def sendLoop (x : Handle) (ip : String) (port : Nat) (data : List UInt8) : N2xxCode SendState :=
  Prog.iterate (sendBlock x ip port data) (.start data.length)

def socketSendto (x : Handle) (ip : String) (port : Nat) (data : List UInt8) : N2xxCode Int := do
  let s ← sendLoop x ip port data
  return if s.failed then NsapiError.deviceError else toSigned (subU data.length s.count)

structure Received where
  size : Int
  buf : List UInt8
  address : Option (String × Int)
  deriving DecidableEq, Repr

-- size*2 in an int, which it overflows from 2^30 on.
def twice (size : Int) : Int := toSigned (toUnsigned (size * 2))

def receiveBody (header : Int × String × Int × Int) : N2xxCode Received := do
  let ipAddress := header.2.1
  let port := header.2.2.1
  let size := header.2.2.2
  let _ ← act (.setIpAddress ipAddress)
  let read ← act (.read 0 (twice size))
  if read.1 = twice size then
    let tail ← act (.uninit (List UInt8))
    let r ← recv (.remaining : Pat String)
    return ⟨if r.isSome then size else NsapiError.deviceError,(hexToBin (read.2 ++ tail) size).2,
      some (ipAddress, port)⟩
  else return ⟨size,[],some (ipAddress, port)⟩

def receiveReply (size : Int) : N2xxCode Received := do
  let r ← recv .nsorf
  let got ← r.elim (pure ⟨size,[],none⟩) receiveBody
  if ← recvOk then return got else return { got with size := NsapiError.deviceError }

def receivefrom (modemHandle : Int) (length : Nat) : N2xxCode Received :=
  if maxReadSize < length then return ⟨NsapiError.unsupported,[],none⟩
  else do
    if ← act (.malloc .hexRead (length * 2)) then
      let size ← act (.uninit Int)
      locked do
        if ← send (.nsorf modemHandle length) then receiveReply size
        else return ⟨size,[],none⟩
    else return ⟨NsapiError.noMemory,[],none⟩

structure RecvState where
  success : Bool
  count : Nat
  size : Nat
  error : Int
  data : List UInt8
  address : Option (String × Int)
  deriving DecidableEq, Repr

def RecvState.start (size : UInt32) : RecvState :=
  ⟨true,0,size.toNat,NsapiError.deviceError,[],none⟩

def RecvState.fail (s : RecvState) (error : Int) : RecvState :=
  { s with success := false, error := error }

def RecvState.store (s : RecvState) (got : Received) (rest : List UInt8) : RecvState :=
  { s with count := addU s.count (toUnsigned got.size), size := 0,
           data := s.data ++ (got.buf ++ rest).take got.size.toNat, address := got.address }

def RecvState.result (s : RecvState) : Int := if s.success then toSigned s.count else s.error

def recvBlock (x : Handle) (modemHandle : Int) (readBlk : Nat) (s : RecvState) :
    N2xxCode (Option RecvState) := do
  if ← act (.malloc .block readBlk) then
    let got ← receivefrom modemHandle readBlk
    if 0 ≤ got.size then
      let rest ← act (.uninit (List UInt8))
      modify (Driver.onSockets (fun s => s.setPending x (subU (s x).pending readBlk)))
      return some (s.store got rest)
    else return some { s.fail got.size with address := got.address.orElse (fun _ => s.address) }
  else return none

def recvWait (s : RecvState) : N2xxCode RecvState := do
  let ms ← act .timerReadMs
  if ms < socketTimeout then
    recvUnnatural
    return s
  else return s.fail NsapiError.wouldBlock

def recvIteration (timeout : Int) (x : Handle) (s : RecvState) :
    N2xxCode (RecvState ⊕ RecvState) := do
  lock
  atSetTimeout 1000
  let d ← get
  let readBlk := min (d.iface.sockets x).pending maxReadSize
  let r ← if 0 < readBlk then recvBlock x (d.iface.sockets x).modemHandle readBlk s
    else do
      let s ← recvWait s
      pure (some s)
  r.elim (pure (.inr (s.fail NsapiError.noMemory))) fun s => do
    atSetTimeout timeout
    unlock
    return .inl s

def recvLoop (timeout : Int) (x : Handle) (size : UInt32) : N2xxCode RecvState := do
  act .timerStart
  Prog.iterate (fun s : RecvState =>
    if s.success ∧ 0 < s.size then recvIteration timeout x s else return .inr s)
    (RecvState.start size)

def socketRecvfrom (x : Handle) (size : UInt32) :
    N2xxCode (Int × List UInt8 × Option (String × Int)) := do
  let timeout ← atTimeout
  let s ← recvLoop timeout x size
  return (s.result, s.data, s.address)

def socketAttach (x : Handle) (callback data : Option Nat) : N2xxCode Unit :=
  modify (Driver.onSockets (fun s =>
    Function.update s x { s x with callback := callback, data := data }))

def setAuthentication (auth : Security) : N2xxCode Unit :=
  modify (Driver.onIface (fun i => { i with auth := auth }))

def setCredentials (apn uname pwd : Option String) : N2xxCode Unit :=
  modify (Driver.onIface (fun i => { i with cred := ⟨apn,uname,pwd⟩ }))

def setLocalListenPort (port : Int) : N2xxCode Unit :=
  modify (Driver.onIface (fun i => { i with localListenPort := port }))

def gethostbyname (host : String) : N2xxCode Int := do
  if ← act (.setIpAddress host) then return NsapiError.ok else return NsapiError.unsupported

def connect : N2xxCode Int := do
  if ← init none then
    let registered ← Prog.upTo id (fun _ => nwkRegistration) 3 false
    return if registered then NsapiError.ok else NsapiError.noConnection
  else return NsapiError.deviceError

def connectWith (simPin apn uname pwd : Option String) : N2xxCode Int := do
  if simPin.isSome then
    setPin simPin
  modify (Driver.onIface (fun i => { i with cred := i.cred.given apn uname pwd }))
  connect

def disconnect : N2xxCode Int := do
  if ← nwkDeregistration then
    act .connectionStatusCb
    return NsapiError.ok
  else return NsapiError.deviceError

def checkIpAddress : N2xxCode Bool := do
  let r ← ask .cgpaddr .cgpaddr
  r.elim (pure false) fun reply => do
    modify (Driver.onIface (fun i => { i with ip := some reply.2 }))
    if ← recvOk then
      if ← act (.setIpAddress reply.2) then act (.addressNonzero reply.2) else return false
    else return false

def getIpAddress : N2xxCode (Option String) := do
  locked do
    let d ← get
    if d.iface.ip = none then
      if ← act (.malloc .ipAddress 0) then
        modify (Driver.onIface (fun i => { i with ip := some "" }))
    let d ← get
    if d.iface.ip ≠ none then
      modify (Driver.onIface (fun i => { i with ip := some "" }))
      if !(← checkIpAddress) then
        modify (Driver.onIface (fun i => { i with ip := none }))
  let d ← get
  return d.iface.ip

def isConnected : N2xxCode Bool := do
  let ip ← getIpAddress
  return ip ≠ none

def getGateway : N2xxCode (Option String) := getIpAddress

end UbloxCellular.N2xx

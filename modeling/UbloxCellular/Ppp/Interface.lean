import UbloxCellular.Driver.Modem
import UbloxCellular.Gsm.Base

namespace UbloxCellular.Ppp
open Interaction Code
open Gsm

structure PppInterface where
  cred : Credentials
  simPinCheckChangePending : Bool
  simPinCheckChangePendingEnabledValue : Bool
  simPinChangePending : Bool
  simPinChangePendingNewPinValue : Option String
  pppConnectionUp : Bool
  connectionStatusCb : Option Nat
  deriving DecidableEq, Repr

def PppInterface.initial : PppInterface where
  cred := ⟨none,none,none⟩
  simPinCheckChangePending := false
  simPinCheckChangePendingEnabledValue := false
  simPinChangePending := false
  simPinChangePendingNewPinValue := none
  pppConnectionUp := false
  connectionStatusCb := none

abbrev PppDriver := Driver PppInterface

abbrev PppCode := BaseCode PppInterface

inductive Urc where
  | creg (status : Int)
  | cgreg (status : Int)
  | cereg (status : Int)
  deriving DecidableEq, Repr

def Urc.handle : Urc → PppDriver → PppDriver
  | .creg status => Driver.onInfo (fun i => { i with regStatusCsd := UInt8.ofInt status })
  | .cgreg status => Driver.onInfo (fun i => { i with regStatusPsd := UInt8.ofInt status })
  | .cereg status => Driver.onInfo (fun i => { i with regStatusEps := UInt8.ofInt status })

@[simp] theorem Urc.handle_iface (u : Urc) (d : PppDriver) : (u.handle d).iface = d.iface := by
  cases u <;> rfl

def setCred (f : Credentials → Credentials) (i : PppInterface) : PppInterface :=
  { i with cred := f i.cred }

def setUp (up : Bool) (i : PppInterface) : PppInterface := { i with pppConnectionUp := up }

def authPrefix (c : Credentials) : String :=
  if c.uname.isSome && c.pwd.isSome then "CHAP:" else ""

def setupContextAndCredentials : PppCode Int := do
  let d ← get
  locked do
    d.iface.cred.apn.elim (pure NsapiError.parameter) fun apn => do
      if ← exchange (.cgdcont 1 (authPrefix d.iface.cred ++ apn)) then
        wait 100
        return NsapiError.ok
      else return NsapiError.parameter

def setAtd : PppCode Bool := locked do
  let r ← ask .atd .connect
  return r.isSome

def getNextCredentials (config : Option (List String)) : PppCode (Option (List String)) := do
  modify (Driver.onIface (setCred (.next config)))
  return restCredentials config

def commandMode : PppCode Unit := do
  let _ ← send .escape
  let _ ← recv .noCarrier
  return ()

def pppConnect : PppCode Int := do
  wait 1000
  let d ← get
  let error ← act (.pppConnect d.iface.connectionStatusCb d.iface.cred.uname d.iface.cred.pwd)
  modify (Driver.onIface (setUp (error = NsapiError.ok)))
  if error ≠ NsapiError.ok then commandMode
  return error

def connectOnce (config : Option (List String)) : PppCode (Int × Option (List String)) := do
  let config ← getNextCredentials config
  let error ← setupContextAndCredentials
  if error = NsapiError.ok then
    if ← setAtd then
      let error ← pppConnect
      return (error, config)
    else return (error, config)
  else return (error, config)

def connectLoop (config : Option (List String)) : PppCode Int :=
  Prog.iterate (fun config => do
    let r ← connectOnce config
    let d ← get
    return if !d.iface.pppConnectionUp && hasMore r.2 then .inl r.2 else .inr r.1) config

def pendingSimActions (error : Int) : PppCode Int := do
  let d ← get
  let error ← if d.iface.simPinCheckChangePending then do
      let done ← simPinCheckEnable d.iface.simPinCheckChangePendingEnabledValue
      modify (Driver.onIface (fun i => { i with simPinCheckChangePending := false }))
      pure (if done then error else NsapiError.authFailure)
    else pure error
  let d ← get
  if d.iface.simPinChangePending then
    let done ← changeSimPin d.iface.simPinChangePendingNewPinValue
    modify (Driver.onIface (fun i => { i with simPinChangePending := false }))
    return if done then error else NsapiError.authFailure
  else return error

def register : PppCode Int := do
  if ← init none then
    let error ← pendingSimActions NsapiError.isConnected
    if error ≠ NsapiError.authFailure then
      let registered ← Prog.upTo id (fun _ => nwkRegistration) 3 false
      return if registered then NsapiError.ok else NsapiError.noConnection
    else return error
  else return NsapiError.deviceError

def dial : PppCode Int := do
  let d ← get
  let config ← if d.iface.cred.apn = none then act (.apnconfig d.base.devInfo.imsi)
    else pure none
  connectLoop config

def connect : PppCode Int := do
  let d ← get
  if d.iface.pppConnectionUp then return NsapiError.isConnected
  else do
    let error ← register
    if error = NsapiError.ok then dial else return error

def givePin (pin : Option String) : PppCode Unit := if pin.isSome then setPin pin else return ()

def connectWith (simPin apn uname pwd : Option String) : PppCode Int := do
  givePin simPin
  modify (Driver.onIface (setCred (.given apn uname pwd)))
  connect

def disconnect : PppCode Int := do
  let error ← act .pppDisconnect
  if error = NsapiError.ok then
    modify (Driver.onIface (setUp false))
    let _ ← ask .at .noCarrier
    if ← nwkDeregistration then return NsapiError.ok else return NsapiError.deviceError
  else return NsapiError.deviceError

def setCredentials (apn uname pwd : Option String) : PppCode Unit :=
  modify (Driver.onIface (setCred (fun _ => ⟨apn,uname,pwd⟩)))

def immediately (action : PppCode Bool) : PppCode Int := do
  if ← init none then
    if ← action then return NsapiError.ok else return NsapiError.authFailure
  else return NsapiError.deviceError

def setSimPinCheck (set immediate : Bool) (simPin : Option String) : PppCode Int := do
  givePin simPin
  if immediate then immediately (simPinCheckEnable set)
  else
    modify (Driver.onIface (fun i => { i with
      simPinCheckChangePending := true, simPinCheckChangePendingEnabledValue := set }))
    return NsapiError.ok

def setNewSimPin (newPin : Option String) (immediate : Bool) (oldPin : Option String) :
    PppCode Int := do
  givePin oldPin
  if immediate then immediately (changeSimPin newPin)
  else
    modify (Driver.onIface (fun i => { i with
      simPinChangePending := true, simPinChangePendingNewPinValue := newPin }))
    return NsapiError.ok

def isConnected : PppCode Bool := do
  let d ← get
  return d.iface.pppConnectionUp

theorem isConnected_iff {X : Type} {M : Modem (sig PppInterface) X}
    {w : Station (sig PppInterface) X} {P : Bool → Prop} :
    (∀ b v, M.Runs isConnected w b v → P b) ↔ P w.driver.iface.pppConnectionUp := by
  constructor
  · intro h
    exact h _ w (.op ⟨w,.refl,rfl,rfl⟩ (.ret _ _))
  · intro h b v hx
    have hspec : wp M.spec isConnected (fun b _ => b = w.driver.iface.pppConnectionUp) w :=
      (wp_bind _ _ _ _).mpr ((Modem.wp_get _).mpr rfl)
    rw [Modem.sound hspec hx]
    exact h

def connectionStatusCb (cb : Option Nat) : PppCode Unit :=
  modify (Driver.onIface (fun i => { i with connectionStatusCb := cb }))

inductive Op where
  | connect
  | connectWith (simPin apn uname pwd : Option String)
  | disconnect
  | init (pin : Option String)
  | deinit
  | setSimPin (pin : Option String)
  | setCredentials (apn uname pwd : Option String)
  | setSimPinCheck (set immediate : Bool) (simPin : Option String)
  | setNewSimPin (newPin : Option String) (immediate : Bool) (oldPin : Option String)
  | connectionStatusCb (cb : Option Nat)
  | nwkRegistration
  | nwkDeregistration
  | simPinCheckEnable (enable : Bool)
  | changeSimPin (newPin : Option String)

def Op.code : Op → PppCode Unit
  | .connect => void Ppp.connect
  | .connectWith simPin apn uname pwd => void (Ppp.connectWith simPin apn uname pwd)
  | .disconnect => void Ppp.disconnect
  | .init pin => void (Gsm.init pin)
  | .deinit => Gsm.deinit
  | .setSimPin pin => setPin pin
  | .setCredentials apn uname pwd => Ppp.setCredentials apn uname pwd
  | .setSimPinCheck set immediate simPin => void (Ppp.setSimPinCheck set immediate simPin)
  | .setNewSimPin newPin immediate oldPin => void (Ppp.setNewSimPin newPin immediate oldPin)
  | .connectionStatusCb cb => Ppp.connectionStatusCb cb
  | .nwkRegistration => void Gsm.nwkRegistration
  | .nwkDeregistration => void Gsm.nwkDeregistration
  | .simPinCheckEnable enable => void (Gsm.simPinCheckEnable enable)
  | .changeSimPin newPin => void (Gsm.changeSimPin newPin)

end UbloxCellular.Ppp

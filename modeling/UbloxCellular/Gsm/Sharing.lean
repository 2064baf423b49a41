import UbloxCellular.Driver.Channel
import UbloxCellular.Gsm.Discipline

set_option synthInstance.maxSize 8192

namespace UbloxCellular.Gsm
open Interaction Monitor Code Sharing

section Base
variable {I Op : Type} {C : Sharing (sig I) Op} {o : Op} {a : Place} {b : Bool}

instance shares_get : (C.frame o a).Keeps (get : BaseCode I (Driver I)) :=
  Sharing.keeps_get

instance shares_readInfo (c : Cmd) (p : Pat String) (store : String → DeviceInfo → DeviceInfo) :
    (C.frame o a).Keeps (readInfo c p store : BaseCode I _) := by
  simp only [readInfo]
  infer_instance

instance shares_getIccid : (C.frame o a).Keeps (getIccid : BaseCode I _) := by
  simp only [getIccid]
  infer_instance

instance shares_getImsi : (C.frame o a).Keeps (getImsi : BaseCode I _) := by
  simp only [getImsi]
  infer_instance

instance shares_getImei : (C.frame o a).Keeps (getImei : BaseCode I _) := by
  simp only [getImei]
  infer_instance

instance shares_getMeid : (C.frame o a).Keeps (getMeid : BaseCode I _) := by
  simp only [getMeid]
  infer_instance

instance shares_setSms : (C.frame o a).Keeps (setSms : BaseCode I _) := by
  simp only [setSms]
  infer_instance

instance shares_powerUpTry (t : Int) :
    (C.frame o (.inside b)).Keeps (powerUpTry t : BaseCode I _) := by
  simp only [powerUpTry]
  infer_instance

instance shares_powerUp : (C.frame o a).Keeps (powerUp : BaseCode I _) := by
  simp only [powerUp]
  infer_instance

instance shares_powerDown : (C.frame o a).Keeps (powerDown : BaseCode I _) := by
  simp only [powerDown]
  infer_instance

instance shares_setDeviceIdentity : (C.frame o a).Keeps (setDeviceIdentity : BaseCode I _) := by
  simp only [setDeviceIdentity]
  infer_instance

instance shares_deviceInit (dev : DeviceType) :
    (C.frame o a).Keeps (deviceInit dev : BaseCode I _) := by
  simp only [deviceInit]
  infer_instance

instance shares_cpinAnswer (s : String) :
    (C.frame o (.inside b)).Keeps (cpinAnswer s : BaseCode I _) := by
  simp only [cpinAnswer]
  infer_instance

instance shares_simTry (s : Bool × Bool) :
    (C.frame o (.inside b)).Keeps (simTry s : BaseCode I _) := by
  simp only [simTry]
  infer_instance

instance shares_initialiseSimCard : (C.frame o a).Keeps (initialiseSimCard : BaseCode I _) := by
  simp only [initialiseSimCard]
  infer_instance

instance shares_initAfterSim : (C.frame o a).Keeps (initAfterSim : BaseCode I _) := by
  simp only [initAfterSim]
  infer_instance

instance shares_init (pin : Option String) : (C.frame o a).Keeps (Gsm.init pin : BaseCode I _) := by
  simp only [Gsm.init]
  infer_instance

instance shares_enableUrcs : (C.frame o (.inside b)).Keeps (enableUrcs : BaseCode I _) := by
  simp only [enableUrcs]
  infer_instance

instance shares_nwkRegistration : (C.frame o a).Keeps (nwkRegistration : BaseCode I _) := by
  simp only [nwkRegistration]
  infer_instance

instance shares_nwkDeregistration : (C.frame o a).Keeps (nwkDeregistration : BaseCode I _) := by
  simp only [nwkDeregistration]
  infer_instance

instance shares_deinit : (C.frame o a).Keeps (deinit : BaseCode I _) := by
  simp only [deinit]
  infer_instance

instance shares_setPin (pin : Option String) : (C.frame o a).Keeps (setPin pin : BaseCode I _) := by
  simp only [setPin]
  infer_instance

instance shares_simLock (e : Bool) (k : Nat) :
    (C.frame o (.inside b)).Keeps (simLock e k : BaseCode I _) := by
  simp only [simLock]
  infer_instance

instance shares_simPinCheckEnable (e : Bool) :
    (C.frame o a).Keeps (simPinCheckEnable e : BaseCode I _) := by
  simp only [simPinCheckEnable]
  infer_instance

instance shares_changeSimPin (pin : Option String) :
    (C.frame o a).Keeps (changeSimPin pin : BaseCode I _) := by
  simp only [changeSimPin]
  infer_instance

end Base

section Interface
variable {Op : Type} {C : Sharing (sig AtInterface) Op} {o : Op} {a : Place} {b : Bool}

instance shares_getNextCredentials (l : Option (List String)) :
    (C.frame o a).Keeps (getNextCredentials l) := by
  simp only [getNextCredentials]
  infer_instance

instance shares_activate (t : Int) : (C.frame o (.inside b)).Keeps (activate t) := by
  simp only [activate]
  infer_instance

instance shares_tryProtocol (t : Int) (e : Bool) (k : Int) :
    (C.frame o (.inside b)).Keeps (tryProtocol t e k) := by
  simp only [tryProtocol]
  infer_instance

instance shares_activateProfile (apn u p : String) (s : Security) :
    (C.frame o (.inside b)).Keeps (activateProfile apn u p s) := by
  simp only [activateProfile]
  infer_instance

instance shares_activateProfileReuseExternal :
    (C.frame o (.inside b)).Keeps activateProfileReuseExternal := by
  simp only [activateProfileReuseExternal]
  infer_instance

instance shares_activateProfileByCid (k : Int) (apn u p : String) (s : Security) :
    (C.frame o (.inside b)).Keeps (activateProfileByCid k apn u p s) := by
  simp only [activateProfileByCid]
  infer_instance

instance shares_connectOnce (l : Option (List String)) :
    (C.frame o (.inside b)).Keeps (connectOnce l) := by
  simp only [connectOnce]
  infer_instance

instance shares_connectLoop (l : Option (List String)) :
    (C.frame o (.inside b)).Keeps (connectLoop l) := by
  simp only [connectLoop]
  infer_instance

instance shares_connectModemStack : (C.frame o a).Keeps connectModemStack := by
  simp only [connectModemStack]
  infer_instance

instance shares_checkIpAddress : (C.frame o (.inside b)).Keeps checkIpAddress := by
  simp only [checkIpAddress]
  infer_instance

instance shares_getIpAddress : (C.frame o a).Keeps getIpAddress := by
  simp only [getIpAddress]
  infer_instance

instance shares_disconnectModemStack : (C.frame o a).Keeps disconnectModemStack := by
  simp only [disconnectModemStack]
  infer_instance

instance shares_openReply (x : Handle) : (C.frame o (.inside true)).Keeps (openReply x) := by
  simp only [openReply]
  infer_instance

instance shares_openWith (x : Handle) (k : Int) : (C.frame o (.inside b)).Keeps (openWith x k) := by
  simp only [openWith]
  infer_instance

instance shares_socketOpen (p : Protocol) : (C.frame o a).Keeps (socketOpen p) := by
  cases p <;> simp only [socketOpen] <;> infer_instance

instance shares_closeExchange (x : Handle) : (C.frame o (.inside b)).Keeps (closeExchange x) := by
  simp only [closeExchange]
  infer_instance

instance shares_socketClose (x : Handle) : (C.frame o a).Keeps (socketClose x) := by
  simp only [socketClose]
  infer_instance

instance shares_reopen (x : Handle) (s : SockCtrl) (k : Int) (port : Nat) :
    (C.frame o (.inside b)).Keeps (reopen x s k port) := by
  simp only [reopen]
  infer_instance

instance shares_socketBind (x : Handle) (port : Nat) : (C.frame o a).Keeps (socketBind x port) := by
  simp only [socketBind]
  infer_instance

instance shares_socketConnect (x : Handle) (ip : String) (port : Nat) :
    (C.frame o a).Keeps (socketConnect x ip port) := by
  simp only [socketConnect]
  infer_instance

instance shares_sendBlock (c : Int → Cmd) (x : Handle) (l : List UInt8) :
    (C.frame o a).Keeps (sendBlock c x l) := by
  simp only [sendBlock]
  infer_instance

instance shares_sendLoop (c : Nat → Int → Cmd) (x : Handle) (l : List UInt8) :
    (C.frame o a).Keeps (sendLoop c x l) := by
  simp only [sendLoop]
  infer_instance

instance shares_socketSend (x : Handle) (l : List UInt8) :
    (C.frame o a).Keeps (socketSend x l) := by
  simp only [socketSend]
  infer_instance

instance shares_socketSendto (x : Handle) (ip : String) (port : Nat) (l : List UInt8) :
    (C.frame o a).Keeps (socketSendto x ip port l) := by
  simp only [socketSendto]
  infer_instance

instance shares_subPending (x : Handle) (k : Nat) : (C.frame o a).Keeps (subPending x k) := by
  simp only [subPending]
  infer_instance

instance shares_recvWait (s : RecvState) : (C.frame o (.inside b)).Keeps (recvWait s) := by
  simp only [recvWait]
  infer_instance

instance shares_recvBlock (x : Handle) (s : RecvState) :
    (C.frame o (.inside b)).Keeps (recvBlock x s) := by
  simp only [recvBlock]
  infer_instance

instance shares_recvfromBlock (x : Handle) (s : RecvState) :
    (C.frame o (.inside b)).Keeps (recvfromBlock x s) := by
  simp only [recvfromBlock]
  infer_instance

section Receive
variable {block : Handle → RecvState → AtCode RecvState}
  [hb : ∀ x s, (C.frame o (.inside false)).Keeps (block x s)]

instance shares_recvIteration (x : Handle) (s : RecvState) :
    (C.frame o a).Keeps (recvIteration block x s) := by
  simp only [recvIteration]
  infer_instance

instance shares_recvLoop (x : Handle) (size : UInt32) :
    (C.frame o a).Keeps (recvLoop block x size) := by
  simp only [recvLoop]
  infer_instance

end Receive

instance shares_socketRecv (x : Handle) (size : UInt32) :
    (C.frame o a).Keeps (socketRecv x size) := by
  simp only [socketRecv]
  infer_instance

instance shares_socketRecvfrom (x : Handle) (size : UInt32) :
    (C.frame o a).Keeps (socketRecvfrom x size) := by
  simp only [socketRecvfrom]
  infer_instance

instance shares_socketAttach (x : Handle) (callback data : Option Nat) :
    (C.frame o a).Keeps (socketAttach x callback data) := by
  simp only [socketAttach]
  infer_instance

instance shares_unsupported : (C.frame o a).Keeps unsupported := by
  simp only [unsupported]
  infer_instance

instance shares_setAuthentication (s : Security) : (C.frame o a).Keeps (setAuthentication s) := by
  simp only [setAuthentication]
  infer_instance

instance shares_setCredentials (apn u p : Option String) :
    (C.frame o a).Keeps (setCredentials apn u p) := by
  simp only [setCredentials]
  infer_instance

instance shares_gethostbyname (host : String) : (C.frame o a).Keeps (gethostbyname host) := by
  simp only [gethostbyname]
  infer_instance

instance shares_pendingSimActions : (C.frame o a).Keeps pendingSimActions := by
  simp only [pendingSimActions]
  infer_instance

instance shares_connect : (C.frame o a).Keeps connect := by
  simp only [connect]
  infer_instance

instance shares_givePin (p : Option String) : (C.frame o a).Keeps (givePin p) := by
  simp only [givePin]
  infer_instance

instance shares_connectWith (s apn u p : Option String) :
    (C.frame o a).Keeps (connectWith s apn u p) := by
  simp only [connectWith]
  infer_instance

instance shares_disconnect : (C.frame o a).Keeps disconnect := by
  simp only [disconnect]
  infer_instance

instance shares_immediately {p : AtCode Bool} [(C.frame o a).Keeps p] :
    (C.frame o a).Keeps (immediately p) := by
  simp only [immediately]
  infer_instance

instance shares_setSimPinCheck (e i : Bool) (p : Option String) :
    (C.frame o a).Keeps (setSimPinCheck e i p) := by
  simp only [setSimPinCheck]
  infer_instance

instance shares_setNewSimPin (k : Option String) (i : Bool) (p : Option String) :
    (C.frame o a).Keeps (setNewSimPin k i p) := by
  simp only [setNewSimPin]
  infer_instance

instance shares_isConnected : (C.frame o a).Keeps isConnected := by
  simp only [isConnected]
  infer_instance

instance shares_getGateway : (C.frame o a).Keeps getGateway := by
  simp only [getGateway]
  infer_instance

end Interface

-- Only the poll for what the modem says of itself is no answer to a command.
def Pat.replies : Replies (sig AtInterface)
  | _, .unnatural => false
  | _, _ => true

def sharing : Sharing (sig AtInterface) Operation where
  code := Operation.code
  urc := client.urc
  replies := Pat.replies
  unnatural := rfl

theorem operation_shares (o : Operation) : (sharing.frame o .outside).Keeps o.code := by
  cases o <;> simp only [Operation.code] <;> infer_instance

abbrev Callers (Tid : Type) :=
  Config (Eff (sig AtInterface)) Tid Operation Channel (Driver AtInterface) Channel.Ticket

def Callers.start (Tid : Type) (last : Nat) (baud : Int) : Callers Tid :=
  .idle Tid .unsupported none ⟨last,0⟩ ⟨.initial baud,.initial⟩

theorem exchanges_own {Tid : Type} [DecidableEq Tid] {last : Nat} {baud : Int} {c : Callers Tid}
    (h : Relation.ReflTransGen (Step sharing.rules) (Callers.start Tid last baud) c) :
    c.val.astray = 0 ∧ ∀ t, (c.thread t).code = .ret () → c.holds t = 0 :=
  run_own operation_shares h

def lookupOpening (n : Nat) : Callers Bool :=
  (Callers.start Bool 0 115200).pair sharing.rules (sharing.play silent) (.gethostbyname "host")
    (.socketOpen .udp) n

theorem lookupOpening_steps (n : Nat) :
    Relation.ReflTransGen (Step sharing.rules) (Callers.start Bool 0 115200) (lookupOpening n) :=
  pair_steps (fun _ => rfl) (fun _ _ _ _ _ _ _ h => play_sound silent_sound h) n

theorem exchanges_own_lookup : ∃ c d : Callers Bool,
    c.val.last = 1 ∧ c.holds false = 1 ∧ (c.thread true).code.done = false ∧
    d.val = ⟨2,0⟩ ∧ d.holds true = 0 ∧ d.holds false = 0 := by
  have htrue : ((lookupOpening 14).thread true).code.done = true := by decide +kernel
  have hfalse : ((lookupOpening 14).thread false).code.done = true := by decide +kernel
  have hlast : (lookupOpening 14).val.last = 2 := by decide +kernel
  obtain ⟨hastray,hidle⟩ := exchanges_own (lookupOpening_steps 14)
  exact ⟨lookupOpening 4,lookupOpening 14,by decide +kernel,by decide +kernel,by decide +kernel,
    congrArg₂ Channel.mk hlast hastray,hidle true (Prog.done_ret htrue),
    hidle false (Prog.done_ret hfalse)⟩

end UbloxCellular.Gsm

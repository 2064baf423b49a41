import UbloxCellular.Driver.Discipline
import UbloxCellular.Gsm.Interface

set_option synthInstance.maxSize 8192

namespace UbloxCellular.Gsm
open Interaction Monitor Code Client

section Base
variable {I Op L : Type} {C : Client (sig I) Op L} {T : Int} {o : Op} {m : Mode}

instance : (C.frame T o m).Keeps (get : BaseCode I (Driver I)) := balanced_get

instance (c : Cmd) (p : Pat String) (store : String → DeviceInfo → DeviceInfo) : (C.frame T o m).Keeps (readInfo c p store) := by
  simp only [readInfo]
  infer_instance

instance : (C.frame T o m).Keeps getIccid := by
  simp only [getIccid]
  infer_instance

instance : (C.frame T o m).Keeps getImsi := by
  simp only [getImsi]
  infer_instance

instance : (C.frame T o m).Keeps getImei := by
  simp only [getImei]
  infer_instance

instance : (C.frame T o m).Keeps getMeid := by
  simp only [getMeid]
  infer_instance

instance : (C.frame T o m).Keeps setSms := by
  simp only [setSms]
  infer_instance

instance (t : Int) : (C.frame T o (.fixed t)).Keeps (powerUpTry t) := by
  simp only [powerUpTry]
  infer_instance

instance : (C.frame T o m).Keeps powerUp := by
  simp only [powerUp]
  infer_instance

instance : (C.frame T o m).Keeps powerDown := by
  simp only [powerDown]
  infer_instance

instance : (C.frame T o m).Keeps setDeviceIdentity := by
  simp only [setDeviceIdentity]
  infer_instance

instance (dev : DeviceType) : (C.frame T o m).Keeps (deviceInit dev) := by
  simp only [deviceInit]
  infer_instance

instance (s : String) : (C.frame T o m).Keeps (cpinAnswer s) := by
  simp only [cpinAnswer]
  infer_instance

instance (s : Bool × Bool) : (C.frame T o m).Keeps (simTry s) := by
  simp only [simTry]
  infer_instance

instance : (C.frame T o m).Keeps initialiseSimCard := by
  simp only [initialiseSimCard]
  infer_instance

instance : (C.frame T o m).Keeps initAfterSim := by
  simp only [initAfterSim]
  infer_instance

instance (pin : Option String) : (C.frame T o m).Keeps (init pin) := by
  simp only [init]
  infer_instance

instance : (C.frame T o m).Keeps enableUrcs := by
  simp only [enableUrcs]
  infer_instance

instance : (C.frame T o m).Keeps nwkRegistration := by
  simp only [nwkRegistration]
  infer_instance

instance : (C.frame T o m).Keeps nwkDeregistration := by
  simp only [nwkDeregistration]
  infer_instance

instance : (C.frame T o m).Keeps deinit := by
  simp only [deinit]
  infer_instance

instance (pin : Option String) : (C.frame T o m).Keeps (setPin pin) := by
  simp only [setPin]
  infer_instance

instance (b : Bool) (n : Nat) : (C.frame T o m).Keeps (simLock b n) := by
  simp only [simLock]
  infer_instance

instance (b : Bool) : (C.frame T o m).Keeps (simPinCheckEnable b) := by
  simp only [simPinCheckEnable]
  infer_instance

instance (pin : Option String) : (C.frame T o m).Keeps (changeSimPin pin) := by
  simp only [changeSimPin]
  infer_instance

end Base

section Interface
variable {Op L : Type} {C : Client (sig AtInterface) Op L} {T : Int} {o : Op} {m : Mode}

instance (l : Option (List String)) : (C.frame T o m).Keeps (getNextCredentials l) := by
  simp only [getNextCredentials]
  infer_instance

instance (t : Int) : (C.frame T o (.fixed t)).Keeps (activate t) := by
  simp only [activate]
  infer_instance

instance (t : Int) (b : Bool) (n : Int) : (C.frame T o (.fixed t)).Keeps (tryProtocol t b n) := by
  simp only [tryProtocol]
  infer_instance

instance (a u p : String) (s : Security) : (C.frame T o .owned).Keeps (activateProfile a u p s) := by
  simp only [activateProfile]
  infer_instance

instance : (C.frame T o .owned).Keeps activateProfileReuseExternal := by
  simp only [activateProfileReuseExternal]
  infer_instance

instance (n : Int) (a u p : String) (s : Security) : (C.frame T o .owned).Keeps (activateProfileByCid n a u p s) := by
  simp only [activateProfileByCid]
  infer_instance

instance (l : Option (List String)) : (C.frame T o .owned).Keeps (connectOnce l) := by
  simp only [connectOnce]
  infer_instance

instance (l : Option (List String)) : (C.frame T o .owned).Keeps (connectLoop l) := by
  simp only [connectLoop]
  infer_instance

instance : (C.frame T o m).Keeps connectModemStack := by
  simp only [connectModemStack]
  infer_instance

instance : (C.frame T o m).Keeps checkIpAddress := by
  simp only [checkIpAddress]
  infer_instance

instance : (C.frame T o m).Keeps getIpAddress := by
  simp only [getIpAddress]
  infer_instance

instance : (C.frame T o m).Keeps disconnectModemStack := by
  simp only [disconnectModemStack]
  infer_instance

instance (x : Handle) : (C.frame T o m).Keeps (openReply x) := by
  simp only [openReply]
  infer_instance

instance (x : Handle) (n : Int) : (C.frame T o m).Keeps (openWith x n) := by
  simp only [openWith]
  infer_instance

instance (p : Protocol) : (C.frame T o m).Keeps (socketOpen p) := by
  cases p <;> simp only [socketOpen] <;> infer_instance

instance (x : Handle) : (C.frame T o m).Keeps (closeExchange x) := by
  simp only [closeExchange]
  infer_instance

instance (x : Handle) : (C.frame T o m).Keeps (socketClose x) := by
  simp only [socketClose]
  infer_instance

instance (x : Handle) (s : SockCtrl) (n : Int) (k : Nat) : (C.frame T o m).Keeps (reopen x s n k) := by
  simp only [reopen]
  infer_instance

instance (x : Handle) (k : Nat) : (C.frame T o m).Keeps (socketBind x k) := by
  simp only [socketBind]
  infer_instance

instance (x : Handle) (ip : String) (k : Nat) : (C.frame T o m).Keeps (socketConnect x ip k) := by
  simp only [socketConnect]
  infer_instance

instance (c : Int → Cmd) (x : Handle) (l : List UInt8) : (C.frame T o m).Keeps (sendBlock c x l) := by
  simp only [sendBlock]
  infer_instance

instance (c : Nat → Int → Cmd) (x : Handle) (l : List UInt8) : (C.frame T o m).Keeps (sendLoop c x l) := by
  simp only [sendLoop]
  infer_instance

instance (x : Handle) (l : List UInt8) : (C.frame T o m).Keeps (socketSend x l) := by
  simp only [socketSend]
  infer_instance

instance (x : Handle) (ip : String) (k : Nat) (l : List UInt8) : (C.frame T o m).Keeps (socketSendto x ip k l) := by
  simp only [socketSendto]
  infer_instance

instance (x : Handle) (n : Nat) : (C.frame T o m).Keeps (subPending x n) := by
  simp only [subPending]
  infer_instance

instance (s : RecvState) : (C.frame T o m).Keeps (recvWait s) := by
  simp only [recvWait]
  infer_instance

instance (x : Handle) (s : RecvState) : (C.frame T o m).Keeps (recvBlock x s) := by
  simp only [recvBlock]
  infer_instance

instance (x : Handle) (s : RecvState) : (C.frame T o m).Keeps (recvfromBlock x s) := by
  simp only [recvfromBlock]
  infer_instance

section Receive
variable {block : Handle → RecvState → AtCode RecvState}
  [hb : ∀ x s t, (C.frame T o (.fixed t)).Keeps (block x s)]

instance (x : Handle) (s : RecvState) : (C.frame T o m).Keeps (recvIteration block x s) := by
  simp only [recvIteration]
  infer_instance

instance (x : Handle) (n : UInt32) : (C.frame T o m).Keeps (recvLoop block x n) := by
  simp only [recvLoop]
  infer_instance

end Receive

instance (x : Handle) (n : UInt32) : (C.frame T o m).Keeps (socketRecv x n) := by
  simp only [socketRecv]
  infer_instance

instance (x : Handle) (n : UInt32) : (C.frame T o m).Keeps (socketRecvfrom x n) := by
  simp only [socketRecvfrom]
  infer_instance

instance (x : Handle) (c d : Option Nat) : (C.frame T o m).Keeps (socketAttach x c d) := by
  simp only [socketAttach]
  infer_instance

instance : (C.frame T o m).Keeps unsupported := by
  simp only [unsupported]
  infer_instance

instance (s : Security) : (C.frame T o m).Keeps (setAuthentication s) := by
  simp only [setAuthentication]
  infer_instance

instance (a u p : Option String) : (C.frame T o m).Keeps (setCredentials a u p) := by
  simp only [setCredentials]
  infer_instance

instance (h : String) : (C.frame T o m).Keeps (gethostbyname h) := by
  simp only [gethostbyname]
  infer_instance

instance : (C.frame T o m).Keeps pendingSimActions := by
  simp only [pendingSimActions]
  infer_instance

instance : (C.frame T o m).Keeps connect := by
  simp only [connect]
  infer_instance

instance (p : Option String) : (C.frame T o m).Keeps (givePin p) := by
  simp only [givePin]
  infer_instance

instance (s a u p : Option String) : (C.frame T o m).Keeps (connectWith s a u p) := by
  simp only [connectWith]
  infer_instance

instance : (C.frame T o m).Keeps disconnect := by
  simp only [disconnect]
  infer_instance

instance {p : AtCode Bool} [(C.frame T o m).Keeps p] : (C.frame T o m).Keeps (immediately p) := by
  simp only [immediately]
  infer_instance

instance (b i : Bool) (p : Option String) : (C.frame T o m).Keeps (setSimPinCheck b i p) := by
  simp only [setSimPinCheck]
  infer_instance

instance (n : Option String) (i : Bool) (p : Option String) : (C.frame T o m).Keeps (setNewSimPin n i p) := by
  simp only [setNewSimPin]
  infer_instance

instance : (C.frame T o m).Keeps isConnected := by
  simp only [isConnected]
  infer_instance

instance : (C.frame T o m).Keeps getGateway := by
  simp only [getGateway]
  infer_instance

end Interface

inductive Operation where
  | handleEvent
  | init (pin : Option String)
  | nwkRegistration
  | nwkDeregistration
  | isRegistered
  | deinit
  | setPin (pin : Option String)
  | simPinCheckEnable (enableNotDisable : Bool)
  | changeSimPin (pin : Option String)
  | socketOpen (proto : Protocol)
  | socketClose (x : Handle)
  | socketBind (x : Handle) (port : Nat)
  | socketConnect (x : Handle) (ip : String) (port : Nat)
  | socketSend (x : Handle) (data : List UInt8)
  | socketSendto (x : Handle) (ip : String) (port : Nat) (data : List UInt8)
  | socketRecv (x : Handle) (size : UInt32)
  | socketRecvfrom (x : Handle) (size : UInt32)
  | socketAttach (x : Handle) (callback data : Option Nat)
  | unsupported
  | setAuthentication (auth : Security)
  | setCredentials (apn uname pwd : Option String)
  | gethostbyname (host : String)
  | connect
  | connectWith (simPin apn uname pwd : Option String)
  | disconnect
  | setSimPinCheck (set immediate : Bool) (simPin : Option String)
  | setNewSimPin (newPin : Option String) (immediate : Bool) (oldPin : Option String)
  | isConnected
  | getIpAddress
  | getGateway

def Operation.code : Operation → AtCode Unit
  | .handleEvent => Code.handleEvent
  | .init pin => void (Gsm.init pin)
  | .nwkRegistration => void Gsm.nwkRegistration
  | .nwkDeregistration => void Gsm.nwkDeregistration
  | .isRegistered => void get
  | .deinit => Gsm.deinit
  | .setPin pin => Gsm.setPin pin
  | .simPinCheckEnable b => void (Gsm.simPinCheckEnable b)
  | .changeSimPin pin => void (Gsm.changeSimPin pin)
  | .socketOpen proto => void (Gsm.socketOpen proto)
  | .socketClose x => void (Gsm.socketClose x)
  | .socketBind x port => void (Gsm.socketBind x port)
  | .socketConnect x ip port => void (Gsm.socketConnect x ip port)
  | .socketSend x data => void (Gsm.socketSend x data)
  | .socketSendto x ip port data => void (Gsm.socketSendto x ip port data)
  | .socketRecv x size => void (Gsm.socketRecv x size)
  | .socketRecvfrom x size => void (Gsm.socketRecvfrom x size)
  | .socketAttach x callback data => Gsm.socketAttach x callback data
  | .unsupported => void Gsm.unsupported
  | .setAuthentication auth => Gsm.setAuthentication auth
  | .setCredentials apn uname pwd => Gsm.setCredentials apn uname pwd
  | .gethostbyname host => void (Gsm.gethostbyname host)
  | .connect => void Gsm.connect
  | .connectWith simPin apn uname pwd => void (Gsm.connectWith simPin apn uname pwd)
  | .disconnect => void Gsm.disconnect
  | .setSimPinCheck set immediate simPin => void (Gsm.setSimPinCheck set immediate simPin)
  | .setNewSimPin newPin immediate oldPin => void (Gsm.setNewSimPin newPin immediate oldPin)
  | .isConnected => void Gsm.isConnected
  | .getIpAddress => void Gsm.getIpAddress
  | .getGateway => void Gsm.getGateway

def client : Client (sig AtInterface) Operation Unit where
  code := Operation.code
  urc d d' := ∃ u : Urc, d' = u.handle d
  start := ()
  note _ _ _ _ := ()
  guard _ _ _ _ _ _ _ := True

section Timeout
variable (atParserTimeout : Int)

theorem operation_balanced (o : Operation) :
    (client.frame atParserTimeout o .any).Keeps o.code := by
  cases o <;> simp only [Operation.code] <;> infer_instance

theorem operation_safe (o : Operation) :
    client.rules.Safe (fun v => v = .both atParserTimeout) o :=
  (operation_balanced atParserTimeout o).run ⟨none,()⟩ trivial

end Timeout

abbrev System (Tid : Type) :=
  Config (Eff (sig AtInterface)) Tid Operation Timeouts (Driver AtInterface) Unit

def System.start (Tid : Type) (atParserTimeout baud : Int) : System Tid :=
  .idle Tid .unsupported () (.both atParserTimeout) ⟨.initial baud,.initial⟩

theorem timeout_discipline {Tid : Type} [DecidableEq Tid] {atParserTimeout baud : Int}
    {c : System Tid}
    (h : Relation.ReflTransGen (Step client.rules) (System.start Tid atParserTimeout baud) c)
    (hfree : c.mutex = none) :
    c.val.member = atParserTimeout ∧ c.val.member = c.val.parser := by
  have hs : c.Sound client.rules (fun v => v = .both atParserTimeout) :=
    run_sound (operation_safe atParserTimeout) (idle_sound rfl) h
  have hv : c.val = .both atParserTimeout := hs.free hfree
  rw [hv]
  exact ⟨rfl,rfl⟩

def silent : Script (sig AtInterface)
  | _, .send _, d => some (true, d)
  | _, .recv _, d => some (none, d)
  | _, .setIpAddress _, d => some (false, d)
  | _, .poll, d => some (true, d)
  | _, _, _ => none

theorem silent_sound : Script.Sound silent client.urc := by
  intro β e v d b d' h
  cases e <;> cases h
  all_goals first | exact ⟨rfl,rfl⟩ | exact ⟨rfl,.refl⟩

def lookupWhile (n : Nat) : System Bool :=
  (System.start Bool atParserTimeout 115200).pair client.rules (client.play silent)
    (.gethostbyname "host") .handleEvent n

theorem lookupWhile_steps (n : Nat) : Relation.ReflTransGen (Step client.rules)
    (System.start Bool atParserTimeout 115200) (lookupWhile n) :=
  pair_steps (fun _ => rfl) (fun _ _ _ _ _ _ _ h =>
    play_sound (fun _ _ _ _ _ _ => trivial) silent_sound h) n

theorem timeout_discipline_lookup : ∃ c d e : System Bool,
    c.holds true = 1 ∧ c.val = .both 60000 ∧ (d.thread true).code = .ret () ∧
    d.holds false = 1 ∧ d.val = .both 10 ∧ e.mutex = none ∧ e.val.member = atParserTimeout ∧
    e.val.member = e.val.parser := by
  have hcode : ((lookupWhile 13).thread true).code.done = true := by decide +kernel
  have hfree : (lookupWhile 17).mutex = none := by decide +kernel
  exact ⟨lookupWhile 6,lookupWhile 13,lookupWhile 17,by decide +kernel,by decide +kernel,
    Prog.done_ret hcode,by decide +kernel,by decide +kernel,hfree,
    timeout_discipline (lookupWhile_steps 17) hfree⟩

end UbloxCellular.Gsm

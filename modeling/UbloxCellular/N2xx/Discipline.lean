import UbloxCellular.Driver.Discipline
import UbloxCellular.N2xx.Interface

namespace UbloxCellular.N2xx
open Interaction Monitor Code Client

section Balanced
variable {Op L β : Type} {C : Client sig Op L} {T : Int} {o : Op} {m : Mode}

instance : (C.frame T o m).Keeps (get : N2xxCode Driver) := balanced_get

instance (c : Cmd) (p : Pat β) {f : β → N2xxCode Unit} [∀ b, (C.frame T o .owned).Keeps (f b)] :
    (C.frame T o m).Keeps (atReq c p f) := by
  simp only [atReq]
  infer_instance

instance (c : Cmd) : (C.frame T o m).Keeps (atSend c) := by
  simp only [atSend]
  infer_instance

instance (c : Cmd) (p : Pat String) (f : String → Driver → Driver) :
    (C.frame T o m).Keeps (readInfo c p f) := by
  simp only [readInfo]
  infer_instance

instance (f : String → Driver → Driver) : (C.frame T o m).Keeps (cgmi f) := by
  simp only [cgmi]
  infer_instance

instance (f : String → Driver → Driver) : (C.frame T o m).Keeps (cgmm f) := by
  simp only [cgmm]
  infer_instance

instance (f : String → Driver → Driver) : (C.frame T o m).Keeps (cimi f) := by
  simp only [cimi]
  infer_instance

instance (f : String → Driver → Driver) : (C.frame T o m).Keeps (ccid f) := by
  simp only [ccid]
  infer_instance

instance (f : String → Driver → Driver) : (C.frame T o m).Keeps (cgmr f) := by
  simp only [cgmr]
  infer_instance

instance (n : Int) (f : String → Driver → Driver) : (C.frame T o m).Keeps (cgsn n f) := by
  simp only [cgsn]
  infer_instance

instance : (C.frame T o m).Keeps getSaraN2xxInfo := by
  simp only [getSaraN2xxInfo]
  infer_instance

instance (n : Int) : (C.frame T o m).Keeps (cereg n) := by
  simp only [cereg]
  infer_instance

instance : (C.frame T o m).Keeps getCereg := by
  simp only [getCereg]
  infer_instance

instance : (C.frame T o m).Keeps getCscon := by
  simp only [getCscon]
  infer_instance

instance (s : String) : (C.frame T o m).Keeps (copsPlmn s) := by
  simp only [copsPlmn]
  infer_instance

instance (n : Int) : (C.frame T o m).Keeps (cops n) := by
  simp only [cops]
  infer_instance

instance : (C.frame T o m).Keeps getCops := by
  simp only [getCops]
  infer_instance

instance (n : Int) : (C.frame T o m).Keeps (cfun n) := by
  simp only [cfun]
  infer_instance

instance : (C.frame T o m).Keeps reboot := by
  simp only [reboot]
  infer_instance

instance (s : String) (b : Bool) : (C.frame T o m).Keeps (nconfig s b) := by
  simp only [nconfig]
  infer_instance

instance (b : Bool) : (C.frame T o m).Keeps (autoConnect b) := by
  simp only [autoConnect]
  infer_instance

instance : (C.frame T o m).Keeps getIccid := by
  simp only [getIccid]
  infer_instance

instance : (C.frame T o m).Keeps getImsi := by
  simp only [getImsi]
  infer_instance

instance : (C.frame T o m).Keeps getImei := by
  simp only [getImei]
  infer_instance

instance : (C.frame T o m).Keeps getMeid := by
  simp only [getMeid]
  infer_instance

instance : (C.frame T o m).Keeps setSms := by
  simp only [setSms]
  infer_instance

instance : (C.frame T o m).Keeps powerUp := by
  simp only [powerUp]
  infer_instance

instance : (C.frame T o m).Keeps powerDown := by
  simp only [powerDown]
  infer_instance

instance : (C.frame T o m).Keeps setDeviceIdentity := by
  simp only [setDeviceIdentity]
  infer_instance

instance (t : DeviceType) : (C.frame T o m).Keeps (deviceInit t) := by
  simp only [deviceInit]
  infer_instance

instance : (C.frame T o m).Keeps initialiseSimCard := by
  simp only [initialiseSimCard]
  infer_instance

set_option synthInstance.maxSize 8192 in
instance (p : Option String) : (C.frame T o m).Keeps (init p) := by
  simp only [init]
  infer_instance

set_option synthInstance.maxSize 8192 in
instance : (C.frame T o m).Keeps nwkRegistration := by
  simp only [nwkRegistration]
  infer_instance

instance : (C.frame T o m).Keeps nwkDeregistration := by
  simp only [nwkDeregistration]
  infer_instance

instance : (C.frame T o m).Keeps deinit := by
  simp only [deinit]
  infer_instance

instance (p : Option String) : (C.frame T o m).Keeps (setPin p) := by
  simp only [setPin]
  infer_instance

instance (b : Bool) : (C.frame T o m).Keeps (simPinCheckEnable b) := by
  simp only [simPinCheckEnable]
  infer_instance

instance (p : Option String) : (C.frame T o m).Keeps (changeSimPin p) := by
  simp only [changeSimPin]
  infer_instance

instance (s : String) : (C.frame T o m).Keeps (sendAT s) := by
  simp only [sendAT]
  infer_instance

instance (l : Option (List String)) : (C.frame T o m).Keeps (getNextCredentials l) := by
  simp only [getNextCredentials]
  infer_instance

instance (p : Protocol) : (C.frame T o m).Keeps (socketOpen p) := by
  simp only [socketOpen]
  infer_instance

instance (x : Handle) : (C.frame T o m).Keeps (socketClose x) := by
  simp only [socketClose]
  infer_instance

instance : (C.frame T o m).Keeps unsupported := by
  simp only [unsupported]
  infer_instance

instance (x : Handle) (ip : String) (n k : Nat) (l : List UInt8) :
    (C.frame T o m).Keeps (sendto x ip n l k) := by
  simp only [sendto]
  infer_instance

instance (x : Handle) (ip : String) (n : Nat) (l : List UInt8) (s : SendState) :
    (C.frame T o m).Keeps (sendBlock x ip n l s) := by
  simp only [sendBlock]
  infer_instance

instance (x : Handle) (ip : String) (n : Nat) (l : List UInt8) :
    (C.frame T o m).Keeps (sendLoop x ip n l) := by
  simp only [sendLoop]
  infer_instance

instance (x : Handle) (ip : String) (n : Nat) (l : List UInt8) :
    (C.frame T o m).Keeps (socketSendto x ip n l) := by
  simp only [socketSendto]
  infer_instance

instance (h : Int × String × Int × Int) : (C.frame T o m).Keeps (receiveBody h) := by
  simp only [receiveBody]
  infer_instance

instance (n : Int) : (C.frame T o m).Keeps (receiveReply n) := by
  simp only [receiveReply]
  infer_instance

instance (h : Int) (n : Nat) : (C.frame T o m).Keeps (receivefrom h n) := by
  simp only [receivefrom]
  infer_instance

instance (s : RecvState) : (C.frame T o m).Keeps (recvWait s) := by
  simp only [recvWait]
  infer_instance

instance (x : Handle) (f d : Option Nat) : (C.frame T o m).Keeps (socketAttach x f d) := by
  simp only [socketAttach]
  infer_instance

instance (s : Security) : (C.frame T o m).Keeps (setAuthentication s) := by
  simp only [setAuthentication]
  infer_instance

instance (a u p : Option String) : (C.frame T o m).Keeps (setCredentials a u p) := by
  simp only [setCredentials]
  infer_instance

instance (n : Int) : (C.frame T o m).Keeps (setLocalListenPort n) := by
  simp only [setLocalListenPort]
  infer_instance

instance (s : String) : (C.frame T o m).Keeps (gethostbyname s) := by
  simp only [gethostbyname]
  infer_instance

instance : (C.frame T o m).Keeps connect := by
  simp only [connect]
  infer_instance

instance (s a u p : Option String) : (C.frame T o m).Keeps (connectWith s a u p) := by
  simp only [connectWith]
  infer_instance

instance : (C.frame T o m).Keeps disconnect := by
  simp only [disconnect]
  infer_instance

instance : (C.frame T o m).Keeps checkIpAddress := by
  simp only [checkIpAddress]
  infer_instance

set_option synthInstance.maxSize 8192 in
instance : (C.frame T o m).Keeps getIpAddress := by
  simp only [getIpAddress]
  infer_instance

instance : (C.frame T o m).Keeps isConnected := by
  simp only [isConnected]
  infer_instance

instance : (C.frame T o m).Keeps getGateway := by
  simp only [getGateway]
  infer_instance

end Balanced

inductive Operation where
  | handleEvent
  | sendAT (cmd : String)
  | socketOpen (proto : Protocol)
  | socketClose (x : Handle)
  | unsupported
  | socketSendto (x : Handle) (ip : String) (port : Nat) (data : List UInt8)
  | socketRecvfrom (x : Handle) (size : UInt32)
  | socketAttach (x : Handle) (callback data : Option Nat)
  | setAuthentication (auth : Security)
  | setCredentials (apn uname pwd : Option String)
  | setLocalListenPort (port : Int)
  | getNextCredentials (config : Option (List String))
  | gethostbyname (host : String)
  | connect
  | connectWith (simPin apn uname pwd : Option String)
  | disconnect
  | isConnected
  | getIpAddress
  | getGateway
  | init (pin : Option String)
  | nwkRegistration
  | nwkDeregistration
  | isRegistered
  | deinit
  | setPin (pin : Option String)
  | simPinCheckEnable (enableNotDisable : Bool)
  | changeSimPin (pin : Option String)
  | cgmi
  | cgmm
  | cimi
  | ccid
  | cgmr
  | cgsn (snt : Int)
  | cereg (n : Int)
  | getCereg
  | getCscon
  | getCsq
  | copsPlmn (plmn : String)
  | cops (mode : Int)
  | getCops
  | cfun (mode : Int)
  | reboot
  | autoConnect (state : Bool)
  | nconfig (name : String) (state : Bool)
  | getIccid
  | getImsi
  | getImei
  | getMeid
  | setSms

def Operation.code : Operation → N2xxCode Unit
  | .handleEvent => Code.handleEvent
  | .sendAT cmd => void (N2xx.sendAT cmd)
  | .socketOpen proto => void (N2xx.socketOpen proto)
  | .socketClose x => void (N2xx.socketClose x)
  | .unsupported => void N2xx.unsupported
  | .socketSendto x ip port data => void (N2xx.socketSendto x ip port data)
  | .socketRecvfrom x size => void (N2xx.socketRecvfrom x size)
  | .socketAttach x callback data => N2xx.socketAttach x callback data
  | .setAuthentication auth => N2xx.setAuthentication auth
  | .setCredentials apn uname pwd => N2xx.setCredentials apn uname pwd
  | .setLocalListenPort port => N2xx.setLocalListenPort port
  | .getNextCredentials config => N2xx.getNextCredentials config
  | .gethostbyname host => void (N2xx.gethostbyname host)
  | .connect => void N2xx.connect
  | .connectWith simPin apn uname pwd => void (N2xx.connectWith simPin apn uname pwd)
  | .disconnect => void N2xx.disconnect
  | .isConnected => void N2xx.isConnected
  | .getIpAddress => void N2xx.getIpAddress
  | .getGateway => void N2xx.getGateway
  | .init pin => void (N2xx.init pin)
  | .nwkRegistration => void N2xx.nwkRegistration
  | .nwkDeregistration => void N2xx.nwkDeregistration
  | .isRegistered => void get
  | .deinit => N2xx.deinit
  | .setPin pin => N2xx.setPin pin
  | .simPinCheckEnable b => void (N2xx.simPinCheckEnable b)
  | .changeSimPin pin => void (N2xx.changeSimPin pin)
  | .cgmi => void (N2xx.cgmi (fun _ d => d))
  | .cgmm => void (N2xx.cgmm (fun _ d => d))
  | .cimi => void (N2xx.cimi (fun _ d => d))
  | .ccid => void (N2xx.ccid (fun _ d => d))
  | .cgmr => void (N2xx.cgmr (fun _ d => d))
  | .cgsn snt => void (N2xx.cgsn snt (fun _ d => d))
  | .cereg n => void (N2xx.cereg n)
  | .getCereg => void N2xx.getCereg
  | .getCscon => void N2xx.getCscon
  | .getCsq => void N2xx.getCsq
  | .copsPlmn plmn => void (N2xx.copsPlmn plmn)
  | .cops mode => void (N2xx.cops mode)
  | .getCops => void N2xx.getCops
  | .cfun mode => void (N2xx.cfun mode)
  | .reboot => void N2xx.reboot
  | .autoConnect state => void (N2xx.autoConnect state)
  | .nconfig name state => void (N2xx.nconfig name state)
  | .getIccid => void N2xx.getIccid
  | .getImsi => void N2xx.getImsi
  | .getImei => void N2xx.getImei
  | .getMeid => void N2xx.getMeid
  | .setSms => void N2xx.setSms

def csqText : ∀ ⦃β : Type⦄, Eff sig β → β → Option String → Option String
  | _, .send _, _, _ => none
  | _, .recv .csq, b, _ => b
  | _, _, _, l => l

def client : Client sig Operation (Option String) where
  code := Operation.code
  urc d d' := ∃ u : Urc, d' = u.handle d
  start := none
  note := csqText
  guard _ _ _ _ _ _ _ := True

def Careful (T : Int) : Operation → Bool → ∀ ⦃β : Type⦄, Eff sig β → Timeouts → Option String →
    β → Prop
  | .socketRecvfrom _ size, false, _, .atTimeout, v, _, _ => size = 0 ∨ v.member = T
  | .socketRecvfrom _ _, _, _, .malloc .block _, _, _, b => b = true
  | .getCsq, _, _, .recv .ok, _, l, b => b.isSome → ∀ s, l = some s → (scanCsq s).1 = 0
  | _, _, _, _, _, _, _ => True

abbrev System (Tid : Type) := Config (Eff sig) Tid Operation Timeouts Driver (Option String)

def System.start (Tid : Type) (T : Int) : System Tid :=
  .idle Tid .unsupported none (.both T) .initial

section Careful
variable {T : Int}

abbrev careful (T : Int) : Client sig Operation (Option String) := client.guarded (Careful T)

theorem recvBlock_careful (x y : Handle) (size : UInt32) (h : Int) (n : Nat) (s : RecvState)
    (t : Int) (l : Option String) :
    wp ((careful T).spec T (.socketRecvfrom y size)) (recvBlock x h n s)
      (fun r g => r.isSome ∧ g.held = some (0, .both t)) ⟨some (0, .both t),l⟩ := by
  rw [recvBlock,wp_bind]
  refine wp_act_owned (fun b v' hguard hv => ?_)
  have hb : b = true := hguard.2
  have hv' : v' = .both t := hv
  subst hb hv'
  simp only [if_true,wp_bind]
  refine wp_balanced (.fixed t) rfl (fun got l'' => ?_)
  split
  · rw [wp_bind]
    refine wp_balanced (.fixed t) rfl (fun rest l₁ => ?_)
    rw [wp_bind]
    refine wp_balanced (.fixed t) rfl (fun u l₂ => ?_)
    exact ⟨rfl,rfl⟩
  · exact ⟨rfl,rfl⟩

theorem recvIteration_careful (x y : Handle) (size : UInt32) (s : RecvState)
    (l : Option String) :
    wp ((careful T).spec T (.socketRecvfrom y size)) (recvIteration T x s)
      (fun _ g => g.held = none) ⟨none,l⟩ := by
  simp only [recvIteration,lock,unlock,wp_bind,wp_perform]
  intro v hv
  apply wp_atSetTimeout
  intro l'
  refine wp_balanced (.fixed 1000) rfl (fun d l'' => ?_)
  have finish : ∀ (r : Option RecvState) l, r.isSome → wp ((careful T).spec T (.socketRecvfrom y size))
      (r.elim (pure (.inr (s.fail NsapiError.noMemory))) (fun s : RecvState => (do
        atSetTimeout T
        unlock
        return .inl s : N2xxCode (RecvState ⊕ RecvState))))
      (fun _ g => g.held = none) ⟨some (0, .both 1000),l⟩ := by
    intro r l hr
    cases r with
    | none => cases hr
    | some s' =>
      simp only [Option.elim_some,wp_bind]
      apply wp_atSetTimeout
      intro l₃
      exact ⟨rfl,rfl⟩
  split
  · refine wp_seq spec_mono (recvBlock_careful x y size _ _ s 1000 l'') (fun r g hr => ?_)
    obtain ⟨held,l₁⟩ := g
    obtain ⟨hsome,rfl⟩ := hr
    exact finish r l₁ hsome
  · simp only [wp_bind]
    refine wp_balanced (.fixed 1000) rfl (fun s' l₁ => ?_)
    exact finish (some s') l₁ rfl

theorem socketRecvfrom_careful (x : Handle) (size : UInt32) :
    (careful T).rules.Safe (fun v => v = .both T) (.socketRecvfrom x size) := by
  change wp ((careful T).spec T (.socketRecvfrom x size)) (void (socketRecvfrom x size)) _ _
  simp only [void,socketRecvfrom,recvLoop,atTimeout,wp_bind]
  refine wp_act_free (fun v timeout v' hguard ht => ?_)
  obtain ⟨rfl,rfl⟩ := ht
  have hsample : size = 0 ∨ v'.member = T := hguard.2
  refine ⟨rfl,?_⟩
  refine wp_balanced .any trivial (fun u l => ?_)
  rcases hsample with rfl | hT
  · refine wp_iterate (fun s g => s.size = 0 ∧ g.held = none) ⟨rfl,rfl⟩ (fun s g hs => ?_)
    have hstop : ¬ (s.success = true ∧ 0 < s.size) := by
      rw [hs.1]
      omega
    rw [if_neg hstop]
    exact hs.2
  · rw [hT]
    refine wp_iterate (fun _ g => g.held = none) rfl (fun s g hs => ?_)
    obtain ⟨held,l₂⟩ := g
    cases hs
    split
    · refine wp_mono spec_mono (fun r g hr => ?_) (recvIteration_careful x x size s l₂)
      cases r <;> exact hr
    · rfl

theorem csqReq_careful (v : Timeouts) (l : Option String) :
    wp ((careful T).spec T .getCsq) (atReq .csq .csq (fun _ => pure ()))
      (fun r g => (r.1 = true → (scanCsq (r.2.getD "")).1 = 0) ∧ g.held = some (0, v))
      ⟨some (0, v),l⟩ := by
  simp only [atReq,locked,lock,unlock,ask,wp_bind,wp_perform]
  change wp ((careful T).spec T .getCsq) (send .csq) _ ⟨some (1, v),l⟩
  refine wp_act_owned (fun sent v' _ hv => ?_)
  obtain rfl : v' = v := hv
  cases sent with
  | false => exact ⟨by rintro ⟨⟩,rfl⟩
  | true =>
    simp only [if_true]
    refine wp_act_owned (fun response v' _ hv => ?_)
    obtain rfl : v' = _ := hv
    cases response with
    | none => exact ⟨by rintro ⟨⟩,rfl⟩
    | some s =>
      simp only [Option.elim_some,recvOk,wp_bind,wp_pure]
      refine wp_act_owned (fun r v' hguard hv => ?_)
      obtain rfl : v' = _ := hv
      exact ⟨fun h => hguard.2 h s rfl,rfl⟩

theorem getCsq_careful : (careful T).rules.Safe (fun v => v = .both T) .getCsq := by
  change wp ((careful T).spec T .getCsq) (void getCsq) _ _
  simp only [void,getCsq,lock,wp_bind,wp_perform]
  intro v hv
  refine wp_mono spec_mono (fun r g hr => ?_) (csqReq_careful v _)
  obtain ⟨held,l⟩ := g
  obtain ⟨hscan,rfl⟩ := hr
  have hstay : ¬ (r.1 = true ∧ (scanCsq (r.2.getD "")).1 ≠ 0) := fun h => h.2 (hscan h.1)
  rw [if_neg hstay]
  exact ⟨hv,rfl⟩

theorem operation_balanced {o : Operation} (hr : ∀ x size, o ≠ .socketRecvfrom x size)
    (hc : o ≠ .getCsq) : ((careful T).frame T o .any).Keeps o.code := by
  cases o with
  | socketRecvfrom x size => exact absurd rfl (hr x size)
  | getCsq => exact absurd rfl hc
  | _ =>
    simp only [Operation.code]
    infer_instance

theorem operation_careful (o : Operation) : (careful T).rules.Safe (fun v => v = .both T) o := by
  cases o with
  | socketRecvfrom x size => exact socketRecvfrom_careful x size
  | getCsq => exact getCsq_careful
  | _ => exact (operation_balanced (by simp) (by simp)).run ⟨none,none⟩ trivial

end Careful

theorem careful_discipline {Tid : Type} [DecidableEq Tid] {T : Int} {c : System Tid}
    (h : Relation.ReflTransGen (Step (careful T).rules) (System.start Tid T) c) :
    (∀ t, (c.thread t).code = .ret () → c.holds t = (c.thread t).entry) ∧
    (c.mutex = none → c.val.member = T) := by
  have hs : c.Sound (careful T).rules (fun v => v = .both T) :=
    run_sound operation_careful (idle_sound rfl) h
  refine ⟨fun t ht => sound_boundary hs ht,fun hfree => ?_⟩
  have hv : c.val = .both T := hs.free hfree
  rw [hv]
  rfl

def starved : Script sig
  | _, .send _, d => some (true, d)
  | _, .recv .nsocr, d => some (some 0, d)
  | _, .recv .ok, d => some (some (), d)
  | _, .recv .unnatural, d => some (none, (Urc.nsonmi 0 5).handle d)
  | _, .timerReadMs, d => some (0, d)
  | _, .malloc _ _, d => some (false, d)
  | _, .poll, d => some (true, d)
  | _, _, _ => none

theorem starved_sound : Script.Sound starved client.urc := by
  intro β e v d b d' h
  cases e with
  | recv p =>
    cases p <;> cases h
    · exact ⟨rfl,.refl⟩
    · exact ⟨rfl,.single ⟨_,rfl⟩⟩
    · exact ⟨rfl,.refl⟩
  | _ => cases h <;> exact ⟨rfl,rfl⟩

def openWhile (n : Nat) : System Bool :=
  (System.start Bool atParserTimeout).pair (careful atParserTimeout).rules
    ((careful atParserTimeout).play starved) (.socketOpen .udp) .handleEvent n

theorem openWhile_steps (n : Nat) :
    Relation.ReflTransGen (Step (careful atParserTimeout).rules) (System.start Bool atParserTimeout)
      (openWhile n) := by
  refine pair_steps (fun _ => rfl) (fun p hp β e w b w' h => ?_) n
  refine play_sound (C := careful atParserTimeout) (fun _ _ _ _ _ _ => ?_) starved_sound h
  rcases hp with rfl | rfl
  · exact ⟨trivial,trivial⟩
  · exact ⟨trivial,trivial⟩

theorem careful_discipline_open : ∃ c d : System Bool,
    (c.thread true).code = .ret () ∧ c.holds false = 1 ∧ c.val = .both 10 ∧
    (∀ t, (c.thread t).code = .ret () → c.holds t = (c.thread t).entry) ∧
    d.mutex = none ∧ (d.mutex = none → d.val.member = atParserTimeout) := by
  have hcode : ((openWhile 11).thread true).code.done = true := by decide +kernel
  refine ⟨openWhile 11,openWhile 15,Prog.done_ret hcode,by decide +kernel,by decide +kernel,?_,
    by decide +kernel,?_⟩
  · exact (careful_discipline (openWhile_steps 11)).1
  · exact (careful_discipline (openWhile_steps 15)).2

theorem starved_run {o : Operation} {w : Solo Timeouts Driver (Option String)}
    {r : Unit × Solo Timeouts Driver (Option String)}
    (h : o.code.run (client.play starved) 3 w = some r) :
    Exec (client.rules.solo o) o.code w () r.2 :=
  run_exec id (fun _ _ _ _ _ h => play_sound (fun _ _ _ _ _ _ => trivial) starved_sound h) h

theorem socketRecvfrom_leaks_mutex : ¬ ∀ c : System Bool,
    Relation.ReflTransGen (Step client.rules) (System.start Bool atParserTimeout) c →
    (∀ t, (c.thread t).code = .ret () → c.holds t = (c.thread t).entry) ∧
    (c.mutex = none → c.val.member = atParserTimeout) := by
  intro hall
  let s := System.start Bool atParserTimeout
  have hrun : (((Operation.socketOpen .udp).code.run (client.play starved) 3
      ⟨0,s.val,s.shared,none⟩).bind (fun r => ((Operation.socketRecvfrom 0 10).code.run
      (client.play starved) 3 ⟨0,r.2.val,r.2.shared,none⟩).map
      (fun q => (r.2.depth, q.2.depth)))) = some (0, 1) := rfl
  obtain ⟨r,hr,hq⟩ := Option.bind_eq_some_iff.mp hrun
  obtain ⟨q,hq,hd⟩ := Option.map_eq_some_iff.mp hq
  obtain ⟨hr0,hq1⟩ := Prod.mk.inj hd
  have hopen := solo_operation s true (.socketOpen .udp) rfl rfl (starved_run hr)
  have hrecv := solo_operation (s.solo true (.socketOpen .udp) 0 r.2 (.ret ())) true
    (.socketRecvfrom 0 10) (by rw [solo_thread]) (if_pos hr0) (starved_run hq)
  have hhold := (hall _ (hopen.trans hrecv)).1 true (by rw [solo_thread])
  rw [solo_holds,solo_thread,hq1] at hhold
  cases hhold

end UbloxCellular.N2xx

import UbloxCellular.Gsm.Settings
import UbloxCellular.Ppp.Interface

namespace UbloxCellular.Ppp
open Interaction Code
open Gsm DiaryStation

def PppInterface.held (i : PppInterface) : Held :=
  ⟨i.cred,i.simPinCheckChangePending,i.simPinChangePending⟩

inductive PppUse where
  | context (pin : Option String) (apn : String)
  | session (pin uname pwd : Option String)
  deriving DecidableEq, Repr

def settingsModem : Modem (sig PppInterface) (Diary PppUse) where
  event x d y e := y = x ∧ ∃ u : Urc, e = u.handle d
  allow _ _ _ _ _ := True
  next
    | _, .send (.cgdcont _ apn), x, d, _ => x.attempt (.context d.base.pin apn)
    | _, .pppConnect _ uname pwd, x, d, _ => x.use (.session d.base.pin uname pwd)
    | _, .apnconfig _, x, _, b => x.found b
    | _, _, x, _, _ => x

abbrev SettingsStation := Station (sig PppInterface) (Diary PppUse)

namespace SettingsStation

theorem urc_calm (u v : SettingsStation)
    (h : settingsModem.event u.modem u.driver v.modem v.driver) :
    Calm PppInterface.held u v := by
  obtain ⟨hm,urc,hd⟩ := h
  refine ⟨?_,?_,hm⟩
  all_goals
    rw [hd]
    cases urc <;> rfl

def calm : settingsModem.Kept := DiaryStation.calm PppInterface.held urc_calm

theorem unaware : Unaware settingsModem where
  act e x d b he := by
    cases e with
    | send c => cases he
    | pppConnect => cases he
    | apnconfig s => cases he
    | _ => rfl
  send c x d b hc := by
    cases c with
    | cgdcont => rcases hc with hc | hc <;> cases hc
    | _ => rfl
  cpin _ _ _ := rfl
  hw _ _ _ _ := rfl
  enter _ _ _ _ _ := rfl

instance : Loyal calm.frame := unaware.loyal (fun _ hf w _ => ⟨hf w.driver.base,rfl,rfl⟩)

instance (up : Bool) : calm.frame.Keeps (modify (Driver.onIface (setUp up))) :=
  Modem.Kept.keeps_modify (fun _ _ => ⟨rfl,rfl,rfl⟩)

instance : calm.frame.Keeps setAtd := by
  have hs : calm.frame.Keeps (send .atd) := Modem.Kept.keeps_still rfl (fun _ _ _ => rfl)
  have hr : calm.frame.Keeps (recv .connect : PppCode (Option Unit)) :=
    Modem.Kept.keeps_still rfl (fun _ _ _ => rfl)
  rw [setAtd]
  infer_instance

instance : calm.frame.Keeps commandMode := by
  have hs : calm.frame.Keeps (send .escape) := Modem.Kept.keeps_still rfl (fun _ _ _ => rfl)
  have hr : calm.frame.Keeps (recv .noCarrier : PppCode (Option Unit)) :=
    Modem.Kept.keeps_still rfl (fun _ _ _ => rfl)
  rw [commandMode]
  infer_instance

theorem pendingSimActions_idle {w : SettingsStation} (hw : Idle PppInterface.held w)
    (error : Int) : wp settingsModem.spec (pendingSimActions error)
      (fun _ => Calm PppInterface.held w) w := by
  have hcheck : w.driver.iface.simPinCheckChangePending = false := hw.check
  have hchange : w.driver.iface.simPinChangePending = false := hw.change
  simp only [pendingSimActions,wp_bind,wp_get,wp_ite,wp_pure,hcheck,hchange,
    Bool.false_eq_true,if_false]
  exact Calm.refl w

instance (error : Int) : calm.frame.Keeps (pendingSimActions error) :=
  ⟨fun _ hw => pendingSimActions_idle hw error⟩

instance : calm.frame.Keeps register := by
  rw [register]
  infer_instance

def Uses (s : Settings) : PppUse → Prop
  | .context pin apn =>
      (∀ v, s.pin.Owes v → pin = some v) ∧ ∀ v, s.apn.Owes v → apn = "CHAP:" ++ v
  | .session pin uname pwd => (∀ v, s.pin.Owes v → pin = some v) ∧
      (∀ v, s.uname.Owes v → uname = some v) ∧ ∀ v, s.pwd.Owes v → pwd = some v

abbrev Sound : SettingsStation → Prop := DiaryStation.Sound PppInterface.held Uses
abbrev Ready : Option (List String) → SettingsStation → Prop :=
  DiaryStation.Ready PppInterface.held Uses

structure Filled (config : Option (List String)) (w : SettingsStation) : Prop where
  ready : Ready config w
  filled : w.driver.iface.cred.fillBlank = w.driver.iface.cred

theorem sound : calm.Stable Sound := ⟨fun _ h => h.idle,fun _ _ hu h => h.sound hu⟩

theorem filled (config : Option (List String)) : calm.Stable (Filled config) where
  pre _ h := h.ready.sound.idle
  rel u v hu h := by
    have hcred : v.driver.iface.cred = u.driver.iface.cred := congrArg Held.cred h.held
    refine ⟨h.ready hu.ready,?_⟩
    rw [hcred]
    exact hu.filled

variable {w : SettingsStation} {config : Option (List String)}

theorem Filled.use (h : Filled config w) (round : Nat) {use : PppUse}
    (hu : Uses w.modem.settings use) : Filled config { w with
      modem := ({ w.modem with round := round } : Diary PppUse).use use } :=
  ⟨⟨⟨⟨h.ready.sound.idle.check,h.ready.sound.idle.change⟩,h.ready.sound.stored,
    List.forall_mem_cons.mpr ⟨hu,h.ready.sound.uses⟩⟩,h.ready.free⟩,h.filled⟩

theorem Filled.given (h : Filled config w) : ∃ apn uname pwd : String,
    w.driver.iface.cred = ⟨some apn,some uname,some pwd⟩ := ⟨_,_,_,h.filled.symm⟩

theorem Filled.context (h : Filled config w) {apn : String}
    (hapn : w.driver.iface.cred.apn = some apn) :
    Uses w.modem.settings (.context w.driver.base.pin (authPrefix w.driver.iface.cred ++ apn)) := by
  obtain ⟨apn',uname,pwd,hcred⟩ := h.given
  have hstored := h.ready.sound.stored
  have hchap : authPrefix w.driver.iface.cred = "CHAP:" := by
    rw [hcred]
    rfl
  refine ⟨hstored.pin,fun v hv => ?_⟩
  rw [hchap,Option.some.inj (hapn.symm.trans (hstored.apn v hv))]

theorem Filled.session (h : Filled config w) : Uses w.modem.settings
    (.session w.driver.base.pin w.driver.iface.cred.uname w.driver.iface.cred.pwd) := by
  obtain ⟨apn,uname,pwd,hcred⟩ := h.given
  have hstored : w.modem.settings.Stored w.driver.base.pin w.driver.iface.cred :=
    h.ready.sound.stored
  rw [hcred] at hstored ⊢
  exact ⟨hstored.pin,fun v hv => congrArg some (hstored.uname v hv),
    fun v hv => congrArg some (hstored.pwd v hv)⟩

theorem setup_filled (hw : Filled config w) :
    wp settingsModem.spec setupContextAndCredentials (fun _ => Filled config) w := by
  obtain ⟨apn,uname,pwd,hcred⟩ := hw.given
  rw [setupContextAndCredentials,wp_bind,wp_get,Modem.wp_locked]
  intro v hv
  have hcalm : Calm PppInterface.held w v := calm.events w v hw.ready.sound.idle hv
  have hvcred : v.driver.iface.cred = w.driver.iface.cred := congrArg Held.cred hcalm.held
  have hfilled : Filled config v := (filled config).rel w v hw hcalm
  have hapn : v.driver.iface.cred.apn = some apn := by rw [hvcred,hcred]
  have hsent := hfilled.use (v.modem.round + 1) (hfilled.context hapn)
  rw [hvcred] at hsent
  rw [hcred,Option.elim_some,wp_bind,Modem.wp_exchange]
  intro b _
  rw [← hcred]
  split
  · refine wp_mono settingsModem.mono (fun ok u hu => ?_) ((filled config).run hsent)
    rw [wp_ite]
    split
    · rw [wp_bind,Modem.wp_wait,wp_pure]
      exact hu
    · exact hu
  · exact hsent

theorem pppConnect_filled (hw : Filled config w) :
    wp settingsModem.spec pppConnect (fun _ => Filled config) w := by
  rw [pppConnect,wp_bind,Modem.wp_wait,wp_bind,wp_get,wp_bind,Modem.wp_asks rfl]
  intro error _
  exact (filled config).run (hw.use w.modem.round hw.session)

theorem connectOnce_ready (hw : Ready config w) :
    wp settingsModem.spec (connectOnce config) (fun r => Ready r.2) w := by
  have hnext := hw.sound.stored.next hw.free
  have hfilled : Filled (restCredentials config) { w with
      driver := { w.driver with iface := { w.driver.iface with
        cred := w.driver.iface.cred.next config } } } :=
    ⟨⟨⟨⟨hw.sound.idle.check,hw.sound.idle.change⟩,hnext,hw.sound.uses⟩,hw.rest.free⟩,rfl⟩
  simp only [connectOnce,getNextCredentials,wp_bind,Modem.wp_modify,wp_pure]
  refine wp_mono settingsModem.mono (fun error u hu => ?_) (setup_filled hfilled)
  rw [wp_ite]
  split
  · refine wp_seq settingsModem.mono ((filled _).run hu) (fun dialled v hv => ?_)
    rw [wp_ite]
    split
    · exact wp_seq settingsModem.mono (pppConnect_filled hv) (fun _ _ h => h.ready)
    · exact hv.ready
  · exact hu.ready

theorem connectLoop_sound (hw : Ready config w) :
    wp settingsModem.spec (connectLoop config) (fun _ => Sound) w := by
  rw [connectLoop]
  refine wp_iterate Ready hw (fun config' u hu => ?_)
  refine wp_seq settingsModem.mono (connectOnce_ready hu) (fun r v hv => ?_)
  rw [wp_bind,wp_get,wp_pure]
  split
  · exact hv
  · exact hv.sound

instance : sound.kept.frame.Keeps dial := by
  refine sound.keeps (fun w hw => ?_)
  simp only [dial,wp_bind,wp_get,wp_ite,wp_pure]
  split
  · rename_i hapn
    rw [Modem.wp_asks rfl]
    intro b _
    exact connectLoop_sound (hw.searched hapn b)
  · exact connectLoop_sound hw.unlisted

instance : sound.kept.frame.Keeps connect := by
  simp only [connect]
  infer_instance

def opCode : SettingOp → PppCode Unit
  | .setCredentials apn uname pwd => setCredentials apn uname pwd
  | .setSimPin pin => setPin pin
  | .connect => void connect
  | .connectWith simPin apn uname pwd => void (connectWith simPin apn uname pwd)

theorem connectWith_sound (simPin apn uname pwd : Option String) (hw : Sound w) :
    wp settingsModem.spec (connectWith simPin apn uname pwd) (fun _ => Sound)
      { w with modem := w.modem.tell (.connectWith simPin apn uname pwd) } := by
  rw [connectWith,givePin,wp_bind]
  cases simPin with
  | none =>
    simp only [Option.isSome_none,Bool.false_eq_true,if_false,wp_pure,wp_bind,Modem.wp_modify]
    exact sound.holds (hw.told (.connectWith none apn uname pwd) rfl rfl)
  | some pin =>
    simp only [Option.isSome_some,if_true,setPin,wp_bind,Modem.wp_modify]
    exact sound.holds (hw.told (.connectWith (some pin) apn uname pwd) rfl rfl)

theorem code_sound (o : SettingOp) (hw : Sound w) :
    wp settingsModem.spec (opCode o) (fun _ => Sound) { w with modem := w.modem.tell o } := by
  cases o with
  | setCredentials apn uname pwd =>
    rw [opCode,setCredentials,Modem.wp_modify]
    exact hw.told (.setCredentials apn uname pwd) rfl rfl
  | setSimPin pin =>
    rw [opCode,setPin,Modem.wp_modify]
    exact hw.told (.setSimPin pin) rfl rfl
  | connect =>
    rw [opCode,Modem.wp_void]
    exact sound.holds (hw.told .connect rfl rfl)
  | connectWith simPin apn uname pwd =>
    rw [opCode,Modem.wp_void]
    exact connectWith_sound simPin apn uname pwd hw

def start (baud : Int) : SettingsStation := ⟨⟨.initial baud,.initial⟩,.empty⟩

abbrev Reached (baud : Int) : SettingsStation → Prop :=
  settingsModem.Told opCode Diary.tell (start baud)

theorem reached_sound {baud : Int} {w : SettingsStation} (h : Reached baud w) : Sound w := by
  refine h.keeps ⟨⟨rfl,rfl⟩,.initial,?_⟩ (fun u o hu => code_sound o hu) (fun u v hu huv => ?_)
  · rintro u ⟨⟩
  · exact sound.event hu huv

abbrev calls (os : List SettingOp) : Option SettingsStation :=
  (refusing PppInterface (Diary PppUse) none).replay settingsModem opCode Diary.tell 3 os
    (start 115200)

theorem calls_reached {os : List SettingOp} {w : SettingsStation} (h : calls os = some w) :
    Reached 115200 w := by
  have hfair : (refusing PppInterface (Diary PppUse) none).Fair settingsModem :=
    refusing_fair (fun _ _ _ _ _ => trivial) (fun _ _ => ⟨rfl,.creg 1,rfl⟩)
  exact hfair.told h .start

end SettingsStation

theorem settings_kept {b₁ b₂ : Int} {w : Gsm.SettingsStation} {v : SettingsStation}
    (hw : Gsm.SettingsStation.Reached b₁ w) (hv : SettingsStation.Reached b₂ v) :
    (∀ u ∈ w.modem.uses, Gsm.SettingsStation.Uses u.settings u.made) ∧
      ∀ u ∈ v.modem.uses, SettingsStation.Uses u.settings u.made :=
  ⟨(Gsm.SettingsStation.reached_sound hw).uses,(SettingsStation.reached_sound hv).uses⟩

def preset : List SettingOp :=
  [.setCredentials (some "internet") (some "user") (some "secret"),.setSimPin (some "1234"),
    .connectWith none none (some "guest") (some "word")]

def owed : Settings :=
  ⟨⟨some "1234",true⟩,⟨some "internet",true⟩,⟨some "guest",true⟩,⟨some "word",true⟩⟩

theorem settings_kept_preset : ∃ (w : Gsm.SettingsStation) (v : SettingsStation),
    w.modem.uses = [⟨owed,1,(some "1234", ⟨"internet","guest","word",.unknown⟩)⟩] ∧
    v.modem.uses = [⟨owed,1,.session (some "1234") (some "guest") (some "word")⟩,
      ⟨owed,1,.context (some "1234") "CHAP:internet"⟩] ∧
    (∀ u ∈ w.modem.uses, Gsm.SettingsStation.Uses u.settings u.made) ∧
    ∀ u ∈ v.modem.uses, SettingsStation.Uses u.settings u.made := by
  have hat : (Gsm.SettingsStation.calls preset).map (fun w => w.modem.uses) =
      some [⟨owed,1,(some "1234", ⟨"internet","guest","word",.unknown⟩)⟩] := by decide
  have hppp : (SettingsStation.calls preset).map (fun w => w.modem.uses) =
      some [⟨owed,1,.session (some "1234") (some "guest") (some "word")⟩,
        ⟨owed,1,.context (some "1234") "CHAP:internet"⟩] := by decide
  obtain ⟨w,hw,huw⟩ := Option.map_eq_some_iff.mp hat
  obtain ⟨v,hv,huv⟩ := Option.map_eq_some_iff.mp hppp
  exact ⟨w,v,huw,huv,settings_kept (Gsm.SettingsStation.calls_reached hw)
    (SettingsStation.calls_reached hv)⟩

def repeated : List SettingOp :=
  [.setCredentials (some "internet") (some "user") (some "secret"),
    .connectWith (some "1234") none none none]

def erased : Settings :=
  ⟨⟨some "1234",true⟩,⟨some "internet",true⟩,⟨some "user",false⟩,⟨some "secret",false⟩⟩

theorem settings_erased :
    (¬ ∀ (baud : Int) (w : Gsm.SettingsStation), Gsm.SettingsStation.Reached baud w →
      ∀ u ∈ w.modem.uses, u.round = 1 →
        Gsm.SettingsStation.Uses u.settings.demanded u.made) ∧
    ¬ ∀ (baud : Int) (v : SettingsStation), SettingsStation.Reached baud v →
      ∀ u ∈ v.modem.uses, u.round = 1 → SettingsStation.Uses u.settings.demanded u.made := by
  have hat : (Gsm.SettingsStation.calls repeated).map (fun w => w.modem.uses) =
      some [⟨erased,1,(some "1234", ⟨"internet","","",.none⟩)⟩] := by decide
  have hppp : (SettingsStation.calls repeated).map (fun w => w.modem.uses) =
      some [⟨erased,1,.session (some "1234") (some "") (some "")⟩,
        ⟨erased,1,.context (some "1234") "CHAP:internet"⟩] := by decide
  obtain ⟨w,hw,huw⟩ := Option.map_eq_some_iff.mp hat
  obtain ⟨v,hv,huv⟩ := Option.map_eq_some_iff.mp hppp
  constructor
  · intro hall
    have huses := hall 115200 w (Gsm.SettingsStation.calls_reached hw) _
      (by rw [huw]; exact List.mem_cons_self) rfl
    have huser : "" = "user" := huses.uname "user" ⟨rfl,rfl⟩
    exact absurd huser (by decide)
  · intro hall
    have huses := hall 115200 v (SettingsStation.calls_reached hv) _
      (by rw [huv]; exact List.mem_cons_self) rfl
    have huser : some "" = some "user" := huses.2.1 "user" ⟨rfl,rfl⟩
    exact absurd huser (by decide)

end UbloxCellular.Ppp

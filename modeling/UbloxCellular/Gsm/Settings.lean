import UbloxCellular.Driver.Settings
import UbloxCellular.Gsm.Retry

namespace UbloxCellular.Gsm
open Interaction Code

structure Held where
  cred : Credentials
  check : Bool
  change : Bool
  deriving DecidableEq, Repr

abbrev DiaryStation (I U : Type) := Station (sig I) (Diary U)

namespace DiaryStation

variable {I U : Type} (held : I → Held) (uses : Settings → U → Prop)

structure Calm (w w' : DiaryStation I U) : Prop where
  pin : w'.driver.base.pin = w.driver.base.pin
  held : held w'.driver.iface = held w.driver.iface
  modem : w'.modem = w.modem

structure Idle (w : DiaryStation I U) : Prop where
  check : (held w.driver.iface).check = false
  change : (held w.driver.iface).change = false

structure Sound (w : DiaryStation I U) : Prop where
  idle : Idle held w
  stored : w.modem.settings.Stored w.driver.base.pin (held w.driver.iface).cred
  uses : ∀ u ∈ w.modem.uses, uses u.settings u.made

structure Ready (config : Option (List String)) (w : DiaryStation I U) : Prop where
  sound : Sound held uses w
  free : config ≠ none → w.modem.settings.Free

variable {held uses}

theorem Calm.refl (w : DiaryStation I U) : Calm held w w := ⟨rfl,rfl,rfl⟩

theorem Calm.trans {u v w : DiaryStation I U} (h : Calm held u v) (k : Calm held v w) :
    Calm held u w := ⟨k.pin.trans h.pin,k.held.trans h.held,k.modem.trans h.modem⟩

theorem Calm.idle {u v : DiaryStation I U} (h : Calm held u v) (hu : Idle held u) :
    Idle held v := by
  refine ⟨?_,?_⟩
  · rw [h.held]
    exact hu.check
  · rw [h.held]
    exact hu.change

theorem Calm.sound {u v : DiaryStation I U} (h : Calm held u v) (hu : Sound held uses u) :
    Sound held uses v := by
  refine ⟨h.idle hu.idle,?_,?_⟩
  · rw [h.modem,h.pin,h.held]
    exact hu.stored
  · rw [h.modem]
    exact hu.uses

theorem Calm.ready {config : Option (List String)} {u v : DiaryStation I U}
    (h : Calm held u v) (hu : Ready held uses config u) : Ready held uses config v := by
  refine ⟨h.sound hu.sound,?_⟩
  rw [h.modem]
  exact hu.free

theorem Ready.rest {config : Option (List String)} {w : DiaryStation I U}
    (h : Ready held uses config w) : Ready held uses (restCredentials config) w := by
  refine ⟨h.sound,fun hrest => h.free (fun hnone => hrest ?_)⟩
  rw [hnone]
  rfl

theorem Sound.unlisted {w : DiaryStation I U} (h : Sound held uses w) :
    Ready held uses none w := ⟨h,fun hne => absurd rfl hne⟩

theorem Sound.searched {w : DiaryStation I U} (h : Sound held uses w)
    (hapn : (held w.driver.iface).cred.apn = none) (config : Option (List String)) :
    Ready held uses config { w with modem := w.modem.found config } := by
  cases config with
  | none => exact h.unlisted
  | some l => exact ⟨⟨⟨h.idle.check,h.idle.change⟩,h.stored.listed,h.uses⟩,
      fun _ => h.stored.free hapn⟩

theorem Sound.told {w : DiaryStation I U} {d : Driver I} (h : Sound held uses w) (o : SettingOp)
    (hpin : d.base.pin = o.storePin w.driver.base.pin)
    (hheld : held d.iface = { held w.driver.iface with
      cred := o.storeCred (held w.driver.iface).cred }) :
    Sound held uses ⟨d,w.modem.tell o⟩ := by
  refine ⟨⟨?_,?_⟩,?_,h.uses⟩
  · rw [hheld]
    exact h.idle.check
  · rw [hheld]
    exact h.idle.change
  · rw [hpin,hheld]
    exact h.stored.told o

def calm (held : I → Held) {M : Modem (sig I) (Diary U)}
    (hM : ∀ u v : DiaryStation I U, M.event u.modem u.driver v.modem v.driver → Calm held u v) :
    M.Kept where
  pre := Idle held
  rel := Calm held
  refl := Calm.refl
  trans _ _ _ := Calm.trans
  keep _ _ h hu := h.idle hu
  event u v _ h := hM u v h

end DiaryStation

open DiaryStation

def AtInterface.held (i : AtInterface) : Held :=
  ⟨i.cred,i.simPinCheckChangePending,i.simPinChangePending⟩

abbrev AttemptDiary := Diary (Option String × Attempt)

def settingsModem : Modem (sig AtInterface) AttemptDiary where
  event x d y e := y = x ∧ ∃ u : Urc, e = u.handle d
  allow _ _ _ _ _ := True
  next
    | _, .enter (.attempt apn username password auth), x, d, _ =>
        x.attempt (d.base.pin, ⟨apn,username,password,auth⟩)
    | _, .apnconfig _, x, _, b => x.found b
    | _, _, x, _, _ => x

abbrev SettingsStation := Station (sig AtInterface) AttemptDiary

namespace SettingsStation

theorem urc_calm (u v : SettingsStation)
    (h : settingsModem.event u.modem u.driver v.modem v.driver) :
    Calm AtInterface.held u v := by
  obtain ⟨hm,urc,hd⟩ := h
  refine ⟨?_,?_,hm⟩
  all_goals
    rw [hd]
    cases urc <;> rfl

def calm : settingsModem.Kept := DiaryStation.calm AtInterface.held urc_calm

theorem unaware : Unaware settingsModem where
  act e x d b he := by
    cases e with
    | enter c => cases he
    | apnconfig s => cases he
    | _ => rfl
  send _ _ _ _ _ := rfl
  cpin _ _ _ := rfl
  hw _ _ _ _ := rfl
  enter c x d b hc := by
    cases c with
    | attempt => cases hc
    | _ => rfl

instance : Loyal calm.frame := unaware.loyal (fun _ hf w _ => ⟨hf w.driver.base,rfl,rfl⟩)

instance : Dialling calm.frame where
  sends _ := Modem.Kept.keeps_still rfl (fun _ _ _ => rfl)
  context := Modem.Kept.keeps_still rfl (fun _ _ _ => rfl)
  address _ := Modem.Kept.keeps_still rfl (fun _ _ _ => rfl)

instance : calm.frame.Keeps (recv .upsndStatus) :=
  Modem.Kept.keeps_still rfl (fun _ _ _ => rfl)

theorem pendingSimActions_idle {w : SettingsStation} (hw : Idle AtInterface.held w) :
    wp settingsModem.spec pendingSimActions (fun _ => Calm AtInterface.held w) w := by
  have hcheck : w.driver.iface.simPinCheckChangePending = false := hw.check
  have hchange : w.driver.iface.simPinChangePending = false := hw.change
  simp only [pendingSimActions,wp_bind,wp_get,wp_ite,wp_pure,hcheck,hchange,
    Bool.false_eq_true,if_false]
  exact Calm.refl w

instance : calm.frame.Keeps pendingSimActions := ⟨fun _ hw => pendingSimActions_idle hw⟩

structure Uses (s : Settings) (u : Option String × Attempt) : Prop where
  pin : ∀ v, s.pin.Owes v → u.1 = some v
  apn : ∀ v, s.apn.Owes v → u.2.apn = v
  uname : ∀ v, s.uname.Owes v → u.2.username = v
  pwd : ∀ v, s.pwd.Owes v → u.2.password = v

abbrev Sound : SettingsStation → Prop := DiaryStation.Sound AtInterface.held Uses
abbrev Ready : Option (List String) → SettingsStation → Prop :=
  DiaryStation.Ready AtInterface.held Uses

theorem sound : calm.Stable Sound := ⟨fun _ h => h.idle,fun _ _ hu h => h.sound hu⟩

theorem ready (config : Option (List String)) : calm.Stable (Ready config) :=
  ⟨fun _ h => h.sound.idle,fun _ _ hu h => h.ready hu⟩

theorem held_uses {s : Settings} {pin : Option String} {c : Credentials}
    (h : s.Stored pin c) (auth : Security) : Uses s (pin, RetryStation.held c auth) where
  pin := h.pin
  apn v hv := congrArg (Option.getD · "") (h.apn v hv)
  uname := h.uname
  pwd := h.pwd

theorem connectOnce_ready {w : SettingsStation} {config : Option (List String)}
    (hw : Ready config w) :
    wp settingsModem.spec (connectOnce config) (fun r => Ready r.2) w := by
  have hnext := hw.sound.stored.next hw.free
  simp only [connectOnce,getNextCredentials,wp_bind,Modem.wp_modify,wp_get,wp_pure,
    Modem.wp_enter,wp_ite]
  intro _
  have hready : Ready (restCredentials config) { w with
      driver := { w.driver with iface := { w.driver.iface with
        cred := w.driver.iface.cred.next config
        auth := RetryStation.settle (w.driver.iface.cred.next config) w.driver.iface.auth } }
      modem := w.modem.attempt (w.driver.base.pin, RetryStation.held (w.driver.iface.cred.next config)
        (RetryStation.settle (w.driver.iface.cred.next config) w.driver.iface.auth)) } :=
    ⟨⟨⟨hw.sound.idle.check,hw.sound.idle.change⟩,hnext,
      List.forall_mem_cons.mpr ⟨held_uses hnext _,hw.sound.uses⟩⟩,hw.rest.free⟩
  split
  · exact (ready _).run hready
  · refine wp_mono settingsModem.mono (fun reused v hv => ?_) ((ready _).run hready)
    split
    · exact hv
    · exact (ready _).run hv

theorem connectLoop_sound {w : SettingsStation} {config : Option (List String)}
    (hw : Ready config w) :
    wp settingsModem.spec (connectLoop config) (fun _ => Sound) w := by
  rw [connectLoop]
  refine wp_iterate Ready hw (fun config' u hu => ?_)
  refine wp_seq settingsModem.mono (connectOnce_ready hu) (fun r v hv => ?_)
  rw [wp_pure]
  split
  · exact hv
  · exact hv.sound

instance : sound.kept.frame.Keeps (do
    let d ← get
    let config ← if d.iface.cred.apn = none then act (.apnconfig d.base.devInfo.imsi)
      else pure none
    connectLoop config : AtCode Bool) := by
  refine sound.keeps (fun w hw => ?_)
  simp only [wp_bind,wp_get,wp_ite,wp_pure]
  split
  · rename_i hapn
    rw [Modem.wp_asks rfl]
    intro b _
    exact connectLoop_sound (hw.searched hapn b)
  · exact connectLoop_sound hw.unlisted

instance : sound.kept.frame.Keeps connectModemStack := by
  simp only [connectModemStack]
  infer_instance

def opCode : SettingOp → AtCode Unit
  | .setCredentials apn uname pwd => setCredentials apn uname pwd
  | .setSimPin pin => setPin pin
  | .connect => void connect
  | .connectWith simPin apn uname pwd => void (connectWith simPin apn uname pwd)

theorem connectWith_sound {w : SettingsStation} (simPin apn uname pwd : Option String)
    (hw : Sound w) : wp settingsModem.spec (connectWith simPin apn uname pwd) (fun _ => Sound)
      { w with modem := w.modem.tell (.connectWith simPin apn uname pwd) } := by
  rw [connectWith,givePin,wp_bind]
  cases simPin with
  | none =>
    simp only [Option.isSome_none,Bool.false_eq_true,if_false,wp_pure,wp_bind,Modem.wp_modify]
    exact sound.holds (hw.told (.connectWith none apn uname pwd) rfl rfl)
  | some pin =>
    simp only [Option.isSome_some,if_true,wp_bind,Modem.wp_modify]
    exact sound.holds (hw.told (.connectWith (some pin) apn uname pwd) rfl rfl)

theorem code_sound {w : SettingsStation} (o : SettingOp) (hw : Sound w) :
    wp settingsModem.spec (opCode o) (fun _ => Sound) { w with modem := w.modem.tell o } := by
  cases o with
  | setCredentials apn uname pwd =>
    rw [opCode,setCredentials,Modem.wp_modify]
    exact hw.told (.setCredentials apn uname pwd) rfl rfl
  | setSimPin pin =>
    rw [opCode,setPin,Modem.wp_modify]
    exact hw.told (.setSimPin pin) rfl rfl
  | connect =>
    rw [opCode,Modem.wp_void]
    exact sound.holds (hw.told .connect rfl rfl)
  | connectWith simPin apn uname pwd =>
    rw [opCode,Modem.wp_void]
    exact connectWith_sound simPin apn uname pwd hw

def start (baud : Int) : SettingsStation := ⟨⟨.initial baud,.initial⟩,.empty⟩

abbrev Reached (baud : Int) : SettingsStation → Prop :=
  settingsModem.Told opCode Diary.tell (start baud)

theorem reached_sound {baud : Int} {w : SettingsStation} (h : Reached baud w) : Sound w := by
  refine h.keeps ⟨⟨rfl,rfl⟩,.initial,?_⟩ (fun u o hu => code_sound o hu) (fun u v hu huv => ?_)
  · rintro u ⟨⟩
  · exact sound.event hu huv

abbrev calls (os : List SettingOp) : Option SettingsStation :=
  (refusing AtInterface AttemptDiary none).replay settingsModem opCode Diary.tell 3 os
    (start 115200)

theorem calls_reached {os : List SettingOp} {w : SettingsStation} (h : calls os = some w) :
    Reached 115200 w := by
  have hfair : (refusing AtInterface AttemptDiary none).Fair settingsModem :=
    refusing_fair (fun _ _ _ _ _ => trivial) (fun _ _ => ⟨rfl,.creg 1,rfl⟩)
  exact hfair.told h .start

end SettingsStation

end UbloxCellular.Gsm

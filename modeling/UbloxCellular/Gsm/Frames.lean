import UbloxCellular.Driver.Modem
import UbloxCellular.Gsm.Interface

set_option synthInstance.maxSize 8192

namespace UbloxCellular.Gsm
open Interaction Code

variable {I G : Type}

@[reducible] def Cmd.isSim : Cmd → Bool
  | .cpin _ => true
  | .clck _ _ => true
  | .cpwd _ _ => true
  | _ => false

@[reducible] def Cmd.plain : Cmd → Bool
  | .at => true
  | .ati => true
  | .ipr _ => true
  | .ate0Cmee => true
  | .k0 => true
  | .c1 => true
  | .d0 => true
  | .cpwroff => true
  | .ugpioc _ => true
  | .cpinQuery => true
  | .ccid => true
  | .cimi => true
  | .cgsn => true
  | .gsn => true
  | .cmgf => true
  | .cnmi => true
  | .cgsms => true
  | .cscaQuery => true
  | .creg => true
  | .cgreg => true
  | .cereg => true
  | .copsQuery => true
  | .cops _ => true
  | .cregQuery => true
  | .cgregQuery => true
  | .ceregQuery => true
  | _ => false

@[reducible] def Call.isAttempt : Call → Bool
  | .attempt _ _ _ _ => true
  | _ => false

@[reducible] def Pat.plain : Pat α → Bool
  | .ok => true
  | .unnatural => true
  | .ati => true
  | .ccid => true
  | .cimi => true
  | .cgsn => true
  | .gsn => true
  | .csca => true
  | .cops => true
  | .copsAct => true
  | _ => false

@[reducible] def plain : Eff (sig I) α → Bool
  | .atTimeout => true
  | .setAtTimeout _ => true
  | .parserTimeout _ => true
  | .get => true
  | .recv p => p.plain
  | .flush => true
  | .wait _ => true
  | _ => false

@[reducible] def Cmd.setsRate : Cmd → Bool
  | .ipr _ => true
  | _ => false

class Ordinary (F : Frame (Locked (Eff (sig I))) G) : Prop where
  lock : F.Keeps lock
  unlock : F.Keeps unlock
  act : ∀ {β : Type} (e : Eff (sig I) β), plain e = true → F.Keeps (act e)
  send : ∀ c : Cmd, c.plain = true → F.Keeps (send c)
  hw : ∀ h, h ≠ .modemPowerDown → F.Keeps (hw h)
  info : ∀ f, F.Keeps (modify (Driver.onInfo f))

class Routine (F : Frame (Locked (Eff (sig I))) G) : Prop where
  lock : F.Keeps lock
  unlock : F.Keeps unlock
  act : ∀ {β : Type} (e : Eff (sig I) β), plain e = true → F.Keeps (act e)
  send : ∀ c : Cmd, c.plain = true → c.setsRate = false → F.Keeps (send c)
  modemInit : F.Keeps (hw .modemInit)
  modemPowerUp : F.Keeps (hw .modemPowerUp)
  modemDeinit : F.Keeps (hw .modemDeinit)
  info : ∀ f, F.Keeps (modify (Driver.onInfo f))

instance (F : Frame (Locked (Eff (sig I))) G) [hF : Ordinary F] : Routine F where
  lock := hF.lock
  unlock := hF.unlock
  act e he := hF.act e he
  send c hc _ := hF.send c hc
  modemInit := hF.hw _ (by rintro ⟨⟩)
  modemPowerUp := hF.hw _ (by rintro ⟨⟩)
  modemDeinit := hF.hw _ (by rintro ⟨⟩)
  info f := hF.info f

class Basal (F : Frame (Locked (Eff (sig I))) G) : Prop extends Ordinary F where
  sim : ∀ c : Cmd, c.isSim = true → F.Keeps (Code.send c)
  cpin : F.Keeps (Code.recv .cpin)
  power : F.Keeps (Code.hw .modemPowerDown)
  base : ∀ f, F.Keeps (modify (Driver.onBase f))
  enter : ∀ c : Call, c.isAttempt = false → F.Keeps (enter c)

class Loyal (F : Frame (Locked (Eff (sig I))) G) : Prop extends Ordinary F where
  sim : ∀ c : Cmd, c.isSim = true → F.Keeps (Code.send c)
  cpin : F.Keeps (Code.recv .cpin)
  power : F.Keeps (Code.hw .modemPowerDown)
  base : ∀ f : Base → Base, (∀ b, (f b).pin = b.pin) → F.Keeps (modify (Driver.onBase f))
  enter : ∀ c : Call, c.isAttempt = false → F.Keeps (enter c)

instance (F : Frame (Locked (Eff (sig I))) G) [hF : Basal F] : Loyal F where
  sim := hF.sim
  cpin := hF.cpin
  power := hF.power
  base f _ := hF.base f
  enter := hF.enter

theorem ordinary_kept {X : Type} {M : Modem (sig I) X} {K : M.Kept}
    (hact : ∀ {β : Type} (e : Eff (sig I) β) w b, plain e = true → K.pre w →
      M.allow e w.modem w.driver b → K.rel w { w with modem := M.next e w.modem w.driver b })
    (hsend : ∀ (c : Cmd) w b, c.plain = true → K.pre w →
      M.allow (.send c) w.modem w.driver b →
      K.rel w { w with modem := M.next (.send c) w.modem w.driver b })
    (hhw : ∀ h w b, h ≠ .modemPowerDown → K.pre w → M.allow (.hw h) w.modem w.driver b →
      K.rel w { w with modem := M.next (.hw h) w.modem w.driver b })
    (hinfo : ∀ f w, K.pre w → K.rel w { w with driver := w.driver.onInfo f }) :
    Ordinary K.frame where
  lock := Modem.Kept.keeps_lock
  unlock := Modem.Kept.keeps_unlock
  act e he := Modem.Kept.keeps_act (by cases e <;> first | rfl | cases he)
    (fun w b hw hb => hact e w b he hw hb)
  send c hc := Modem.Kept.keeps_act rfl (fun w b hw hb => hsend c w b hc hw hb)
  hw h hh := Modem.Kept.keeps_act rfl (fun w b hw hb => hhw h w b hh hw hb)
  info f := Modem.Kept.keeps_modify (fun w hw => hinfo f w hw)

structure Unaware {X : Type} (M : Modem (sig I) X) : Prop where
  act : ∀ {β : Type} (e : Eff (sig I) β) x d b, plain e = true → M.next e x d b = x
  send : ∀ (c : Cmd) x d b, c.plain = true ∨ c.isSim = true → M.next (.send c) x d b = x
  cpin : ∀ x d b, M.next (.recv .cpin) x d b = x
  hw : ∀ h x d b, M.next (.hw h) x d b = x
  enter : ∀ (c : Call) x d b, c.isAttempt = false → M.next (.enter c) x d b = x

section Unaware
variable {X : Type} {M : Modem (sig I) X} {K : M.Kept}

theorem Unaware.loyal (hM : Unaware M) (hbase : ∀ f : Base → Base, (∀ b, (f b).pin = b.pin) →
    ∀ w, K.pre w → K.rel w { w with driver := w.driver.onBase f }) : Loyal K.frame where
  lock := Modem.Kept.keeps_lock
  unlock := Modem.Kept.keeps_unlock
  act e he := Modem.Kept.keeps_still (by cases e <;> first | rfl | cases he)
    (fun x d b => hM.act e x d b he)
  send c hc := Modem.Kept.keeps_still rfl (fun x d b => hM.send c x d b (.inl hc))
  hw h _ := Modem.Kept.keeps_still rfl (hM.hw h)
  info _ := Modem.Kept.keeps_modify (hbase _ (fun _ => rfl))
  sim c hc := Modem.Kept.keeps_still rfl (fun x d b => hM.send c x d b (.inr hc))
  cpin := Modem.Kept.keeps_still rfl hM.cpin
  power := Modem.Kept.keeps_still rfl (hM.hw _)
  base _ hf := Modem.Kept.keeps_modify (hbase _ hf)
  enter c hc := Modem.Kept.keeps_still rfl (fun x d b => hM.enter c x d b hc)

theorem Unaware.basal (hM : Unaware M) (hbase : ∀ (f : Base → Base) w, K.pre w →
    K.rel w { w with driver := w.driver.onBase f }) : Basal K.frame :=
  have hloyal : Loyal K.frame := hM.loyal (fun f _ => hbase f)
  { sim := hloyal.sim
    cpin := hloyal.cpin
    power := hloyal.power
    base := fun f => Modem.Kept.keeps_modify (hbase f)
    enter := hloyal.enter }

end Unaware

theorem Cmd.plain_sim {c : Cmd} (h : c.plain = true) : c.isSim = false := by
  cases c <;> first | rfl | cases h

@[simp] theorem wp_get {X : Type} {M : Modem (sig I) X} {w : Station (sig I) X}
    (Q : Driver I → Station (sig I) X → Prop) :
    @wp (Locked (Eff (sig I))) _ M.spec (Driver I) get Q w ↔ Q w.driver w := @Modem.wp_get (sig I) X M w Q

section Helpers
variable {F : Frame (Locked (Eff (sig I))) G} [hF : Routine F] {α β : Type}

instance keeps_act {e : Eff (sig I) β} [h : Fact (plain e = true)] : F.Keeps (act e) :=
  hF.act e h.out

instance keeps_get : F.Keeps (get : BaseCode I (Driver I)) := hF.act _ rfl
instance keeps_recv (p : Pat β) [h : Fact (p.plain = true)] :
    F.Keeps (recv p : BaseCode I (Option β)) := hF.act _ h.out
instance keeps_wait (ms : Nat) : F.Keeps (wait ms : BaseCode I Unit) := hF.act _ rfl
instance keeps_atTimeout : F.Keeps (atTimeout : BaseCode I Int) := hF.act _ rfl
instance keeps_info (f : DeviceInfo → DeviceInfo) : F.Keeps (modify (Driver.onInfo f)) := hF.info f

instance keeps_send (c : Cmd) [h : Fact (c.plain = true)] [k : Fact (c.setsRate = false)] :
    F.Keeps (send c) := hF.send c h.out k.out

instance keeps_lock : F.Keeps (lock : BaseCode I Unit) := hF.lock
instance keeps_unlock : F.Keeps (unlock : BaseCode I Unit) := hF.unlock

instance keeps_atSetTimeout (t : Int) : F.Keeps (atSetTimeout t) := by
  rw [atSetTimeout]
  infer_instance

instance keeps_timed (t back : Int) {p : BaseCode I α} [F.Keeps p] :
    F.Keeps (timed t back p) := by
  rw [timed]
  infer_instance

instance keeps_exchanges_nil : F.Keeps (exchanges []) := by
  rw [exchanges]
  infer_instance

instance keeps_exchanges_cons (c : Cmd) (cs : List Cmd) [F.Keeps (exchange c)]
    [F.Keeps (exchanges cs)] : F.Keeps (exchanges (c :: cs)) := by
  rw [exchanges]
  infer_instance

end Helpers

section Routine
variable {F : Frame (Locked (Eff (sig I))) G} [hF : Routine F]

instance : F.Keeps (hw .modemInit) := hF.modemInit
instance : F.Keeps (hw .modemPowerUp) := hF.modemPowerUp
instance : F.Keeps (hw .modemDeinit) := hF.modemDeinit

instance (c : Cmd) [F.Keeps (send c)] (p : Pat String)
    [F.Keeps (recv p : BaseCode I (Option String))] (store : String → DeviceInfo → DeviceInfo) : F.Keeps (readInfo c p store) := by
  simp only [readInfo]
  infer_instance

instance : F.Keeps getIccid := by
  simp only [getIccid]
  infer_instance

instance : F.Keeps getImsi := by
  simp only [getImsi]
  infer_instance

instance : F.Keeps getImei := by
  simp only [getImei]
  infer_instance

instance : F.Keeps getMeid := by
  simp only [getMeid]
  infer_instance

instance : F.Keeps setSms := by
  simp only [setSms]
  infer_instance

instance (t : Int) : F.Keeps (powerUpTry t) := by
  simp only [powerUpTry]
  infer_instance

instance [F.Keeps (hw .modemPowerDown)] : F.Keeps powerDown := by
  simp only [powerDown]
  infer_instance

instance : F.Keeps setDeviceIdentity := by
  simp only [setDeviceIdentity]
  infer_instance

instance (dev : DeviceType) : F.Keeps (deviceInit dev) := by
  simp only [deviceInit]
  infer_instance

instance : F.Keeps initAfterSim := by
  rw [initAfterSim]
  infer_instance

instance : F.Keeps enableUrcs := by
  simp only [enableUrcs]
  infer_instance

end Routine

section Ordinary
variable {F : Frame (Locked (Eff (sig I))) G} [hF : Ordinary F]

instance (baud : Int) : F.Keeps (send (.ipr baud)) := hF.send _ rfl
instance (baud : Int) : F.Keeps (hw (.setBaud baud)) := hF.hw _ (by rintro ⟨⟩)

instance : F.Keeps powerUp := by
  simp only [powerUp]
  infer_instance

end Ordinary

section Loyal
variable {F : Frame (Locked (Eff (sig I))) G} [hF : Loyal F]

instance keeps_sim (c : Cmd) [h : Fact (c.isSim = true)] : F.Keeps (send c) := hF.sim c h.out
instance keeps_cpin : F.Keeps (recv .cpin : BaseCode I (Option String)) := hF.cpin
instance keeps_power : F.Keeps (hw .modemPowerDown) := hF.power
instance (enabled : Bool) : F.Keeps (modify (Driver.onBase (fun b =>
    { b with simPinCheckEnabled := enabled }))) := hF.base _ (fun _ => rfl)
instance (initialised : Bool) : F.Keeps (modify (Driver.onBase (fun b =>
    { b with modemInitialised := initialised }))) := hF.base _ (fun _ => rfl)
instance : F.Keeps (enter .init) := hF.enter _ rfl
instance : F.Keeps (enter .nwkRegistration) := hF.enter _ rfl
instance (b : Bool) : F.Keeps (enter (.simPinCheckEnable b)) := hF.enter _ rfl
instance (pin : Option String) : F.Keeps (enter (.changeSimPin pin)) := hF.enter _ rfl

instance (s : String) : F.Keeps (cpinAnswer s) := by
  simp only [cpinAnswer]
  infer_instance

instance (s : Bool × Bool) : F.Keeps (simTry s) := by
  simp only [simTry]
  infer_instance

instance : F.Keeps initialiseSimCard := by
  simp only [initialiseSimCard]
  infer_instance

instance keeps_initNone : F.Keeps (init none) := by
  simp only [init,Option.isSome_none,Bool.false_eq_true,if_false]
  infer_instance

instance : F.Keeps nwkRegistration := by
  simp only [nwkRegistration]
  infer_instance

instance : F.Keeps nwkDeregistration := by
  simp only [nwkDeregistration]
  infer_instance

instance (b : Bool) (n : Nat) : F.Keeps (simLock b n) := by
  simp only [simLock]
  infer_instance

instance (b : Bool) : F.Keeps (simPinCheckEnable b) := by
  simp only [simPinCheckEnable]
  infer_instance

end Loyal

section Basal
variable {F : Frame (Locked (Eff (sig I))) G} [hF : Basal F]

instance keeps_base (f : Base → Base) : F.Keeps (modify (Driver.onBase f)) := hF.base f

instance (pin : Option String) : F.Keeps (init pin) := by
  simp only [init]
  infer_instance

instance : F.Keeps deinit := by
  simp only [deinit]
  infer_instance

instance (pin : Option String) : F.Keeps (setPin pin) := by
  simp only [setPin]
  infer_instance

instance (pin : Option String) : F.Keeps (changeSimPin pin) := by
  simp only [changeSimPin]
  infer_instance

end Basal

end UbloxCellular.Gsm

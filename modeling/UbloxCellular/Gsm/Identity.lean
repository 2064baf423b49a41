import UbloxCellular.Gsm.Wired
import UbloxCellular.Gsm.Dialling

namespace UbloxCellular.Gsm
open Interaction Code

-- What a modem and its SIM say of themselves whenever they answer.
structure Plate where
  ati : String
  iccid : String
  imsi : String
  imei : String
  meid : String
  deriving DecidableEq, Repr

def Plate.identity (p : Plate) : Identity := ⟨identify p.ati .none,p.iccid,p.imsi,p.imei,p.meid⟩

theorem identify_again (buf : String) (dev : DeviceType) :
    identify buf (identify buf dev) = identify buf dev := by
  unfold identify
  split_ifs <;> rfl

def plateModem (p : Plate) : Modem (sig AtInterface) Unit where
  event _ d _ d' := ∃ u : Urc, d' = u.handle d
  allow
    | _, .recv .ati, _, _, b => ∀ s, b = some s → s = p.ati
    | _, .recv .ccid, _, _, b => ∀ s, b = some s → s = p.iccid
    | _, .recv .cimi, _, _, b => ∀ s, b = some s → s = p.imsi
    | _, .recv .cgsn, _, _, b => ∀ s, b = some s → s = p.imei
    | _, .recv .gsn, _, _, b => ∀ s, b = some s → s = p.meid
    | _, _, _, _, _ => True
  next _ _ x _ _ := x

abbrev PlateStation := Station (sig AtInterface) Unit

namespace PlateStation

variable {p : Plate} {w v : PlateStation}

def initialised (w : PlateStation) : Bool := w.driver.base.modemInitialised
def identity (w : PlateStation) : Identity := w.driver.base.devInfo.identity

structure Took (f : Identity → Identity) (w : PlateStation) (b : Bool) (v : PlateStation) : Prop where
  took : identity v = if b then f (identity w) else identity w
  kept : initialised v = initialised w

theorem event_same (h : (plateModem p).event w.modem w.driver v.modem v.driver) :
    Took id w false v := by
  obtain ⟨u,hd⟩ := h
  constructor
  · rw [identity,hd]
    cases u <;> rfl
  · rw [initialised,hd]
    cases u <;> rfl

def same (p : Plate) : (plateModem p).Kept where
  pre _ := True
  rel w v := Took id w false v
  refl _ := ⟨rfl,rfl⟩
  trans _ _ _ h k := ⟨k.took.trans h.took,k.kept.trans h.kept⟩
  keep _ _ _ _ := trivial
  event _ _ _ := event_same

instance (h : Hw) : (same p).frame.Keeps (hw h : AtCode Unit) :=
  Modem.Kept.keeps_still rfl (fun _ _ _ => rfl)

instance : Wired (same p).frame where
  lock := Modem.Kept.keeps_lock
  unlock := Modem.Kept.keeps_unlock
  act _ hm _ := Modem.Kept.keeps_still hm (fun _ _ _ => rfl)
  iface _ := Modem.Kept.keeps_modify (fun _ _ => ⟨rfl,rfl⟩)
  base _ hf := Modem.Kept.keeps_modify (fun _ _ => ⟨(hf _).identity,(hf _).initialised⟩)

set_option synthInstance.maxSize 8192 in
instance : (same p).frame.Keeps (powerUp : AtCode Bool) := by
  simp only [powerUp]
  infer_instance

instance : (same p).frame.Keeps (powerDown : AtCode Unit) := by
  simp only [powerDown]
  infer_instance

theorem same_run {α : Type} {q : AtCode α} [hq : (same p).frame.Keeps q]
    {Q : α → PlateStation → Prop} (h : ∀ a v, Took id w false v → Q a v) :
    wp (plateModem p).spec q Q w := wp_mono (plateModem p).mono h (hq.run w trivial)

theorem readInfo_took {c : Cmd} {pat : Pat String} {s : String}
    {store : String → DeviceInfo → DeviceInfo} (f : Identity → Identity)
    (hallow : ∀ d b, (plateModem p).allow (.recv pat) () d b → ∀ t, b = some t → t = s)
    (hstore : ∀ i, (store s i).identity = f i.identity) :
    wp (plateModem p).spec (readInfo c pat store) (Took f w) w := by
  rw [readInfo,Modem.wp_locked]
  intro u hu
  have hsame : Took id w false u := (same p).events w u trivial hu
  rw [wp_bind,Modem.wp_ask]
  intro sent _
  cases sent with
  | false => exact ⟨hsame.took,hsame.kept⟩
  | true =>
    rw [if_pos rfl,Modem.wp_recv]
    intro u' r hu' hr
    have hsame' : Took id u false u' := (same p).events u u' trivial hu'
    cases r with
    | none =>
      exact ⟨hsame'.took.trans hsame.took,hsame'.kept.trans hsame.kept⟩
    | some t =>
      obtain rfl : t = s := hallow _ _ hr t rfl
      simp only [Option.elim_some,wp_bind,Modem.wp_modify,wp_pure]
      refine ⟨?_,hsame'.kept.trans hsame.kept⟩
      exact (hstore _).trans (congrArg f (hsame'.took.trans hsame.took))

def Sane (p : Plate) (w : PlateStation) : Prop :=
  (identity w).dev = .none ∨ (identity w).dev = p.identity.dev

structure Read (p : Plate) (known : Identity → Prop) (w : PlateStation) (b : Bool)
    (v : PlateStation) : Prop where
  sane : Sane p v
  kept : initialised v = initialised w
  known : b = true → known (identity v)

theorem Read.failed {known : Identity → Prop} (hv : Sane p v)
    (h : initialised v = initialised w) : Read p known w false v := ⟨hv,h,by rintro ⟨⟩⟩

section Reads
variable {u : PlateStation} {b : Bool}

theorem Took.sane {f : Identity → Identity} (h : Took f w b v)
    (hf : ∀ i, (f i).dev = i.dev) (hw : Sane p w) : Sane p v := by
  have hdev : (identity v).dev = (identity w).dev := by
    rw [h.took]
    split
    · exact hf _
    · rfl
  rw [Sane,hdev]
  exact hw

theorem setDeviceIdentity_read (hw : Sane p w) : wp (plateModem p).spec
    (setDeviceIdentity : AtCode Bool) (Read p (fun i => i.dev = p.identity.dev) w) w := by
  have hread : (setDeviceIdentity : AtCode Bool) =
      readInfo .ati .ati (fun buf i => { i with dev := identify buf i.dev }) := rfl
  rw [hread]
  refine wp_mono (plateModem p).mono (fun b v hv => ?_)
    (readInfo_took (fun i => { i with dev := identify p.ati i.dev }) (fun _ _ h => h) (fun _ => rfl))
  have hdev : identify p.ati (identity w).dev = p.identity.dev := by
    rcases hw with hw | hw
    · rw [hw]
      rfl
    · rw [hw]
      exact identify_again _ _
  cases b with
  | false => exact .failed (by rw [Sane,hv.took]; exact hw) hv.kept
  | true =>
    have htook : (identity v).dev = p.identity.dev := by
      rw [hv.took]
      exact hdev
    exact ⟨.inr htook,hv.kept,fun _ => htook⟩

theorem field_read {known k : Identity → Prop} {q : AtCode Bool} {f : Identity → Identity}
    (hq : ∀ w, wp (plateModem p).spec q (Took f w) w) (hf : ∀ i, (f i).dev = i.dev)
    (hknown : ∀ i, known i → k (f i)) (hw : Read p known u true w) :
    wp (plateModem p).spec q (Read p k u) w := by
  refine wp_mono (plateModem p).mono (fun b v hv => ?_) (hq w)
  refine ⟨hv.sane hf hw.sane,hv.kept.trans hw.kept,?_⟩
  rintro rfl
  rw [hv.took]
  exact hknown _ (hw.known rfl)

theorem Read.still {known : Identity → Prop} (h : Read p known u true w) (k : Took id w false v) :
    Read p known u true v where
  sane := k.sane (fun _ => rfl) h.sane
  kept := k.kept.trans h.kept
  known _ := by
    rw [k.took]
    exact h.known rfl

theorem getIccid_took (w : PlateStation) : wp (plateModem p).spec (getIccid : AtCode Bool)
    (Took (fun i => { i with iccid := p.iccid }) w) w :=
  readInfo_took _ (fun _ _ h => h) (fun _ => rfl)

theorem getImsi_took (w : PlateStation) : wp (plateModem p).spec (getImsi : AtCode Bool)
    (Took (fun i => { i with imsi := p.imsi }) w) w :=
  readInfo_took _ (fun _ _ h => h) (fun _ => rfl)

theorem getImei_took (w : PlateStation) : wp (plateModem p).spec (getImei : AtCode Bool)
    (Took (fun i => { i with imei := p.imei }) w) w :=
  readInfo_took _ (fun _ _ h => h) (fun _ => rfl)

theorem getMeid_took (w : PlateStation) : wp (plateModem p).spec (getMeid : AtCode Bool)
    (Took (fun i => { i with meid := p.meid }) w) w :=
  readInfo_took _ (fun _ _ h => h) (fun _ => rfl)

theorem imsi_took (w : PlateStation) : wp (plateModem p).spec (Prog.upTo id (fun _ => do
      let got ← getImsi
      if got then return true else
        wait 1000
        return false) 3 false : AtCode Bool) (Took (fun i => { i with imsi := p.imsi }) w) w := by
  refine wp_upTo (plateModem p).mono (fun _ got u => Took _ w got u) (fun _ _ _ h _ => h)
    (fun _ _ h => h) (fun n got u hu hgot => ?_) ⟨rfl,rfl⟩
  obtain rfl : got = false := hgot
  refine wp_seq (plateModem p).mono (getImsi_took u) (fun b v hv => ?_)
  have htook : Took (fun i => { i with imsi := p.imsi }) w b v := by
    refine ⟨?_,hv.kept.trans hu.kept⟩
    rw [hv.took,hu.took]
    rfl
  cases b with
  | true => exact htook
  | false => exact (wp_bind _ _ _ _).mpr ((Modem.wp_wait _ _).mpr htook)

theorem read_then {known k : Identity → Prop} {q rest : AtCode Bool}
    (hq : wp (plateModem p).spec q (Read p known u) w)
    (hrest : ∀ v, Read p known u true v → wp (plateModem p).spec rest (Read p k u) v) :
    wp (plateModem p).spec (do
      if ← q then rest else return false) (Read p k u) w := by
  refine wp_seq (plateModem p).mono hq (fun b v hv => ?_)
  cases b with
  | true => exact hrest v hv
  | false =>
    have hfailed : Read p k u false v := .failed hv.sane hv.kept
    exact hfailed

theorem initAfterSim_read (hw : Sane p w) : wp (plateModem p).spec (initAfterSim : AtCode Bool)
    (Read p (fun i => i = p.identity) w) w := by
  refine read_then (setDeviceIdentity_read hw) (fun u hu => ?_)
  rw [wp_bind,wp_get]
  have hinit : wp (plateModem p).spec (deviceInit u.driver.base.devInfo.dev : AtCode Bool)
      (Read p (fun i => i.dev = p.identity.dev) w) u :=
    same_run (fun b v hv => ⟨(hu.still hv).sane,(hu.still hv).kept,fun _ => (hu.still hv).known rfl⟩)
  refine read_then hinit (fun u hu => ?_)
  refine read_then (field_read (k := fun i => i.dev = p.identity.dev ∧ i.iccid = p.iccid)
    getIccid_took (fun _ => rfl) (fun _ h => ⟨h,rfl⟩) hu) (fun u hu => ?_)
  refine read_then (field_read (k := fun i => i.dev = p.identity.dev ∧ i.iccid = p.iccid ∧
    i.imsi = p.imsi) imsi_took (fun _ => rfl) (fun _ h => ⟨h.1,h.2,rfl⟩) hu) (fun u hu => ?_)
  have himei := field_read (k := fun i => i.dev = p.identity.dev ∧ i.iccid = p.iccid ∧
    i.imsi = p.imsi ∧ i.imei = p.imei) getImei_took (fun _ => rfl)
    (fun _ h => ⟨h.1,h.2.1,h.2.2,rfl⟩) hu
  have hmeid : wp (plateModem p).spec (Prog.both getImei getMeid : AtCode Bool)
      (Read p (fun i => i = p.identity) w) u := by
    refine read_then himei (fun u hu => field_read getMeid_took (fun _ => rfl) (fun i h => ?_) hu)
    obtain ⟨dev,iccid,imsi,imei,meid⟩ := i
    obtain ⟨rfl,rfl,rfl,rfl⟩ := h
    rfl
  refine read_then hmeid (fun u hu => same_run (fun b v hv => ?_))
  exact ⟨(hu.still hv).sane,(hu.still hv).kept,fun _ => (hu.still hv).known rfl⟩

end Reads

structure Known (p : Plate) (w : PlateStation) : Prop where
  sane : Sane p w
  known : initialised w = true → identity w = p.identity

theorem Known.same (h : Known p w) (k : Took id w false v) : Known p v where
  sane := k.sane (fun _ => rfl) h.sane
  known hi := by
    rw [k.took]
    exact h.known (k.kept ▸ hi)

theorem known_run {α : Type} {q : AtCode α} [(same p).frame.Keeps q] (h : Known p w) :
    wp (plateModem p).spec q (fun _ => Known p) w := same_run (fun _ _ hv => h.same hv)

theorem sim_known (h : Known p w) (hw : initialised w = false) :
    wp (plateModem p).spec (initialiseSimCard : AtCode Bool) (fun found u => if found = true then
      wp (plateModem p).spec (initAfterSim : AtCode Bool) (fun read v => if read = true then
        Known p { v with driver := v.driver.onBase (fun b => { b with modemInitialised := true }) }
        else Known p v) u
      else Known p u) w := by
  refine same_run (fun found u hu => ?_)
  have hknown := h.same hu
  cases found with
  | false => exact hknown
  | true =>
    rw [if_pos rfl]
    refine wp_mono (plateModem p).mono (fun read v hv => ?_) (initAfterSim_read hknown.sane)
    cases read with
    | false =>
      have hoff : initialised v = false := hv.kept.trans (hu.kept.trans hw)
      exact ⟨hv.sane,fun hi => absurd hi (by rw [hoff]; exact Bool.false_ne_true)⟩
    | true => exact ⟨hv.sane,fun _ => hv.known rfl⟩

theorem init_known (pin : Option String) (h : Known p w) :
    wp (plateModem p).spec (init pin : AtCode Bool) (fun _ => Known p) w := by
  simp only [init,wp_bind,Modem.wp_enter,wp_get,wp_ite,wp_pure,Modem.wp_modify]
  intro _
  split
  · exact h
  · rename_i hi
    have hoff : initialised w = false := Bool.eq_false_of_not_eq_true hi
    refine same_run (fun powered u hu => ?_)
    have hknown := h.same hu
    cases powered with
    | false => exact hknown
    | true =>
      rw [if_pos rfl]
      split
      · exact sim_known ⟨hknown.sane,hknown.known⟩ (hu.kept.trans hoff)
      · exact sim_known hknown (hu.kept.trans hoff)

theorem deinit_known (h : Known p w) :
    wp (plateModem p).spec (deinit : AtCode Unit) (fun _ => Known p) w := by
  rw [deinit]
  refine wp_seq (plateModem p).mono (known_run h) (fun _ v hv => ?_)
  exact (Modem.wp_modify _ _).mpr ⟨hv.sane,by rintro ⟨⟩⟩

theorem stable (p : Plate) : (same p).Stable (Known p) :=
  ⟨fun _ _ => trivial,fun _ _ hu hv => hu.same hv⟩

instance keeps_init (pin : Option String) :
    (stable p).kept.frame.Keeps (init pin : AtCode Bool) :=
  (stable p).keeps (fun _ hu => init_known pin hu)

instance keeps_deinit : (stable p).kept.frame.Keeps (deinit : AtCode Unit) :=
  (stable p).keeps (fun _ hu => deinit_known hu)

instance keeps_connect : (stable p).kept.frame.Keeps connect := by
  simp only [connect]
  infer_instance

instance keeps_immediately (action : AtCode Bool) [(same p).frame.Keeps action] :
    (stable p).kept.frame.Keeps (immediately action) := by
  simp only [immediately]
  infer_instance

theorem operation_known (o : Operation) (h : Known p w) :
    wp (plateModem p).spec o.code (fun _ => Known p) w := by
  have hkeeps : (stable p).kept.frame.Keeps o.code := by
    cases o <;> simp only [Operation.code,Code.handleEvent,connectWith,setSimPinCheck,
      setNewSimPin] <;> infer_instance
  exact (stable p).holds h

def start (baud : Int) : PlateStation := ⟨⟨.initial baud,.initial⟩,()⟩

theorem identity_known {baud : Int}
    (hw : (plateModem p).Reached Operation.code (fun _ _ => True) (start baud) w)
    (hi : w.driver.base.modemInitialised = true) :
    w.driver.base.devInfo.dev = identify p.ati .none ∧ w.driver.base.devInfo.iccid = p.iccid ∧
    w.driver.base.devInfo.imsi = p.imsi ∧ w.driver.base.devInfo.imei = p.imei ∧
    w.driver.base.devInfo.meid = p.meid := by
  have h : Known p w := hw.keeps ⟨.inl rfl,by rintro ⟨⟩⟩ (fun u o hu _ => operation_known o hu)
    (fun u v hu he => hu.same (event_same he))
  have hidentity : w.driver.base.devInfo.identity = p.identity := h.known hi
  simpa only [DeviceInfo.identity,Plate.identity,Identity.mk.injEq] using hidentity

def aSara : Plate := ⟨"SARA-U201","8944501312167518236","234500012345678","357520070000001",
  "357520070000001"⟩

def answering (p : Plate) : Modem.Peer (sig AtInterface) Unit where
  send _ _ := true
  recv
    | _, .ok, w => some (some (), w)
    | _, .unnatural, w =>
        some (none, { w with driver := w.driver.onInfo (fun i => { i with regStatusCsd := 1 }) })
    | _, .ati, w => some (some p.ati, w)
    | _, .cpin, w => some (some "READY", w)
    | _, .ccid, w => some (some p.iccid, w)
    | _, .cimi, w => some (some p.imsi, w)
    | _, .cgsn, w => some (some p.imei, w)
    | _, .gsn, w => some (some p.meid, w)
    | _, _, w => some (none, w)
  ask
    | _, .hw _, _ => some ()
    | _, .enter _, _ => some ()
    | _, _, _ => none

theorem answering_fair : (answering p).Fair (plateModem p) where
  send _ _ := trivial
  recv := by
    intro β pat w b v h
    cases pat <;> cases h
    case unnatural => exact ⟨.single ⟨.creg 1,rfl⟩,trivial⟩
    case ati => exact ⟨.refl,fun s hs => (Option.some.inj hs).symm⟩
    case ccid => exact ⟨.refl,fun s hs => (Option.some.inj hs).symm⟩
    case cimi => exact ⟨.refl,fun s hs => (Option.some.inj hs).symm⟩
    case cgsn => exact ⟨.refl,fun s hs => (Option.some.inj hs).symm⟩
    case gsn => exact ⟨.refl,fun s hs => (Option.some.inj hs).symm⟩
    all_goals exact ⟨.refl,trivial⟩
  ask _ e w b h := by
    cases e <;> first | exact trivial | cases h

theorem identity_known_sara : ∃ w,
    (plateModem aSara).Reached Operation.code (fun _ _ => True) (start 115200) w ∧
    w.driver.base.modemInitialised = true ∧
    w.driver.base.devInfo.dev = identify aSara.ati .none ∧
    w.driver.base.devInfo.iccid = aSara.iccid ∧ w.driver.base.devInfo.imsi = aSara.imsi ∧
    w.driver.base.devInfo.imei = aSara.imei ∧ w.driver.base.devInfo.meid = aSara.meid := by
  have hrun : ((Operation.init none).code.run
      ((plateModem aSara).machine.play (answering aSara).script) 0
      (start 115200)).map (fun r => initialised r.2) = some true := by decide +kernel
  obtain ⟨⟨_,w⟩,hr,hi⟩ := Option.map_eq_some_iff.mp hrun
  have hreached : (plateModem aSara).Reached Operation.code (fun _ _ => True) (start 115200) w :=
    .call (.init none) .start trivial (answering_fair.runs hr)
  exact ⟨w,hreached,hi,identity_known hreached hi⟩

end PlateStation

end UbloxCellular.Gsm

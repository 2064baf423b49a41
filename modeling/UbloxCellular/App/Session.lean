import UbloxCellular.App.Protocol

namespace UbloxCellular.App
open Interaction

section Session
variable {E : Type → Type 1} {V G α β : Type} {H : Handler E V} {K : Handler I2c.Bus G}
  {w : System V G} {p p' : Protocol} {i s : Pointer}

def Accepted (w : System V G) : Prop := (Protocol.run w.host.trace).isSome = true

abbrev watched (H : Handler E V) (K : Handler I2c.Bus G) : Spec (AppEff E) (System V G) :=
  (system H K).spec.always Accepted

theorem watched_mono : Spec.Mono (watched H K) := Spec.always_mono (Handler.spec_mono _) _

theorem wp_effect {e : AppEff E β} {Q : β → System V G → Prop} (hw : At p i s w.host)
    (h : ∀ u b v, At p i s u.host → act H K e u b v → Accepted v ∧ Q b v) :
    wp (watched H K) (Prog.perform e) Q w := by
  rintro b v ⟨h',hh,hact⟩
  exact h _ b v (hw.around hh) hact

theorem wp_event {e : AppEff E β} {c : β → Event} {f : β → Protocol}
    {Q : β → System V G → Prop} (hw : At p i s w.host)
    (hact : ∀ u b v, act H K e u b v → v = u.onHost (fun h => h.say (c b)))
    (hstep : ∀ b, Allows p (c b) (f b))
    (hgiven : ∀ b, i.isSome = true → (f b).interface.isSome = true)
    (h : ∀ b v, At (f b) i s v.host → Q b v) : wp (watched H K) (Prog.perform e) Q w := by
  refine wp_effect hw (fun u b v hu hv => ?_)
  obtain rfl := hact u b v hv
  have hat : At (f b) i s (u.onHost (fun h => h.say (c b))).host := hu.say (hstep b) (hgiven b)
  exact ⟨hat.accepted,h b _ hat⟩

theorem wp_cellular {q : Prog E α} (hw : At p i s w.host) :
    wp (watched H K) (cellular q) (fun _ v => At p i s v.host) w :=
  Part.wp_code (P := cellularPart H K) (fun _ _ hv => (hw.around hv.2).accepted)
    (fun _ _ _ hv => hw.around hv.2)

theorem wp_gauge {q : I2c.BusCode α} (hw : At p i s w.host) :
    wp (watched H K) (gauge q) (fun _ v => At p i s v.host) w :=
  Part.wp_code (P := gaugePart H K) (fun _ _ hv => (hw.around hv.2).accepted)
    (fun _ _ _ hv => hw.around hv.2)

theorem wp_quiet {e : AppEff E β} (hw : At p i s w.host)
    (hact : ∀ u b v, act H K e u b v → ∃ l, v = u.onHost (fun h => { h with leds := l })) :
    wp (watched H K) (Prog.perform e) (fun _ v => At p i s v.host) w := by
  refine wp_effect hw (fun u b v hu hv => ?_)
  obtain ⟨l,rfl⟩ := hact u b v hv
  have hat : At p i s { u.host with leds := l } := ⟨hu.session,hu.held,hu.kept,hu.given⟩
  exact ⟨hat.accepted,hat⟩

theorem wp_client {Q : MbedClient → System V G → Prop} (hw : At p i s w.host)
    (h : ∀ v, At p i s v.host → Q v.host.client v) : wp (watched H K) client Q w := by
  refine wp_effect hw (fun u b v hu hv => ?_)
  obtain ⟨rfl,rfl⟩ := hv
  exact ⟨hu.accepted,h _ hu⟩

theorem wp_setClient {f : MbedClient → MbedClient} {j t : Pointer} (hw : At p i s w.host)
    (hf : ∀ u, At p i s u → At p j t { u with client := f u.client }) :
    wp (watched H K) (setClient f) (fun _ v => At p j t v.host) w := by
  refine wp_effect hw (fun u b v hu hv => ?_)
  obtain rfl := hv
  exact ⟨(hf _ hu).accepted,hf _ hu⟩

theorem setAll_at {object : Pointer} (ho : object.isSome = true) (hp : p.phase = .preparing)
    (l : List (Resource × Value)) (hw : At p i s w.host) :
    wp (watched H K) (setAll object l) (fun _ v => At p i s v.host) w := by
  induction l generalizing w with
  | nil => exact hw
  | cons x l ih =>
    refine (wp_bind _ _ _ _).mpr (wp_event (f := fun _ => p) hw (fun _ _ _ h => h)
      (fun _ a b hh => ⟨if_pos (.inl ⟨hp,ho⟩),hh⟩) (fun _ => hw.given) (fun _ v hv => ih hv))

theorem createWith_at {k : Kind} {f : Pointer → Protocol} (hw : At p i s w.host)
    (hstep : ∀ o, Allows p (.created k o) (f o)) (hp : ∀ o, (f o).phase = .preparing)
    (hgiven : ∀ o, i.isSome = true → (f o).interface.isSome = true)
    (l : List (Resource × Value)) :
    wp (watched H K) (createWith k l) (fun o v => At (f o) i s v.host) w := by
  refine (wp_bind _ _ _ _).mpr (wp_event hw (fun _ _ _ h => h) hstep hgiven (fun o v hv => ?_))
  cases o with
  | none => exact hv
  | some n => exact wp_seq watched_mono (setAll_at rfl (hp _) l hv) (fun _ _ hu => hu)

def preparing (i s d : Pointer) (l : List Pointer) : Protocol := ⟨.preparing,i,s,d,l,false,false⟩

theorem createInterface_at {l : List Pointer} {address : String}
    (hw : At (preparing none none none l) none none w.host) :
    wp (watched H K) (createInterface address)
      (fun _ v => ∃ o, At (preparing o none none l) o none v.host) w := by
  refine wp_seq watched_mono (wp_setClient (j := none) (t := none) hw
    (fun u hu => ⟨hu.session,hu.held,hu.kept,hu.given⟩)) (fun _ v hv => ?_)
  refine (wp_bind _ _ _ _).mpr (wp_event (c := fun o => .created _ o)
    (f := fun o => preparing o none none l) hv (fun _ _ _ h => h) (fun o a b hh => ⟨rfl,
      hh.answered,hh.pressed,fun ha => absurd (hh.interface ha) Bool.false_ne_true⟩)
    (fun _ => nofun) (fun o v hv => ?_))
  refine wp_seq watched_mono (wp_setClient (j := o) (t := none) hv
    (fun u hu => ⟨hu.session,rfl,hu.kept,id⟩)) (fun _ v hv => ?_)
  cases o with
  | none => exact ⟨none,hv⟩
  | some n =>
    exact wp_event (f := fun _ => preparing (some n) none none l) hv (fun _ _ _ h => h)
      (fun _ a b hh => ⟨if_pos ⟨rfl,rfl⟩,hh⟩) (fun _ => hv.given) (fun _ v hv => ⟨_,hv⟩)

section Objects
variable {d : Pointer} {l : List Pointer}

theorem createRegisterObject_at (hw : At (preparing i none none l) i none w.host) :
    wp (watched H K) createRegisterObject
      (fun o v => At (preparing i o none l) i none v.host) w := by
  refine (wp_bind _ _ _ _).mpr (wp_client hw (fun v hv => ?_))
  exact createWith_at (f := fun o => preparing i o none l) hv
    (fun _ _ _ hh => ⟨rfl,hh.answered,hh.pressed,hh.interface⟩) (fun _ => rfl) (fun _ => id) _

theorem createDeviceObject_at (hw : At (preparing i s none l) i none w.host) :
    wp (watched H K) createDeviceObject
      (fun o v => At (preparing i s o (l ++ [o])) i none v.host) w := by
  refine (wp_bind _ _ _ _).mpr (wp_client hw (fun v hv => ?_))
  exact createWith_at (f := fun o => preparing i s o (l ++ [o])) hv
    (fun _ _ _ hh => ⟨rfl,hh.answered,hh.pressed,hh.interface⟩) (fun _ => rfl) (fun _ => id) _

theorem createFirmwareObject_at (hw : At (preparing i s d l) i none w.host) :
    wp (watched H K) createFirmwareObject
      (fun o v => At (preparing i s d (l ++ [o])) i none v.host) w :=
  createWith_at (f := fun o => preparing i s d (l ++ [o])) hw
    (fun _ _ _ hh => ⟨rfl,hh.answered,hh.pressed,hh.interface⟩) (fun _ => rfl) (fun _ => id) _

theorem createServerObject_at (hw : At (preparing i s d l) i none w.host) :
    wp (watched H K) createServerObject
      (fun o v => At (preparing i s d (l ++ [o])) i none v.host) w :=
  createWith_at (f := fun o => preparing i s d (l ++ [o])) hw
    (fun _ _ _ hh => ⟨rfl,hh.answered,hh.pressed,hh.interface⟩) (fun _ => rfl) (fun _ => id) _

theorem setRegisterObject_at {o : Pointer} (hw : At p i none w.host) :
    wp (watched H K) (setRegisterObject o) (fun _ v => At p i o v.host) w := by
  refine wp_setClient hw (fun u hu => ?_)
  rw [if_pos hu.kept]
  exact ⟨hu.session,hu.held,rfl,hu.given⟩

end Objects

structure Working (o : Objects) (p : Protocol) (h : Host) : Prop where
  session : At p p.interface o.registerObject h
  security : p.security = o.registerObject
  device : p.device = o.deviceObject
  objects : o.objectList.Perm p.objects

theorem createObjects_at {ledObject tempObject : Pointer}
    (hw : At (preparing none none none [ledObject,tempObject]) none none w.host) :
    wp (watched H K) (createObjects ledObject tempObject)
      (fun o v => ∃ p, p.phase = .preparing ∧ Working o p v.host) w := by
  refine wp_seq watched_mono (createInterface_at hw) (fun _ v hv => ?_)
  obtain ⟨i,hv⟩ := hv
  refine wp_seq watched_mono (createRegisterObject_at hv) (fun registerObject v hv => ?_)
  refine wp_seq watched_mono (createDeviceObject_at hv) (fun deviceObject v hv => ?_)
  refine wp_seq watched_mono (createFirmwareObject_at hv) (fun firmwareObject v hv => ?_)
  refine wp_seq watched_mono (createServerObject_at hv) (fun serverObject v hv => ?_)
  refine wp_seq watched_mono (setRegisterObject_at hv) (fun _ v hv => ?_)
  have hobjects : ([deviceObject,firmwareObject,serverObject] ++ [ledObject,tempObject]).Perm
      ([ledObject,tempObject] ++ [deviceObject,firmwareObject,serverObject]) :=
    List.perm_append_comm
  exact ⟨_,rfl,hv,rfl,rfl,hobjects⟩

theorem memoryFree_at (hw : At p i s w.host) :
    wp (watched H K) memoryFree (fun _ v => At p i s v.host) w := by
  refine wp_seq watched_mono (wp_quiet hw (fun u _ _ h => ⟨u.host.leds,h⟩)) (fun _ v hv => ?_)
  exact wp_seq watched_mono (wp_quiet hv (fun u _ _ h => ⟨u.host.leds,h⟩)) (fun _ _ hu => hu)

section Rounds
variable {o : Objects}

def Going (o : Objects) (w : System V G) : Prop :=
  ∃ p, p.phase.running = true ∧ Working o p w.host

def Stopping (o : Objects) (w : System V G) : Prop :=
  ∃ p, p.phase.running = true ∧ p.pressed = true ∧ Working o p w.host

theorem mark_connected {error : Int} (hw : Going o w) :
    wp (watched H K) (mark (.connected error)) (fun _ v => ∃ p,
      p.phase = (if error = 0 then .connected else .unconnected) ∧ Working o p v.host) w := by
  obtain ⟨p,hp,hw⟩ := hw
  refine wp_event (f := fun _ => { p with phase := if error = 0 then .connected else .unconnected })
    hw.session (fun _ _ _ h => h) (fun _ a b hh => ⟨?_,hh.answered,hh.pressed,hh.interface⟩)
    (fun _ => hw.session.given) (fun _ _ hv => ⟨_,rfl,hv,hw.security,hw.device,hw.objects⟩)
  exact Protocol.connected_step hp

theorem ask_at {service : Service} (hp : p.phase = .connected) (hw : Working o p w.host)
    (hi : p.interface.isSome = true)
    (hcall : ∀ a b, Heard p a b →
      (p.known a b).onCall .connected service = some { p.known a b with phase := .asked }) :
    wp (watched H K) (call p.interface service) (fun _ => Going o) w := by
  refine wp_event (f := fun _ => { p with phase := .asked }) hw.session (fun _ _ _ h => h)
    (fun _ a b hh => ⟨?_,hh.answered,hh.pressed,hh.interface⟩) (fun _ => hw.session.given)
    (fun _ _ hv => ⟨_,rfl,hv,hw.security,hw.device,hw.objects⟩)
  have hstep : (p.known a b).step (.call p.interface service) =
      (p.known a b).onCall p.phase service := if_pos ⟨hi,rfl⟩
  rw [hstep,hp]
  exact hcall a b hh

theorem set_at {r : Resource} {x : Value} (hp : p.phase = .connected) (hw : Working o p w.host) :
    wp (watched H K) (set o.deviceObject r x) (fun _ v => Working o p v.host) w :=
  wp_event (f := fun _ => p) hw.session (fun _ _ _ h => h)
    (fun _ _ _ hh => ⟨if_pos (.inr ⟨hp,hw.device.symm⟩),hh⟩) (fun _ => hw.session.given)
    (fun _ _ hv => ⟨hv,hw.security,hw.device,hw.objects⟩)

theorem testRegister_at (hp : p.phase = .connected) (hw : Working o p w.host) :
    wp (watched H K) (testRegister o.registerObject o.objectList) (fun _ => Going o) w := by
  refine (wp_bind _ _ _ _).mpr (wp_client hw.session (fun v hv => ?_))
  have hworking : Working o p v.host := ⟨hv,hw.security,hw.device,hw.objects⟩
  rw [wp_ite,hv.held]
  split
  · rename_i hi
    exact ask_at hp hworking hi (fun _ _ _ => if_pos ⟨hw.security.symm,hw.objects⟩)
  · exact ⟨p,by rw [hp]; rfl,hworking⟩

theorem testUpdateRegister_at (hp : p.phase = .connected) (hw : Working o p w.host) :
    wp (watched H K) testUpdateRegister (fun _ => Going o) w := by
  refine (wp_bind _ _ _ _).mpr (wp_client hw.session (fun v hv => ?_))
  rw [wp_ite,hv.held,hv.kept]
  split
  · rename_i hr
    have hknown := hv.answered hr
    have hworking : Working o { p with answered := true } v.host :=
      ⟨hknown,hw.security,hw.device,hw.objects⟩
    obtain ⟨a,b,-,hheard,-⟩ := hknown.session
    exact ask_at (p := { p with answered := true }) hp hworking
      (hheard.interface (hheard.answered rfl))
      (fun _ _ hh => if_pos ⟨hw.security.symm,hh.answered rfl⟩)
  · exact ⟨p,by rw [hp]; rfl,hv,hw.security,hw.device,hw.objects⟩

theorem refresh_at {b : Board} (hp : p.phase = .connected) (hw : Working o p w.host) :
    wp (watched H K) (refresh b o.deviceObject) (fun _ => Going o) w := by
  have hworking {v : System V G} (hv : At p p.interface o.registerObject v.host) :
      Working o p v.host := ⟨hv,hw.security,hw.device,hw.objects⟩
  refine wp_seq watched_mono (wp_gauge hw.session) (fun level v hv => ?_)
  refine wp_seq watched_mono (set_at hp (hworking hv)) (fun _ v hv => ?_)
  refine wp_seq watched_mono (memoryFree_at hv.session) (fun free v hv => ?_)
  refine wp_seq watched_mono (set_at hp (hworking hv)) (fun _ v hv => ?_)
  exact testUpdateRegister_at hp hv

theorem online_at {b : Board} (hp : p.phase = .connected) (hw : Working o p w.host) :
    wp (watched H K) (online b o) (fun _ => Going o) w := by
  refine (wp_bind _ _ _ _).mpr ((wp_bind _ _ _ _).mpr (wp_client hw.session (fun v hv => ?_)))
  have hworking : Working o p v.host := ⟨hv,hw.security,hw.device,hw.objects⟩
  rw [wp_pure,wp_ite]
  split
  · exact refresh_at hp hworking
  · exact testRegister_at hp hworking

theorem going_quiet {e : AppEff E Unit} (hw : Going o w)
    (hact : ∀ u b v, act H K e u b v → ∃ l, v = u.onHost (fun h => { h with leds := l })) :
    wp (watched H K) (Prog.perform e) (fun _ => Going o) w := by
  obtain ⟨p,hp,hw⟩ := hw
  exact wp_mono watched_mono (fun _ v hv => ⟨p,hp,hv,hw.security,hw.device,hw.objects⟩)
    (wp_quiet hw.session hact)

theorem going_ledOff (hw : Going o w) : wp (watched H K) ledOff (fun _ => Going o) w :=
  going_quiet hw (fun _ _ _ h => ⟨_,h⟩)

theorem round_at {interface : InterfaceClass E} {b : Board} (hw : Going o w) :
    wp (watched H K) (round interface b o ())
      (fun r => r.elim (fun _ => Going o) (fun _ => Stopping o)) w := by
  obtain ⟨p,hp,hw⟩ := hw
  refine (wp_bind _ _ _ _).mpr (wp_effect hw.session (fun u pressed v hu hv => ?_))
  obtain ⟨rfl,rfl⟩ := hv
  refine ⟨hu.accepted,?_⟩
  rw [wp_ite]
  split
  · rename_i hpressed
    exact ⟨{ p with pressed := true },hp,rfl,hu.pressed hpressed,hw.security,hw.device,hw.objects⟩
  · have hgoing : Going o _ := ⟨p,hp,hu,hw.security,hw.device,hw.objects⟩
    refine wp_seq watched_mono (going_quiet hgoing (fun _ _ _ h => ⟨_,h⟩)) (fun _ v hv => ?_)
    obtain ⟨p,hp,hw⟩ := hv
    refine wp_seq watched_mono (wp_cellular hw.session) (fun error v hv => ?_)
    refine wp_seq watched_mono (mark_connected ⟨p,hp,hv,hw.security,hw.device,hw.objects⟩)
      (fun _ v hv => ?_)
    have honline : wp (watched H K) (serve b o error)
        (fun _ => Going o) v := by
      obtain ⟨q,hq,hv⟩ := hv
      rw [serve,wp_ite]
      split
      · rename_i he
        exact online_at (hq.trans (if_pos he)) hv
      · rename_i he
        exact going_ledOff ⟨q,by rw [hq,if_neg he]; rfl,hv⟩
    refine wp_seq watched_mono honline (fun _ v hv => ?_)
    refine wp_seq watched_mono (going_ledOff hv) (fun _ v hv => ?_)
    exact wp_seq watched_mono (going_quiet hv (fun u _ _ h => ⟨u.host.leds,h⟩)) (fun _ _ hv => hv)

end Rounds

section Ends
variable {o : Objects}

theorem testUnregister_at (hp : p.phase.running = true) (hpressed : p.pressed = true)
    (hw : Working o p w.host) : wp (watched H K) testUnregister (fun _ v => ∃ q,
      (q.phase = .leaving ∨ q.phase.running = true ∧ q.pressed = true ∧ q.interface = none) ∧
      Working o q v.host) w := by
  refine (wp_bind _ _ _ _).mpr (wp_client hw.session (fun v hv => ?_))
  rw [wp_ite,hv.held]
  split
  · rename_i hi
    refine wp_event (f := fun _ => { p with phase := .leaving }) hv (fun _ _ _ h => h)
      (fun _ a b hh => ⟨?_,hh.answered,hh.pressed,hh.interface⟩) (fun _ => hv.given)
      (fun _ _ hu => ⟨_,.inl rfl,hu,hw.security,hw.device,hw.objects⟩)
    have hstep : (p.known a b).step (.call p.interface (.unregisterObject none)) =
        (p.known a b).onCall p.phase (.unregisterObject none) := if_pos ⟨hi,rfl⟩
    rw [hstep]
    exact Protocol.unregister_step hp (hh.pressed hpressed)
  · rename_i hi
    have hnone : p.interface = none := Option.not_isSome_iff_eq_none.mp hi
    exact ⟨p,.inr ⟨hp,hpressed,hnone⟩,hv,hw.security,hw.device,hw.objects⟩

theorem stop_at {interface : InterfaceClass E} (hw : Stopping o w) :
    wp (watched H K) (stop interface) (fun _ v => ∃ q, q.phase = .stopped ∧
      Working o q v.host) w := by
  obtain ⟨p,hp,hpressed,hw⟩ := hw
  have hwait := wp_quiet (H := H) (K := K) (e := .wait 500) hw.session
    (fun u _ _ h => ⟨u.host.leds,h⟩)
  refine wp_seq watched_mono hwait (fun _ v hv => ?_)
  refine wp_seq watched_mono (testUnregister_at hp hpressed
    ⟨hv,hw.security,hw.device,hw.objects⟩) (fun _ v hv => ?_)
  obtain ⟨q,hq,hv⟩ := hv
  refine wp_seq watched_mono (wp_cellular hv.session) (fun error v hu => ?_)
  refine (wp_bind _ _ _ _).mpr (wp_event (f := fun _ => { q with phase := .disconnected }) hu
    (fun _ _ _ h => h) (fun _ a b hh => ⟨?_,hh.answered,hh.pressed,hh.interface⟩)
    (fun _ => hu.given) (fun _ v hu => ?_))
  · exact Protocol.disconnected_step (hq.imp id (fun h => ⟨h.1,hh.pressed h.2.1,h.2.2⟩))
  refine wp_seq watched_mono (wp_cellular hu) (fun _ v hu => ?_)
  refine (wp_bind _ _ _ _).mpr (wp_event (f := fun _ => { q with phase := .stopped }) hu
    (fun _ _ _ h => h) (fun _ a b hh => ⟨rfl,hh.answered,hh.pressed,hh.interface⟩)
    (fun _ => hu.given) (fun _ v hu => ?_))
  have hleds : wp (watched H K) ledOff (fun _ v => At { q with phase := .stopped } q.interface
      o.registerObject v.host) v := wp_quiet hu (fun _ _ _ h => ⟨_,h⟩)
  exact wp_mono watched_mono (fun _ _ h => ⟨{ q with phase := .stopped },rfl,h,hv.security,
    hv.device,hv.objects⟩) hleds

end Ends

def Over (w : System V G) : Prop :=
  ∃ p, Protocol.run w.host.trace = some p ∧ (p.phase = .failed ∨ p.phase = .stopped)

theorem At.over (hw : At p i s w.host) (hp : p.phase = .failed ∨ p.phase = .stopped) : Over w := by
  obtain ⟨a,b,hrun,-⟩ := hw.session
  exact ⟨_,hrun,hp⟩

theorem work_at {interface : InterfaceClass E} {b : Board} {ledObject tempObject : Pointer}
    (hw : At (preparing none none none [ledObject,tempObject]) none none w.host) :
    wp (watched H K) (work interface b ledObject tempObject) (fun _ => Over) w := by
  refine wp_seq watched_mono (createObjects_at hw) (fun o v hv => ?_)
  obtain ⟨p,hp,hv⟩ := hv
  refine wp_seq watched_mono (wp_cellular hv.session) (fun _ u hu => ?_)
  have hgoing : Going o u := ⟨p,by rw [hp]; rfl,hu,hv.security,hv.device,hv.objects⟩
  refine wp_seq watched_mono (wp_iterate (fun _ => Going o) hgoing (fun _ _ h => round_at h))
    (fun _ v hv => ?_)
  exact wp_mono watched_mono (fun _ _ h => let ⟨_,hq,hu⟩ := h; hu.session.over (.inr hq))
    (stop_at hv)

theorem main_at {interface : InterfaceClass E} {b : Board} {v : V} {g : G} :
    wp (watched H K) (main interface b) (fun _ => Over) ⟨v,g,.start⟩ := by
  have hstart : At .start none none Host.start :=
    ⟨⟨false,false,rfl,⟨id,id,nofun⟩,nofun,nofun⟩,rfl,rfl,nofun⟩
  refine wp_seq watched_mono (wp_quiet hstart (fun _ _ _ h => ⟨_,h⟩)) (fun _ u hu => ?_)
  have hobject {l : List Pointer} {id : String} {Q : Pointer → System V G → Prop} {u : System V G}
      (hu : At { Protocol.start with objects := l } none none u.host)
      (hQ : ∀ o u, At { Protocol.start with objects := l ++ [o] } none none u.host → Q o u) :
      wp (watched H K) (create (.object id)) Q u :=
    wp_event (f := fun o => { Protocol.start with objects := l ++ [o] }) hu (fun _ _ _ h => h)
      (fun _ _ _ hh => ⟨rfl,hh.answered,hh.pressed,hh.interface⟩) (fun _ => nofun) hQ
  refine (wp_bind _ _ _ _).mpr (hobject hu (fun ledObject u hu => ?_))
  refine (wp_bind _ _ _ _).mpr (hobject hu (fun tempObject u hu => ?_))
  refine wp_seq watched_mono (wp_cellular hu) (fun ready u hu => ?_)
  refine (wp_bind _ _ _ _).mpr (wp_event (f := fun _ => { Protocol.start with
    phase := if ready then .preparing else .failed, objects := [ledObject,tempObject] }) hu
    (fun _ _ _ h => h) (fun _ _ _ hh => ⟨rfl,hh.answered,hh.pressed,hh.interface⟩) (fun _ => nofun)
    (fun _ u hu => ?_))
  rw [wp_ite]
  split
  · rename_i hready
    rw [if_pos hready] at hu
    exact work_at hu
  · rename_i hready
    exact wp_mono watched_mono (fun _ _ h => At.over h (.inl (if_neg hready)))
      (wp_quiet hu (fun _ _ _ h => ⟨_,h⟩))

theorem main_follows {interface : InterfaceClass E} {b : Board} {v : V} {g : G}
    (hw : Moment (system H K) (main interface b) ⟨v,g,.start⟩ w) :
    (Protocol.run w.host.trace).isSome = true :=
  always_moment (I := Accepted) main_at rfl hw

end Session

def ready : InterfaceClass I2c.Bus where
  init _ := return true
  setCredentials _ _ _ := return ()
  connect := return 0
  disconnect := return 0
  deinit := return ()

def anything {E : Type → Type 1} : Handler E Unit := fun _ _ _ _ _ => True

theorem main_follows_stopped : ∃ w : System Unit Unit,
    Moment (system anything anything) (main ready ⟨true,0⟩) ⟨(),(),.start⟩ w ∧
    w.host.trace.head? = some (.mark .deinitialised) ∧ w.host.trace.length = 40 ∧
    (Protocol.run w.host.trace).isSome = true := by
  have hrun : ((main ready ⟨true,0⟩).run (rehearse deadBus deadBus lively (fun _ => some 7)) 3
      ⟨(),(),.start⟩).map (fun r => (r.2.host.trace.head?, r.2.host.trace.length)) =
      some (some (.mark .deinitialised), 40) := by decide +kernel
  obtain ⟨⟨_,w⟩,hr,hw⟩ := Option.map_eq_some_iff.mp hrun
  obtain ⟨hhead,hlength⟩ := Prod.mk.inj hw
  have hx := run_exec (H := system anything anything) id (rehearse_system anything anything
    (fun _ _ _ _ _ _ => trivial) (fun _ _ _ _ _ _ => trivial) lively_around) hr
  exact ⟨w,hx.moment,hhead,hlength,main_follows hx.moment⟩

end UbloxCellular.App

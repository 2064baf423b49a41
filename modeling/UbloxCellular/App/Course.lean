import UbloxCellular.App.System

namespace UbloxCellular.App
open Interaction

def marks : List Event → List Mark
  | [] => []
  | .mark m :: es => m :: marks es
  | .created _ _ :: es => marks es
  | .set _ _ _ :: es => marks es
  | .call _ _ :: es => marks es
  | .callback _ :: es => marks es
  | .button :: es => marks es

theorem marks_around {h h' : Host} (hh : Around h h') : marks h'.trace = marks h.trace := by
  induction hh with
  | refl => rfl
  | tail _ hstep ih =>
    cases hstep with
    | callback c hi => exact ih
    | button => exact ih

section Course
variable {E : Type → Type 1} {V G α β : Type} {H : Handler E V} {K : Handler I2c.Bus G}
  {A R D : List Mark → V → Prop} {w : System V G} {m : List Mark}

def System.Holds (A : List Mark → V → Prop) (w : System V G) : Prop :=
  A (marks w.host.trace) w.cellular

abbrev always (H : Handler E V) (K : Handler I2c.Bus G) (A : List Mark → V → Prop) :
    Spec (AppEff E) (System V G) := (system H K).spec.always (System.Holds A)

theorem always_mono : Spec.Mono (always H K A) := Spec.always_mono (Handler.spec_mono _) _

def apart (H : Handler E V) (K : Handler I2c.Bus G) (A : List Mark → V → Prop) :
    Frame (AppEff E) (System V G) where
  spec := always H K A
  mono := always_mono
  pre := System.Holds A
  rel w v := v.cellular = w.cellular ∧ marks v.host.trace = marks w.host.trace
  refl _ := ⟨rfl,rfl⟩
  trans _ _ _ h k := ⟨k.1.trans h.1,k.2.trans h.2⟩
  keep w v h hw := by
    rw [System.Holds,h.1,h.2]
    exact hw

theorem apart_effect {e : AppEff E β} (h : ∀ u b v, act H K e u b v →
    v.cellular = u.cellular ∧ marks v.host.trace = marks u.host.trace) :
    (apart H K A).Keeps (Prog.perform e) := by
  constructor
  rintro w hw b v ⟨h',hh,hact⟩
  obtain ⟨hcellular,hmarks⟩ := h _ b v hact
  have hrel : (apart H K A).rel w v := ⟨hcellular,hmarks.trans (marks_around hh)⟩
  exact ⟨(apart H K A).keep w v hrel hw,hrel⟩

instance : (apart H K A).Keeps (client : AppCode E MbedClient) :=
  apart_effect (fun _ _ _ h => by rw [h.2]; exact ⟨rfl,rfl⟩)

instance (f : MbedClient → MbedClient) : (apart H K A).Keeps (setClient f : AppCode E Unit) :=
  apart_effect (fun _ _ _ h => by rw [h]; exact ⟨rfl,rfl⟩)

instance (k : Kind) : (apart H K A).Keeps (create k : AppCode E Pointer) :=
  apart_effect (fun _ _ _ h => by rw [h]; exact ⟨rfl,rfl⟩)

instance (i : Pointer) (s : Service) : (apart H K A).Keeps (call i s : AppCode E Unit) :=
  apart_effect (fun _ _ _ h => by rw [h]; exact ⟨rfl,rfl⟩)

instance (o : Pointer) (r : Resource) (x : Value) :
    (apart H K A).Keeps (set o r x : AppCode E Unit) :=
  apart_effect (fun _ _ _ h => by rw [h]; exact ⟨rfl,rfl⟩)

instance : (apart H K A).Keeps (heapSize : AppCode E UInt32) :=
  apart_effect (fun _ _ _ h => by rw [h]; exact ⟨rfl,rfl⟩)

instance : (apart H K A).Keeps (buttonPressed : AppCode E Bool) :=
  apart_effect (fun _ _ _ h => by rw [h.2]; exact ⟨rfl,rfl⟩)

instance : (apart H K A).Keeps (ledOn : AppCode E Unit) :=
  apart_effect (fun _ _ _ h => by rw [h]; exact ⟨rfl,rfl⟩)

instance : (apart H K A).Keeps (ledOff : AppCode E Unit) :=
  apart_effect (fun _ _ _ h => by rw [h]; exact ⟨rfl,rfl⟩)

instance (ms : Nat) : (apart H K A).Keeps (wait ms : AppCode E Unit) :=
  apart_effect (fun _ _ _ h => by rw [h]; exact ⟨rfl,rfl⟩)

instance (q : I2c.BusCode α) : (apart H K A).Keeps (gauge q : AppCode E α) := by
  constructor
  intro w hw
  exact Part.wp_code (P := gaugePart H K)
    (fun v _ h => (apart H K A).keep w v ⟨h.1,marks_around h.2⟩ hw)
    (fun _ _ _ h => ⟨h.1,marks_around h.2⟩)

instance (o : Pointer) (l : List (Resource × Value)) :
    (apart H K A).Keeps (setAll o l : AppCode E Unit) := by
  induction l with
  | nil => exact Frame.keeps_pure ()
  | cons x l ih =>
    simp only [setAll]
    infer_instance

instance (k : Kind) (l : List (Resource × Value)) :
    (apart H K A).Keeps (createWith k l : AppCode E Pointer) := by
  simp only [createWith]
  infer_instance

instance (led temp : Pointer) :
    (apart H K A).Keeps (createObjects led temp : AppCode E Objects) := by
  simp only [createObjects,createInterface,createRegisterObject,createDeviceObject,
    createFirmwareObject,createServerObject,setRegisterObject]
  infer_instance

instance (b : Board) (o : Objects) (error : Int) :
    (apart H K A).Keeps (serve b o error : AppCode E Unit) := by
  simp only [serve,online,registerSuccessful,refresh,memoryFree,testUpdateRegister,testRegister]
  infer_instance

instance : (apart H K A).Keeps (testUnregister : AppCode E Unit) := by
  simp only [testUnregister]
  infer_instance

-- The stages of an interface class in the hands of main(): R while it is in use, D once it has
-- been disconnected, and A of every moment, for all that main() has had of it.
structure Course (H : Handler E V) (interface : InterfaceClass E) (A R D : List Mark → V → Prop)
    (v : V) : Prop where
  start : A [] v
  init : wp (H.spec.always (A [])) (interface.init (some "0000")) (fun ready u =>
    if ready = true then R [.initialised true] u else A [.initialised false] u) v
  used : ∀ m u, R m u → A m u
  setCredentials : ∀ m u, R m u →
    wp (H.spec.always (A m)) (interface.setCredentials none none none) (fun _ => R m) u
  connect : ∀ m u, R m u →
    wp (H.spec.always (A m)) interface.connect (fun error => R (.connected error :: m)) u
  disconnect : ∀ m u, R m u →
    wp (H.spec.always (A m)) interface.disconnect (fun error => D (.disconnected error :: m)) u
  left : ∀ m u, D m u → A m u
  deinit : ∀ m u, D m u →
    wp (H.spec.always (A m)) interface.deinit (fun _ => A (.deinitialised :: m)) u

theorem wp_apart {q : AppCode E α} [hq : (apart H K A).Keeps q] {R : List Mark → V → Prop}
    (hR : ∀ m u, R m u → A m u) (hw : w.Holds R) :
    wp (always H K A) q (fun _ v => v.Holds R) w := by
  refine wp_mono always_mono (fun _ v hv => ?_) (hq.run w (hR _ _ hw))
  rw [System.Holds,hv.1,hv.2]
  exact hw

theorem wp_driver {q : Prog E α} {Q : α → V → Prop} (hw : w.Holds A)
    (h : wp (H.spec.always (A (marks w.host.trace))) q Q w.cellular) :
    wp (always H K A) (cellular q) (fun a v => v.Holds A ∧ Q a v.cellular ∧
      marks v.host.trace = marks w.host.trace) w := by
  refine Part.wp_code (P := cellularPart H K) (fun v hv hr => ?_) (fun a v hx hr => ?_)
  · rw [System.Holds,marks_around hr.2]
    exact always_moment h hw hv
  · rw [System.Holds,marks_around hr.2]
    obtain ⟨hA,hQ⟩ := always_sound h hw hx
    exact ⟨hA,hQ,rfl⟩

theorem wp_called {q : Prog E α} {f : α → Mark} {S : α → List Mark → V → Prop}
    {rest : α → AppCode E β} {Q : β → System V G → Prop} (hw : w.Holds A)
    (hq : wp (H.spec.always (A (marks w.host.trace))) q
      (fun a => S a (f a :: marks w.host.trace)) w.cellular)
    (hS : ∀ a m u, S a m u → A m u)
    (hrest : ∀ a v, v.Holds (S a) → wp (always H K A) (rest a) Q v) :
    wp (always H K A) (do
      let a ← cellular q
      mark (f a)
      rest a) Q w := by
  refine wp_seq always_mono (wp_driver hw hq) (fun a u hu => (wp_bind _ _ _ _).mpr ?_)
  obtain ⟨-,hS',hm⟩ := hu
  rintro b v ⟨h',hh,rfl⟩
  have hmarks : marks (h'.say (.mark (f a))).trace = f a :: marks w.host.trace :=
    congrArg (f a :: ·) ((marks_around hh).trans hm)
  have hholds : S a (marks (h'.say (.mark (f a))).trace) u.cellular := by
    rw [hmarks]
    exact hS'
  exact ⟨hS a _ _ hholds,hrest a _ hholds⟩

def Finished : List Mark → Prop
  | .deinitialised :: _ => True
  | [.initialised false] => True
  | _ => False

section Stages
variable {interface : InterfaceClass E} {v : V}

theorem round_course {b : Board} {o : Objects} (h : Course H interface A R D v)
    (hw : w.Holds R) :
    wp (always H K A) (round interface b o ()) (fun _ u => u.Holds R) w := by
  refine wp_seq always_mono (wp_apart h.used hw) (fun pressed u hu => ?_)
  rw [wp_ite]
  split
  · exact hu
  refine wp_seq always_mono (wp_apart h.used hu) (fun _ u hu => ?_)
  refine wp_called (S := fun _ => R) (h.used _ _ hu) (h.connect _ _ hu) (fun _ => h.used)
    (fun error u hu => ?_)
  exact wp_apart h.used hu

theorem stop_course (h : Course H interface A R D v) (hw : w.Holds R) :
    wp (always H K A) (stop interface) (fun _ u => u.Holds A ∧ Finished (marks u.host.trace)) w := by
  refine wp_seq always_mono (wp_apart h.used hw) (fun _ u hu => ?_)
  refine wp_seq always_mono (wp_apart h.used hu) (fun _ u hu => ?_)
  refine wp_called (S := fun _ => D) (h.used _ _ hu) (h.disconnect _ _ hu) (fun _ => h.left)
    (fun _ u hu => ?_)
  refine wp_called (S := fun _ m x => A m x ∧ Finished m) (f := fun _ => .deinitialised)
    (h.left _ _ hu) (wp_mono (Spec.always_mono H.spec_mono _) (fun _ _ hx => ⟨hx,trivial⟩)
      (h.deinit _ _ hu)) (fun _ _ _ hx => hx.1) (fun _ u hu => ?_)
  exact wp_apart (fun _ _ hx => hx.1) hu

theorem work_course {b : Board} {ledObject tempObject : Pointer} (h : Course H interface A R D v)
    (hw : w.Holds R) : wp (always H K A) (work interface b ledObject tempObject)
      (fun _ u => u.Holds A ∧ Finished (marks u.host.trace)) w := by
  refine wp_seq always_mono (wp_apart h.used hw) (fun o u hu => ?_)
  refine wp_seq always_mono (wp_driver (h.used _ _ hu) (h.setCredentials _ _ hu)) (fun _ x hx => ?_)
  have hholds : x.Holds R := by
    rw [System.Holds,hx.2.2]
    exact hx.2.1
  refine wp_seq always_mono (wp_iterate (Q := fun _ u => u.Holds R) (fun _ u => u.Holds R) hholds
    (fun _ u hu => ?_)) (fun _ u hu => stop_course h hu)
  exact wp_mono always_mono (fun r x hx => by cases r <;> exact hx) (round_course h hu)

theorem main_course {b : Board} {g : G} (h : Course H interface A R D v) :
    wp (always H K A) (main interface b) (fun _ u => u.Holds A ∧ Finished (marks u.host.trace))
      ⟨v,g,.start⟩ := by
  have hstart : (System.mk v g Host.start).Holds (fun m x => m = [] ∧ x = v) := ⟨rfl,rfl⟩
  have hfirst : ∀ m x, m = [] ∧ x = v → A m x := by
    rintro m x ⟨rfl,rfl⟩
    exact h.start
  refine wp_seq always_mono (wp_apart hfirst hstart) (fun _ u hu => ?_)
  refine wp_seq always_mono (wp_apart hfirst hu) (fun ledObject u hu => ?_)
  refine wp_seq always_mono (wp_apart hfirst hu) (fun tempObject u hu => ?_)
  refine wp_called (S := fun ready m x => if ready = true then R m x else
    A m x ∧ m = [.initialised false]) (hfirst _ _ hu) ?_ ?_ (fun ready u hu => ?_)
  · rw [hu.1,hu.2]
    refine wp_mono (Spec.always_mono H.spec_mono _) (fun ready x hx => ?_) h.init
    cases ready with
    | true => exact hx
    | false => exact ⟨hx,rfl⟩
  · intro ready m x hx
    cases ready with
    | true => exact h.used m x hx
    | false => exact hx.1
  · rw [wp_ite]
    cases ready with
    | true => exact work_course h hu
    | false =>
      refine wp_mono always_mono (fun _ x hx => ⟨hx.1,?_⟩) (wp_apart (fun _ _ hx => hx.1) hu)
      rw [hx.2]
      trivial

theorem course_moment {b : Board} {g : G} (h : Course H interface A R D v)
    (hw : Moment (system H K) (main interface b) ⟨v,g,.start⟩ w) : w.Holds A :=
  always_moment (main_course h) h.start hw

end Stages

end Course

end UbloxCellular.App

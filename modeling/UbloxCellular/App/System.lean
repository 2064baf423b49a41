import UbloxCellular.App.Main

namespace UbloxCellular.App
open Interaction

inductive Event where
  | created (k : Kind) (object : Pointer)
  | set (object : Pointer) (r : Resource) (v : Value)
  | call (interface : Pointer) (s : Service)
  | callback (c : Callback)
  | button
  | mark (m : Mark)
  deriving DecidableEq, Repr

-- What main() shares with the callbacks of the client library and with the button, and all that
-- went on there, newest first.
structure Host where
  client : MbedClient
  buttonPressed : Bool
  leds : Leds
  trace : List Event

def Host.say (h : Host) (e : Event) : Host := { h with trace := e :: h.trace }

def Host.start : Host := ⟨.new device,false,⟨true,true,true⟩,[]⟩

-- The library calls back once it has been asked for an interface and gave one.
inductive Outside : Host → Host → Prop
  | callback (h : Host) (c : Callback) : h.client.interface.isSome = true →
      Outside h { h.say (.callback c) with client := c.handle h.client }
  | button (h : Host) : Outside h { h.say .button with buttonPressed := true, leds := .on }

abbrev Around : Host → Host → Prop := Relation.ReflTransGen Outside

structure System (V G : Type) where
  cellular : V
  gauge : G
  host : Host

section Handler
variable {E : Type → Type 1} {V G α β : Type} (H : Handler E V) (K : Handler I2c.Bus G)

def System.onHost (w : System V G) (f : Host → Host) : System V G := { w with host := f w.host }

def act : ∀ ⦃β : Type⦄, AppEff E β → System V G → β → System V G → Prop
  | _, .cellular e, w, b, w' => H e w.cellular b w'.cellular ∧ w'.gauge = w.gauge ∧ w'.host = w.host
  | _, .gauge e, w, b, w' => K e w.gauge b w'.gauge ∧ w'.cellular = w.cellular ∧ w'.host = w.host
  | _, .client, w, c, w' => c = w.host.client ∧ w' = w
  | _, .setClient f, w, _, w' => w' = w.onHost (fun h => { h with client := f h.client })
  | _, .create k, w, object, w' => w' = w.onHost (fun h => h.say (.created k object))
  | _, .set object r v, w, _, w' => w' = w.onHost (fun h => h.say (.set object r v))
  | _, .call interface s, w, _, w' => w' = w.onHost (fun h => h.say (.call interface s))
  | _, .heapSize, w, _, w' => w' = w
  | _, .buttonPressed, w, b, w' => b = w.host.buttonPressed ∧ w' = w
  | _, .leds l, w, _, w' => w' = w.onHost (fun h => { h with leds := l })
  | _, .wait _, w, _, w' => w' = w
  | _, .mark m, w, _, w' => w' = w.onHost (fun h => h.say (.mark m))

-- Before each effect of main() the library and the button may have done something.
def system : Handler (AppEff E) (System V G) :=
  fun _ e w b w' => ∃ h, Around w.host h ∧ act H K e { w with host := h } b w'

def cellularPart : Part H (system H K) where
  inject _ e := .cellular e
  view w := w.cellular
  rel w w' := w'.gauge = w.gauge ∧ Around w.host w'.host
  refl _ := ⟨rfl,.refl⟩
  trans _ _ _ h k := ⟨k.1.trans h.1,h.2.trans k.2⟩
  step := by
    rintro β e w b w' ⟨h,hh,hact,hgauge,hhost⟩
    exact ⟨hact,hgauge,hhost ▸ hh⟩

def gaugePart : Part K (system H K) where
  inject _ e := .gauge e
  view w := w.gauge
  rel w w' := w'.cellular = w.cellular ∧ Around w.host w'.host
  refl _ := ⟨rfl,.refl⟩
  trans _ _ _ h k := ⟨k.1.trans h.1,h.2.trans k.2⟩
  step := by
    rintro β e w b w' ⟨h,hh,hact,hcellular,hhost⟩
    exact ⟨hact,hcellular,hhost ▸ hh⟩

def rehearse (h : Prog.Oracle E V) (k : Prog.Oracle I2c.Bus G) (around : Host → Host)
    (made : Kind → Pointer) : Prog.Oracle (AppEff E) (System V G) := fun _ e w =>
  let u := w.onHost around
  match e with
  | .cellular e => (h e u.cellular).map (fun r => (r.1, { u with cellular := r.2 }))
  | .gauge e => (k e u.gauge).map (fun r => (r.1, { u with gauge := r.2 }))
  | .client => some (u.host.client, u)
  | .setClient f => some ((), u.onHost (fun h => { h with client := f h.client }))
  | .create k => some (made k, u.onHost (fun h => h.say (.created k (made k))))
  | .set object r v => some ((), u.onHost (fun h => h.say (.set object r v)))
  | .call interface s => some ((), u.onHost (fun h => h.say (.call interface s)))
  | .heapSize => some (0, u)
  | .buttonPressed => some (u.host.buttonPressed, u)
  | .leds l => some ((), u.onHost (fun h => { h with leds := l }))
  | .wait _ => some ((), u)
  | .mark m => some ((), u.onHost (fun h => h.say (.mark m)))

theorem rehearse_system {h : Prog.Oracle E V} {k : Prog.Oracle I2c.Bus G} {around : Host → Host}
    {made : Kind → Pointer} (hh : ∀ ⦃β : Type⦄ (e : E β) v b v', h e v = some (b, v') → H e v b v')
    (hk : ∀ ⦃β : Type⦄ (e : I2c.Bus β) g b g', k e g = some (b, g') → K e g b g')
    (ha : ∀ x, Around x (around x)) ⦃β : Type⦄ (e : AppEff E β) (w : System V G) (b : β)
    (w' : System V G) (hr : rehearse h k around made e w = some (b, w')) :
    system H K e w b w' := by
  refine ⟨around w.host,ha w.host,?_⟩
  cases e with
  | cellular e =>
    obtain ⟨r,he,hr⟩ := Option.map_eq_some_iff.mp hr
    cases hr
    exact ⟨hh e _ _ _ he,rfl,rfl⟩
  | gauge e =>
    obtain ⟨r,he,hr⟩ := Option.map_eq_some_iff.mp hr
    cases hr
    exact ⟨hk e _ _ _ he,rfl,rfl⟩
  | client => cases hr; exact ⟨rfl,rfl⟩
  | buttonPressed => cases hr; exact ⟨rfl,rfl⟩
  | _ => cases hr; rfl

def lively (h : Host) : Host :=
  match h.trace with
  | .call _ (.registerObject _ _) :: _ =>
    if h.client.interface.isSome then
      { h.say (.callback .objectRegistered) with client := Callback.objectRegistered.handle h.client }
    else h
  | .call _ (.updateRegistration _ _) :: _ =>
    { h.say .button with buttonPressed := true, leds := .on }
  | _ => h

theorem lively_around (h : Host) : Around h (lively h) := by
  unfold lively
  split
  · split
    · exact .single (.callback h .objectRegistered ‹_›)
    · exact .refl
  · exact .single (.button h)
  · exact .refl

def deadBus : Prog.Oracle I2c.Bus Unit
  | _, .lock, u => some ((), u)
  | _, .unlock, u => some ((), u)
  | _, .write _ _ _, u => some (false, u)
  | _, .read _ _, u => some (none, u)
  | _, .wait _, u => some ((), u)

end Handler

end UbloxCellular.App

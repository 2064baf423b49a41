import UbloxCellular.App.System
import Mathlib.Data.List.Perm.Basic

namespace UbloxCellular.App
open Interaction

inductive Phase where
  | starting
  | failed
  | preparing
  | unconnected
  | connected
  | asked
  | leaving
  | disconnected
  | stopped
  deriving DecidableEq, Repr

def Phase.running : Phase → Bool
  | .preparing => true
  | .unconnected => true
  | .connected => true
  | .asked => true
  | _ => false

structure Protocol where
  phase : Phase
  interface : Pointer
  security : Pointer
  device : Pointer
  objects : List Pointer
  answered : Bool
  pressed : Bool
  deriving DecidableEq, Repr

namespace Protocol

def start : Protocol := ⟨.starting,none,none,none,[],false,false⟩

def onCreated (p : Protocol) (o : Pointer) : Phase → Kind → Option Protocol
  | .starting, .object _ => some { p with objects := p.objects ++ [o] }
  | .preparing, .interface _ _ _ => some { p with interface := o }
  | .preparing, .security => some { p with security := o }
  | .preparing, .device => some { p with device := o, objects := p.objects ++ [o] }
  | .preparing, .firmware => some { p with objects := p.objects ++ [o] }
  | .preparing, .server => some { p with objects := p.objects ++ [o] }
  | _, _ => none

-- One request to the server for each connect() that succeeded; the security object it is sent with
-- is the session's own; the last request of all is only made for the button.
def onCall (p : Protocol) : Phase → Service → Option Protocol
  | .preparing, .setPlatformNetworkHandler => some p
  | .connected, .registerObject s l =>
    if s = p.security ∧ l.Perm p.objects then some { p with phase := .asked } else none
  | .connected, .updateRegistration s _ =>
    if s = p.security ∧ p.answered = true then some { p with phase := .asked } else none
  | ph, .unregisterObject _ =>
    if ph.running = true ∧ p.pressed = true then some { p with phase := .leaving } else none
  | _, _ => none

def onMark (p : Protocol) : Phase → Mark → Option Protocol
  | .starting, .initialised ready =>
    some { p with phase := if ready then .preparing else .failed }
  | .leaving, .disconnected _ => some { p with phase := .disconnected }
  | .disconnected, .deinitialised => some { p with phase := .stopped }
  | ph, .connected error =>
    if ph.running then
      some { p with phase := if error = 0 then .connected else .unconnected }
    else none
  | ph, .disconnected _ =>
    if ph.running ∧ p.pressed = true ∧ p.interface = none then
      some { p with phase := .disconnected }
    else none
  | _, _ => none

def step (p : Protocol) : Event → Option Protocol
  | .created k o => p.onCreated o p.phase k
  | .set o _ _ =>
    if (p.phase = .preparing ∧ o.isSome) ∨ (p.phase = .connected ∧ o = p.device) then some p
    else none
  | .call i s => if i.isSome ∧ i = p.interface then p.onCall p.phase s else none
  | .callback c =>
    if p.interface.isSome then
      some { p with answered := p.answered || decide (c = .objectRegistered) }
    else none
  | .button => some { p with pressed := true }
  | .mark m => p.onMark p.phase m

theorem connected_step {p : Protocol} {a b : Bool} {error : Int} (hp : p.phase.running = true) :
    ({ p with answered := a, pressed := b } : Protocol).step (.mark (.connected error)) =
      some { p with
        phase := if error = 0 then .connected else .unconnected, answered := a, pressed := b } := by
  obtain ⟨phase,i,s,d,l,a',b'⟩ := p
  cases phase with
  | preparing => rfl
  | unconnected => rfl
  | connected => rfl
  | asked => rfl
  | _ => cases hp

theorem unregister_step {p : Protocol} {o : Pointer} (hp : p.phase.running = true)
    (hpressed : p.pressed = true) :
    p.onCall p.phase (.unregisterObject o) = some { p with phase := .leaving } := by
  obtain ⟨phase,i,s,d,l,a',b'⟩ := p
  cases phase with
  | preparing => exact if_pos ⟨rfl,hpressed⟩
  | unconnected => exact if_pos ⟨rfl,hpressed⟩
  | connected => exact if_pos ⟨rfl,hpressed⟩
  | asked => exact if_pos ⟨rfl,hpressed⟩
  | _ => cases hp

theorem disconnected_step {p : Protocol} {error : Int} (hp : p.phase = .leaving ∨
    p.phase.running = true ∧ p.pressed = true ∧ p.interface = none) :
    p.step (.mark (.disconnected error)) = some { p with phase := .disconnected } := by
  obtain ⟨phase,i,s,d,l,a',b'⟩ := p
  cases phase with
  | leaving => rfl
  | preparing => exact if_pos (hp.resolve_left nofun)
  | unconnected => exact if_pos (hp.resolve_left nofun)
  | connected => exact if_pos (hp.resolve_left nofun)
  | asked => exact if_pos (hp.resolve_left nofun)
  | _ => exact absurd hp nofun

def run : List Event → Option Protocol
  | [] => some start
  | e :: es => (run es).bind (fun p => p.step e)

def known (p : Protocol) (answered pressed : Bool) : Protocol :=
  { p with answered := answered, pressed := pressed }

end Protocol

theorem Callback.handle_interface (c : Callback) (m : MbedClient) :
    (c.handle m).interface = m.interface := by
  cases c with
  | bootstrapDone o => cases o <;> rfl
  | _ => rfl

theorem Callback.handle_security (c : Callback) (m : MbedClient) :
    (c.handle m).registerSecurity = m.registerSecurity := by
  cases c with
  | bootstrapDone o => cases o <;> rfl
  | _ => rfl

structure Heard (p : Protocol) (a b : Bool) : Prop where
  answered : p.answered = true → a = true
  pressed : p.pressed = true → b = true
  interface : a = true → p.interface.isSome = true

structure At (p : Protocol) (i s : Pointer) (h : Host) : Prop where
  session : ∃ a b, Protocol.run h.trace = some (p.known a b) ∧ Heard p a b ∧
    (h.client.registered = true → a = true) ∧ (h.buttonPressed = true → b = true)
  held : h.client.interface = i
  kept : h.client.registerSecurity = s
  given : i.isSome = true → p.interface.isSome = true

section Session
variable {p p' : Protocol} {i s : Pointer} {h h' : Host} {e : Event}

theorem At.accepted (hw : At p i s h) : (Protocol.run h.trace).isSome = true := by
  obtain ⟨a,b,hrun,-⟩ := hw.session
  rw [hrun]
  rfl

theorem At.outside (hw : At p i s h) (ho : Outside h h') : At p i s h' := by
  obtain ⟨⟨a,b,hrun,hheard,hregistered,hbutton⟩,hheld,hkept,hgiven⟩ := hw
  cases ho with
  | button => exact ⟨⟨a,true,by rw [Host.say,Protocol.run,hrun]; rfl,
      ⟨hheard.answered,fun _ => rfl,hheard.interface⟩,hregistered,fun _ => rfl⟩,hheld,hkept,hgiven⟩
  | callback c hi =>
    have hgave : p.interface.isSome = true := hgiven (hheld ▸ hi)
    have hstep : (p.known a b).step (.callback c) =
        some (p.known (a || decide (c = .objectRegistered)) b) := if_pos hgave
    refine ⟨⟨_,b,by rw [Host.say,Protocol.run,hrun]; exact hstep,
      ⟨fun ha => by rw [hheard.answered ha]; rfl,hheard.pressed,fun _ => hgave⟩,?_,hbutton⟩,
      ?_,?_,hgiven⟩
    · intro hr
      cases c with
      | objectRegistered => exact Bool.or_true a
      | bootstrapDone o =>
        rw [hregistered (by cases o <;> exact hr)]
        rfl
      | objectUnregistered => cases hr
      | _ =>
        rw [hregistered hr]
        rfl
    · rw [← hheld]
      exact c.handle_interface h.client
    · rw [← hkept]
      exact c.handle_security h.client

theorem At.around (hw : At p i s h) (ho : Around h h') : At p i s h' := by
  induction ho with
  | refl => exact hw
  | tail _ hstep ih => exact ih.outside hstep

def Allows (p : Protocol) (e : Event) (p' : Protocol) : Prop :=
  ∀ a b, Heard p a b → (p.known a b).step e = some (p'.known a b) ∧ Heard p' a b

theorem At.say (hw : At p i s h) (hstep : Allows p e p')
    (hgiven : i.isSome = true → p'.interface.isSome = true) : At p' i s (h.say e) := by
  obtain ⟨a,b,hrun,hheard,hregistered,hbutton⟩ := hw.session
  obtain ⟨he,hheard'⟩ := hstep a b hheard
  refine ⟨⟨a,b,?_,hheard',hregistered,hbutton⟩,hw.held,hw.kept,hgiven⟩
  rw [Host.say,Protocol.run,hrun]
  exact he

theorem At.answered (hw : At p i s h) (hr : h.client.registered = true) :
    At { p with answered := true } i s h := by
  obtain ⟨⟨a,b,hrun,hheard,hregistered,hbutton⟩,hheld,hkept,hgiven⟩ := hw
  have ha := hregistered hr
  exact ⟨⟨a,b,hrun,⟨fun _ => ha,hheard.pressed,hheard.interface⟩,hregistered,hbutton⟩,hheld,hkept,
    hgiven⟩

theorem At.pressed (hw : At p i s h) (hb : h.buttonPressed = true) :
    At { p with pressed := true } i s h := by
  obtain ⟨⟨a,b,hrun,hheard,hregistered,hbutton⟩,hheld,hkept,hgiven⟩ := hw
  have hpressed := hbutton hb
  exact ⟨⟨a,b,hrun,⟨hheard.answered,fun _ => hpressed,hheard.interface⟩,hregistered,hbutton⟩,hheld,
    hkept,hgiven⟩

end Session

end UbloxCellular.App

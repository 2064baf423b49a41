import UbloxCellular.I2c.Tape

namespace I2c
open Interaction

structure Moment (β : Type) where
  transfer : Transfer
  before : β
  after : β
  deriving DecidableEq, Repr

structure Recorded (X β : Type) where
  node : Node X
  moments : List (Moment β)

def Recorded.tape {X β : Type} (w : Recorded X β) : Tape := w.moments.map Moment.transfer

def transferred : {γ : Type} → Bus γ → γ → Option Transfer
  | _, .write a data _, b => some (.write a data b)
  | _, .read a k, r => some (.read a k (r.map Vector.toList))
  | _, .lock, _ => none
  | _, .unlock, _ => none
  | _, .wait _, _ => none

namespace Device

variable {X α β γ : Type} (D : Device X) (see : X → β)

def noted (e : Bus γ) (b : γ) (w : Recorded X β) (n' : Node X) : Recorded X β where
  node := n'
  moments := (transferred e b).elim w.moments
    (fun t => ⟨t,see w.node.core,see n'.core⟩ :: w.moments)

def recorded : Handler Bus (Recorded X β) := fun _ e w b w' =>
  D.handler e w.node b w'.node ∧ w' = noted see e b w w'.node

variable {D see}

theorem recorded_node {p : BusCode α} {w w' : Recorded X β} {a : α}
    (h : Exec (D.recorded see) p w a w') : Exec D.handler p w.node a w'.node :=
  h.view (fun _ _ _ _ _ he => he.1)

theorem tape_noted (e : Bus γ) (b : γ) (w : Recorded X β) (n' : Node X) :
    Tape.handler e w.tape b (noted see e b w n').tape := by
  cases e <;> rfl

theorem recorded_tape {p : BusCode α} {w w' : Recorded X β} {a : α}
    (h : Exec (D.recorded see) p w a w') : Exec Tape.handler p w.tape a w'.tape := by
  refine h.view (fun _ e w b w' he => ?_)
  rw [he.2]
  exact tape_noted e b w w'.node

structure Covered (see : X → β) (w w' : Recorded X β) (own : List (Moment β)) : Prop where
  added : w'.moments = own ++ w.moments
  linked : ∀ R : β → β → Prop, (∀ b, R b b) → (∀ a b c, R a b → R b c → R a c) →
    (∀ m ∈ own, R m.before m.after) → R (see w.node.core) (see w'.node.core)

theorem Covered.trans {u v w : Recorded X β} {own own' : List (Moment β)}
    (h : Covered see u v own) (h' : Covered see v w own') : Covered see u w (own' ++ own) where
  added := by rw [h'.added,h.added,List.append_assoc]
  linked R hrefl htrans hm :=
    htrans _ _ _ (h.linked R hrefl htrans (fun m hown => hm m (List.mem_append_right _ hown)))
      (h'.linked R hrefl htrans (fun m hown => hm m (List.mem_append_left _ hown)))

theorem drifts_see (hevent : ∀ x y, D.event x y → see y = see x) {x y : X} (h : D.Drifts x y) :
    see y = see x := by
  induction h with
  | refl => rfl
  | tail _ hyz ih => exact (hevent _ _ hyz).trans ih

theorem covered_step (hevent : ∀ x y, D.event x y → see y = see x) {e : Bus γ} {b : γ}
    {w w' : Recorded X β} (h : D.recorded see e w b w') : ∃ own, Covered see w w' own := by
  obtain ⟨hn,hw⟩ := h
  rw [hw]
  have hsame (hd : D.Drifts w.node.core w'.node.core) (R : β → β → Prop) (hrefl : ∀ b, R b b) :
      R (see w.node.core) (see w'.node.core) := by
    rw [drifts_see hevent hd]
    exact hrefl _
  cases e with
  | write a data r => exact ⟨[⟨_,_,_⟩],rfl,fun _ _ _ hm => hm _ (List.mem_singleton.mpr rfl)⟩
  | read a k => exact ⟨[⟨_,_,_⟩],rfl,fun _ _ _ hm => hm _ (List.mem_singleton.mpr rfl)⟩
  | lock => exact ⟨[],rfl,fun R hrefl _ _ => hsame hn.2 R hrefl⟩
  | unlock => exact ⟨[],rfl,fun R hrefl _ _ => hsame hn.2 R hrefl⟩
  | wait ms => exact ⟨[],rfl,fun R hrefl _ _ => hsame hn.2 R hrefl⟩

theorem recorded_covered (hevent : ∀ x y, D.event x y → see y = see x) {p : BusCode α}
    {w w' : Recorded X β} {a : α} (h : Exec (D.recorded see) p w a w') :
    ∃ own, Covered see w w' own := by
  refine h.linked (R := fun w w' => ∃ own, Covered see w w' own) (fun w =>
    ⟨[],rfl,fun _ hrefl _ _ => hrefl _⟩) ?_ (fun _ e w b w' he => covered_step hevent he)
  rintro u v w ⟨own,h⟩ ⟨own',h'⟩
  exact ⟨own' ++ own,h.trans h'⟩

theorem recorded_suffix {p : BusCode α} {w w' : Recorded X β} {a : α}
    (h : Exec (D.recorded see) p w a w') : w.moments <:+ w'.moments := by
  refine h.linked (R := fun w w' => w.moments <:+ w'.moments) (fun w => List.suffix_rfl)
    (fun _ _ _ => List.IsSuffix.trans) (fun _ e w b w' he => ?_)
  rw [he.2]
  cases e with
  | write a data r => exact List.suffix_cons _ _
  | read a k => exact List.suffix_cons _ _
  | _ => exact List.suffix_rfl

theorem recorded_determined {p : BusCode α} {w u v : Recorded X β} {a b : α}
    {ms : List (Moment β)} (h : Exec (D.recorded see) p w a u) (k : Exec (D.recorded see) p w b v)
    (hu : u.moments <:+ ms) (hv : v.moments <:+ ms) : a = b ∧ u.moments = v.moments := by
  obtain ⟨hab,htape⟩ := Tape.determined (recorded_tape h) (recorded_tape k)
    (hu.map Moment.transfer) (hv.map Moment.transfer)
  refine ⟨hab,?_⟩
  have hlength : u.moments.length = v.moments.length := by
    simpa only [Recorded.tape,List.length_map] using congrArg List.length htape
  exact (List.suffix_of_suffix_length_le hu hv (Nat.le_of_eq hlength)).eq_of_length hlength

def unmoved (D : Device X) (see : X → β) : Frame Bus (Recorded X β) where
  spec := (D.recorded see).spec
  mono := Handler.spec_mono _
  pre _ := True
  rel w w' := see w'.node.core = see w.node.core ∧
    ∃ own, w'.moments = own ++ w.moments ∧ ∀ m ∈ own, m.before = m.after
  refl w := ⟨rfl,[],rfl,by simp⟩
  trans := by
    rintro u v w ⟨hsee,own,hown,hm⟩ ⟨hsee',own',hown',hm'⟩
    refine ⟨hsee'.trans hsee,own' ++ own,by rw [hown',hown,List.append_assoc],fun m h => ?_⟩
    exact (List.mem_append.mp h).elim (hm' m) (hm m)
  keep _ _ _ h := h

theorem unmoved_perform {K : D.Kept γ} (hsee : ∀ x y, K.part y = K.part x → see y = see x)
    {e : Bus α} (hk : K.frame.Keeps (Prog.perform e)) :
    (unmoved D see).Keeps (Prog.perform e) := by
  refine ⟨fun w _ b w' hb => ?_⟩
  obtain ⟨hn,hw⟩ := hb
  have hsame : see w'.node.core = see w.node.core :=
    hsee _ _ (hk.run w.node trivial b w'.node hn)
  refine ⟨hsame,?_⟩
  rw [hw,noted]
  cases transferred e b with
  | none => exact ⟨[],rfl,by simp⟩
  | some t =>
    refine ⟨[⟨t,_,_⟩],rfl,fun m hm => ?_⟩
    rw [List.mem_singleton.mp hm]
    exact hsame.symm

theorem run_unmoved {p : BusCode α} [hp : (unmoved D see).Keeps p] {w w' : Recorded X β} {a : α}
    (h : Exec (D.recorded see) p w a w') : (unmoved D see).rel w w' :=
  wp_sound (H := D.recorded see) (Q := fun _ => (unmoved D see).rel w) (hp.run w trivial) h

def film (see : X → β) (o : Prog.Oracle Bus (Node X)) : Prog.Oracle Bus (Recorded X β) :=
  fun _ e w => (o e w.node).map (fun r => (r.1, noted see e r.1 w r.2))

theorem film_exec {o : Prog.Oracle Bus (Node X)}
    (ho : ∀ ⦃γ : Type⦄ (e : Bus γ) n b n', o e n = some (b, n') → D.handler e n b n')
    {p : BusCode α} {k : Nat} {w w' : Recorded X β} {a : α}
    (h : p.run (film see o) k w = some (a, w')) : Exec (D.recorded see) p w a w' := by
  refine run_exec id (fun γ e w b w' he => ?_) h
  obtain ⟨⟨c,n'⟩,hc,heq⟩ := Option.map_eq_some_iff.mp he
  cases heq
  exact ⟨ho e w.node c n' hc,rfl⟩

end Device

end I2c

import UbloxCellular.Driver.Discipline
import UbloxCellular.Interaction.Watch

namespace UbloxCellular
open Interaction Monitor Code

-- The AT channel as the tasks share it: the number of the last command put on it, and how often it
-- was used out of turn: without the lock, or for the reply to a command of another task.
structure Channel where
  last : Nat
  astray : Nat
  deriving DecidableEq, Repr

namespace Channel

def stray (v : Channel) : Channel := { v with astray := v.astray + 1 }

def Fine (v : Channel) : Prop := v.astray = 0

abbrev Ticket := Option Nat

inductive Usage where
  | own
  | shared
  | command
  | reply
  deriving DecidableEq, Repr

def Usage.play : Usage → Bool → Channel → Ticket → Channel × Ticket
  | .own, _, v, l => (v, l)
  | .shared, true, v, l => (v, l)
  | .command, true, v, _ => ({ v with last := v.last + 1 }, some (v.last + 1))
  | .reply, true, v, l => (if l = some v.last then v else v.stray, l)
  | _, false, v, l => (v.stray, l)

end Channel

section Effects
variable {S : Sig} {β : Type}

@[reducible] def Eff.offChannel : Eff S β → Bool
  | .get => true
  | .modify _ => true
  | .poll => true
  | .wait _ => true
  | .timerStart => true
  | .timerReadMs => true
  | .malloc _ _ => true
  | .setIpAddress _ => true
  | .addressNonzero _ => true
  | .apnconfig _ => true
  | .connectionStatusCb => true
  | .enter _ => true
  | _ => false

abbrev Replies (S : Sig) := ∀ ⦃β : Type⦄, S.Pat β → Bool

def Eff.use (replies : Replies S) : Eff S β → Channel.Usage
  | .send _ => .command
  | .recv p => if replies p then .reply else .shared
  | .read _ _ => .reply
  | .write _ => .reply
  | e => if e.offChannel then .own else .shared

end Effects

structure Sharing (S : Sig) (Op : Type) where
  code : Op → Code S Unit
  urc : S.State → S.State → Prop
  replies : Replies S
  unnatural : replies S.unnatural = false

namespace Sharing
open Channel

variable {S : Sig} {Op : Type}

def rules (C : Sharing S Op) : Rules (Eff S) Op Channel S.State Ticket where
  code := C.code
  start := none
  act _ owns _ e v d l b v' d' l' :=
    e.state C.urc d b d' ∧ (v', l') = (e.use C.replies).play owns v l

abbrev Tracks := Ghost Channel Ticket

def Inside (asked : Bool) (n : Nat) (t : Tracks) : Prop :=
  ∃ v, t.held = some (n, v) ∧ Fine v ∧ (asked = true → t.loc = some v.last)

inductive Place where
  | outside
  | inside (asked : Bool)

def Place.Holds : Place → Tracks → Prop
  | .outside, t => t.held = none
  | .inside asked, t => ∃ n, Inside asked n t

structure Kept (t u : Tracks) : Prop where
  outside : t.held = none → u.held = none
  inside : ∀ asked n, Inside asked n t → Inside asked n u

theorem Kept.refl (t : Tracks) : Kept t t := ⟨id,fun _ _ => id⟩

theorem Kept.holds {a : Place} {t u : Tracks} (h : Kept t u) (ht : a.Holds t) : a.Holds u := by
  cases a with
  | outside => exact h.outside ht
  | inside asked =>
    obtain ⟨n,hn⟩ := ht
    exact ⟨n,h.inside asked n hn⟩

def frame (C : Sharing S Op) (o : Op) (a : Place) : Frame (Locked (Eff S)) Tracks where
  spec := C.rules.watch Fine o
  mono := C.rules.watch_mono Fine o
  pre := a.Holds
  rel := Kept
  refl := Kept.refl
  trans _ _ _ h k := ⟨k.outside ∘ h.outside,fun asked n => k.inside asked n ∘ h.inside asked n⟩
  keep _ _ h ht := h.holds ht

abbrev spec (C : Sharing S Op) (o : Op) : Spec (Locked (Eff S)) Tracks := C.rules.watch Fine o

variable {C : Sharing S Op} {o : Op} {a : Place} {asked : Bool} {α β : Type} {n : Nat}
  {t u : Tracks}

theorem spec_mono : Spec.Mono (C.spec o) := C.rules.watch_mono Fine o

section Rules

theorem within_held {v : Channel} {l : Ticket} (h : Fine v) :
    Within Fine (⟨some (n, v),l⟩ : Tracks) := by
  rintro _ _ ⟨⟩
  exact h

theorem within_free {l : Ticket} : Within Fine (⟨none,l⟩ : Tracks) := by
  rintro _ _ ⟨⟩

theorem inside_asked (h : Inside true n t) : Inside asked n t := by
  obtain ⟨v,hv,hfine,hown⟩ := h
  exact ⟨v,hv,hfine,fun _ => hown rfl⟩

theorem outside_inside {l : Ticket} (h : Inside asked n ⟨none,l⟩) : False := by
  obtain ⟨v,hv,-⟩ := h
  cases hv

theorem inside_level {m : Nat} {v : Channel} {l : Ticket} :
    Inside asked (m + 1) ⟨some (n + 1, v),l⟩ ↔ Inside asked m ⟨some (n, v),l⟩ := by
  constructor
  · rintro ⟨w,hw,h⟩
    cases hw
    exact ⟨v,rfl,h⟩
  · rintro ⟨w,hw,h⟩
    cases hw
    exact ⟨v,rfl,h⟩

theorem inside_kept (ht : Inside asked n t) (hu : Inside true n u) : Kept t u := by
  obtain ⟨v,hv,-⟩ := ht
  refine ⟨fun hn => ?_,fun asked m hm => ?_⟩
  · cases hv.symm.trans hn
  · obtain ⟨v',hv',-⟩ := hm
    cases hv.symm.trans hv'
    exact inside_asked hu

theorem wp_same {e : Eff S β} {Q : β → Tracks → Prop} (ht : Inside asked n t)
    (hplay : ∀ v, Fine v → (asked = true → t.loc = some v.last) →
      (e.use C.replies).play true v t.loc = (v, t.loc))
    (h : ∀ b, Q b t) : wp (C.spec o) (act e) Q t := by
  obtain ⟨held,l⟩ := t
  obtain ⟨v,hv,hfine,hown⟩ := ht
  cases hv
  rintro d b v' d' l' ⟨-,heq⟩
  cases heq.trans (hplay v hfine hown)
  exact ⟨within_held hfine,h b⟩

theorem wp_send {c : S.Cmd} {Q : Bool → Tracks → Prop} (ht : Inside asked n t)
    (h : ∀ b u, Inside true n u → Q b u) : wp (C.spec o) (send c) Q t := by
  obtain ⟨held,l⟩ := t
  obtain ⟨v,hv,hfine,-⟩ := ht
  cases hv
  rintro d b v' d' l' ⟨-,heq⟩
  cases heq
  exact ⟨within_held hfine,h b _ ⟨_,rfl,hfine,fun _ => rfl⟩⟩

theorem keeps_same {e : Eff S β}
    (hplay : ∀ v l, Fine v → (asked = true → l = some v.last) →
      (e.use C.replies).play true v l = (v, l)) : (C.frame o (.inside asked)).Keeps (act e) := by
  refine ⟨?_⟩
  rintro t ⟨n,ht⟩
  exact wp_same ht (fun v hv hown => hplay v t.loc hv hown) (fun _ => Kept.refl t)

end Rules

section Keeps

theorem off_own {e : Eff S β} (he : e.offChannel = true) : e.use C.replies = .own := by
  cases e with
  | get | modify | poll | wait | timerStart | timerReadMs | malloc | setIpAddress
  | addressNonzero | apnconfig | connectionStatusCb | enter => rfl
  | _ => cases he

instance keeps_off {e : Eff S β} [he : Fact (e.offChannel = true)] :
    (C.frame o a).Keeps (act e) := by
  cases a with
  | inside asked => exact keeps_same (fun v l _ _ => by rw [off_own he.out]; rfl)
  | outside =>
    refine ⟨?_⟩
    rintro ⟨held,l⟩ ht
    cases ht
    rintro v d b v' d' l' ⟨-,heq⟩
    rw [off_own he.out] at heq
    cases heq
    exact ⟨rfl,within_free,Kept.refl _⟩

instance keeps_get : (C.frame o a).Keeps (get : Code S S.State) := keeps_off
instance keeps_modify (f : S.State → S.State) : (C.frame o a).Keeps (modify f) := keeps_off
instance keeps_wait (ms : Nat) : (C.frame o a).Keeps (wait ms : Code S Unit) := keeps_off
instance keeps_enter (c : S.Call) : (C.frame o a).Keeps (enter c) := keeps_off

instance keeps_atTimeout : (C.frame o (.inside asked)).Keeps (atTimeout : Code S Int) :=
  keeps_same (fun _ _ _ _ => rfl)
instance keeps_hw (h : Hw) : (C.frame o (.inside asked)).Keeps (hw h : Code S Unit) :=
  keeps_same (fun _ _ _ _ => rfl)
instance keeps_flush : (C.frame o (.inside asked)).Keeps (act .flush : Code S Unit) :=
  keeps_same (fun _ _ _ _ => rfl)
instance keeps_setAtTimeout (t : Int) :
    (C.frame o (.inside asked)).Keeps (act (.setAtTimeout t) : Code S Unit) :=
  keeps_same (fun _ _ _ _ => rfl)
instance keeps_parserTimeout (t : Int) :
    (C.frame o (.inside asked)).Keeps (act (.parserTimeout t) : Code S Unit) :=
  keeps_same (fun _ _ _ _ => rfl)

instance keeps_atSetTimeout (t : Int) :
    (C.frame o (.inside asked)).Keeps (atSetTimeout t : Code S Unit) := by
  rw [atSetTimeout]
  infer_instance

instance keeps_timed (t back : Int) {p : Code S α} [(C.frame o (.inside asked)).Keeps p] :
    (C.frame o (.inside asked)).Keeps (timed t back p) := by
  rw [timed]
  infer_instance

instance keeps_unnatural : (C.frame o (.inside asked)).Keeps (recv S.unnatural) := by
  refine keeps_same (fun v l _ _ => ?_)
  rw [Eff.use,C.unnatural]
  rfl

instance keeps_recvUnnatural :
    (C.frame o (.inside asked)).Keeps (recvUnnatural : Code S Unit) := by
  rw [recvUnnatural]
  infer_instance

theorem play_reply {v : Channel} {l : Ticket} (h : l = some v.last) :
    Usage.reply.play true v l = (v, l) := by
  rw [Usage.play,if_pos h]

instance keeps_recv (p : S.Pat β) : (C.frame o (.inside true)).Keeps (recv p) := by
  refine keeps_same (fun v l _ hown => ?_)
  rw [Eff.use]
  split
  · exact play_reply (hown rfl)
  · rfl

instance keeps_read (buf : Nat) (size : Int) :
    (C.frame o (.inside true)).Keeps (act (.read buf size) : Code S (Int × List UInt8)) :=
  keeps_same (fun _ _ _ hown => play_reply (hown rfl))

instance keeps_write (data : List UInt8) :
    (C.frame o (.inside true)).Keeps (act (.write data) : Code S Int) :=
  keeps_same (fun _ _ _ hown => play_reply (hown rfl))

end Keeps

class Asks (C : Sharing S Op) (o : Op) (p : Code S α) : Prop where
  run : ∀ asked n t, Inside asked n t → wp (C.spec o) p (fun _ u => Inside true n u) t

section Asks

instance asks_send (c : S.Cmd) : Asks C o (send c) :=
  ⟨fun _ _ _ ht => wp_send ht (fun _ _ hu => hu)⟩

theorem asks_then {p : Code S α} {f : α → Code S β} [hp : Asks C o p]
    [hf : ∀ x, (C.frame o (.inside true)).Keeps (f x)] : Asks C o (p >>= f) :=
  ⟨fun asked n t ht => wp_seq spec_mono (hp.run asked n t ht) (fun x u hu =>
    wp_mono spec_mono (fun _ _ hk => hk.inside true n hu) ((hf x).run u ⟨n,hu⟩))⟩

instance asks_exchange (c : S.Cmd) : Asks C o (exchange c) := asks_then

instance asks_ask (c : S.Cmd) (p : S.Pat β) : Asks C o (ask c p) := asks_then

theorem keeps_asks {p : Code S α} [hp : Asks C o p] : (C.frame o (.inside asked)).Keeps p := by
  refine ⟨?_⟩
  rintro t ⟨n,ht⟩
  exact wp_mono spec_mono (fun _ _ hu => inside_kept ht hu) (hp.run asked n t ht)

instance keeps_exchange (c : S.Cmd) : (C.frame o (.inside asked)).Keeps (exchange c) := keeps_asks

instance keeps_exchanges (cs : List S.Cmd) : (C.frame o (.inside asked)).Keeps (exchanges cs) := by
  induction cs with
  | nil =>
    rw [exchanges]
    infer_instance
  | cons c cs ih =>
    rw [exchanges]
    infer_instance

-- What follows a command may read the answer.
instance (priority := high) keeps_answered {p : Code S α} {f : α → Code S β} [Asks C o p]
    [∀ x, (C.frame o (.inside true)).Keeps (f x)] :
    (C.frame o (.inside asked)).Keeps (p >>= f) := by
  have h : Asks C o (p >>= f) := asks_then
  exact keeps_asks

instance keeps_section {p : Code S α} [hp : (C.frame o (.inside false)).Keeps p] :
    (C.frame o a).Keeps (locked p) := by
  refine ⟨?_⟩
  rintro ⟨held,l⟩ ht
  simp only [locked,lock,unlock,wp_bind,wp_perform]
  cases a with
  | outside =>
    cases ht
    intro v hv
    have hin : Inside false 0 ⟨some (0, v),l⟩ := ⟨v,rfl,hv,nofun⟩
    refine ⟨within_held hv,wp_mono spec_mono (fun x u hu => ?_) (hp.run _ ⟨0,hin⟩)⟩
    obtain ⟨held,l'⟩ := u
    obtain ⟨v',hv',hfine,-⟩ := hu.inside false 0 hin
    cases hv'
    exact ⟨hfine,within_free,fun _ => rfl,fun _ _ h => (outside_inside h).elim⟩
  | inside asked =>
    obtain ⟨n,v,hv,hfine,-⟩ := ht
    cases hv
    have hin : Inside false (n + 1) ⟨some (n + 1, v),l⟩ := ⟨v,rfl,hfine,nofun⟩
    refine ⟨within_held hfine,wp_mono spec_mono (fun x u hu => ?_) (hp.run _ ⟨n + 1,hin⟩)⟩
    obtain ⟨held,l'⟩ := u
    obtain ⟨v',hv',hfine',-⟩ := hu.inside false (n + 1) hin
    cases hv'
    refine ⟨within_held hfine',nofun,fun asked m hm => ?_⟩
    exact inside_level.mp (hu.inside asked (m + 1) (inside_level.mpr hm))

instance keeps_handleEvent : (C.frame o .outside).Keeps (handleEvent : Code S Unit) := by
  rw [handleEvent]
  infer_instance

end Asks

section Runs

theorem watched_code {o : Op} (h : (C.frame o .outside).Keeps (C.code o)) :
    C.rules.Watched Fine o :=
  wp_mono spec_mono (fun _ _ hu => hu.outside rfl) (h.run ⟨none,none⟩ rfl)

theorem run_own {Tid : Type} [DecidableEq Tid]
    (hcode : ∀ o, (C.frame o .outside).Keeps (C.code o)) {o : Op} {last : Nat} {d : S.State}
    {c : Config (Eff S) Tid Op Channel S.State Ticket}
    (h : Relation.ReflTransGen (Step C.rules) (.idle Tid o none ⟨last,0⟩ d) c) :
    c.val.astray = 0 ∧ ∀ t, (c.thread t).code = .ret () → c.holds t = 0 := by
  have hfine : Fine ⟨last,0⟩ := rfl
  have hs : c.Watched C.rules Fine :=
    run_watched (fun o => watched_code (hcode o)) (idle_watched hfine) h
  exact ⟨hs.val,fun t => hs.idle⟩

def play (C : Sharing S Op) (script : Client.Script S) :
    Prog.Oracle (Locked (Eff S)) (Solo Channel S.State Ticket)
  | _, .lock, w => some ((), { w with depth := w.depth + 1 })
  | _, .unlock, w => some ((), { w with depth := w.depth - 1 })
  | _, .act e, w =>
    let r := (e.use C.replies).play (decide (0 < w.depth)) w.val w.loc
    match e.settle (.both 0) w.shared with
    | some (b, _, d) => some (b, ⟨w.depth,r.1,d,r.2⟩)
    | none => (script e w.shared).map (fun x => (x.1, ⟨w.depth,r.1,x.2,r.2⟩))

theorem play_sound {script : Client.Script S} (hs : script.Sound C.urc) {e : Locked (Eff S) β}
    {w w' : Solo Channel S.State Ticket} {b : β} (h : C.play script e w = some (b, w')) :
    C.rules.solo o e w b w' := by
  cases e with
  | lock => cases h; rfl
  | unlock => cases h; rfl
  | act e =>
    simp only [play] at h
    split at h
    · rename_i b v d he
      cases h
      exact ⟨rfl,(settle_sound C.urc he).2,rfl⟩
    · simp only [Option.map_eq_some_iff,Prod.mk.injEq] at h
      obtain ⟨r,hr,rfl,rfl⟩ := h
      exact ⟨rfl,(hs e (.both 0) w.shared r.1 r.2 hr).2,rfl⟩

end Runs

end Sharing
end UbloxCellular

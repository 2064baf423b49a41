import UbloxCellular.Gsm.Frames

namespace UbloxCellular.Gsm
open Interaction Code

structure Exchange where
  command : Cmd
  protocol : Option Int
  ok : Bool
  deriving DecidableEq, Repr

structure Dialog where
  protocol : Option Int
  steps : List Exchange
  deriving DecidableEq, Repr

def Cmd.sets : Cmd → Option Int
  | .upsdAuth protocol => some protocol
  | _ => none

def Cmd.isProfile : Cmd → Bool
  | .upsdApn _ => true
  | .upsdUsername _ => true
  | .upsdPassword _ => true
  | .upsdDynamicIp => true
  | .upsdAuth _ => true
  | .upsdCid _ => true
  | .upsda _ => true
  | _ => false

namespace Dialog

def empty : Dialog := ⟨none,[]⟩

def exchanged (x : Dialog) (c : Cmd) (ok : Bool) : Dialog :=
  ⟨c.sets.orElse (fun _ => x.protocol),⟨c,x.protocol,ok⟩ :: x.steps⟩

def answer (x : Dialog) (ok : Bool) : Dialog :=
  match x.steps with
  | [] => x
  | s :: steps => { x with steps := { s with ok := ok } :: steps }

end Dialog

def dialogModem : Modem (sig AtInterface) Dialog where
  event x d y e := y = x ∧ ∃ u : Urc, e = u.handle d
  allow _ _ _ _ _ := True
  next
    | _, .send c, x, _, _ => x.exchanged c false
    | _, .recv .ok, x, _, b => x.answer b.isSome
    | _, _, x, _, _ => x

abbrev DialogStation := Station (sig AtInterface) Dialog

namespace DialogStation

variable {w : DialogStation} {x y : Dialog} {auth : Security} {protocol : Int}
variable {activated : Bool}

def Won (s : Exchange) : Prop := s.command = .upsda 3 ∧ s.ok = true

instance (s : Exchange) : Decidable (Won s) := inferInstanceAs (Decidable (_ ∧ _))

structure Stops (activated : Bool) (x : Dialog) : Prop where
  returns : activated = true ↔ ∃ s ∈ x.steps, Won s
  last : ∀ later s earlier, x.steps = later ++ s :: earlier → Won s →
    ∀ t ∈ later, t.command.isProfile = false

def Late (x : Dialog) : Prop := ∀ s ∈ x.steps, Won s → s.protocol = some 2

def Lost (x : Dialog) : Prop := ∀ s ∈ x.steps, ¬ Won s

theorem Lost.stops (h : Lost x) : Stops false x where
  returns := iff_of_false Bool.false_ne_true (fun ⟨s,hs,hw⟩ => h s hs hw)
  last later s earlier he hw := by
    refine absurd hw (h s ?_)
    rw [he]
    exact List.mem_append_right _ List.mem_cons_self

theorem Lost.late (h : Lost x) : Late x := fun s hs hw => absurd hw (h s hs)

theorem Lost.exchanged (h : Lost x) {c : Cmd} {ok : Bool} (hc : c = .upsda 3 → ok = false) :
    Lost (x.exchanged c ok) := by
  refine List.forall_mem_cons.mpr ⟨?_,h⟩
  rintro ⟨hcommand,hok⟩
  have hok : ok = true := hok
  rw [hc hcommand] at hok
  cases hok

theorem Lost.won (h : Lost x) : Stops true (x.exchanged (.upsda 3) true) := by
  refine ⟨iff_of_true rfl ⟨_,List.mem_cons_self,rfl,rfl⟩,fun later s earlier he hw => ?_⟩
  cases later with
  | nil => rintro t ⟨⟩
  | cons t later =>
    obtain ⟨-,he⟩ := List.cons.inj he
    refine absurd hw (h s ?_)
    rw [he]
    exact List.mem_append_right _ List.mem_cons_self

inductive Round (tried : Prop) (protocol : Int) (activated : Bool) (x : Dialog) :
    Bool → Dialog → Prop
  | skipped : ¬ tried → Round tried protocol activated x activated x
  | refused : tried → Round tried protocol activated x activated
      (x.exchanged (.upsdAuth protocol) false)
  | answered (ok : Bool) : tried → Round tried protocol activated x ok
      ((x.exchanged (.upsdAuth protocol) true).exchanged (.upsda 3) ok)

theorem Round.lost {tried : Prop} {r : Bool} (h : Round tried protocol false x r y)
    (hx : Lost x) : (r = false ∧ Lost y) ∨ (r = true ∧ tried ∧
      y = (x.exchanged (.upsdAuth protocol) true).exchanged (.upsda 3) true) := by
  have hauth (ok : Bool) : Lost (x.exchanged (.upsdAuth protocol) ok) :=
    hx.exchanged (by rintro ⟨⟩)
  cases h with
  | skipped _ => exact .inl ⟨rfl,hx⟩
  | refused _ => exact .inl ⟨rfl,hauth false⟩
  | answered _ htried =>
    cases r with
    | true => exact .inr ⟨rfl,htried,rfl⟩
    | false => exact .inl ⟨rfl,(hauth true).exchanged (fun _ => rfl)⟩

theorem Round.steps {tried : Prop} {r : Bool} (h : Round tried protocol activated x r y)
    (htried : tried) : ∃ later, y.steps = later ++ x.steps ∧
      ∃ t ∈ later, t.command = .upsdAuth protocol := by
  cases h with
  | skipped hskip => exact absurd htried hskip
  | refused _ => exact ⟨[⟨_,_,_⟩],rfl,_,List.mem_singleton_self _,rfl⟩
  | answered ok _ =>
    exact ⟨[⟨_,_,_⟩,⟨_,_,_⟩],rfl,_,List.mem_cons_of_mem _ (List.mem_singleton_self _),rfl⟩

def Early (x : Dialog) : Prop := ∃ s ∈ x.steps, Won s ∧ s.protocol ≠ some 2

theorem Round.early {tried : Prop} {r : Bool} (h : Round tried protocol activated x r y)
    (htried : tried) (hx : Early x) : Early y ∧ ¬ Stops r y := by
  obtain ⟨s,hs,hw,hprotocol⟩ := hx
  obtain ⟨later,he,t,ht,hc⟩ := h.steps htried
  refine ⟨⟨s,?_,hw,hprotocol⟩,fun hstops => ?_⟩
  · rw [he]
    exact List.mem_append_right _ hs
  · obtain ⟨between,earlier,hsplit⟩ := List.append_of_mem hs
    rw [hsplit,← List.append_assoc] at he
    have hprofile := hstops.last _ s _ he hw t (List.mem_append_left _ ht)
    rw [hc] at hprofile
    cases hprofile

theorem Early.not_late (h : Early x) : ¬ Late x := by
  obtain ⟨s,hs,hw,hprotocol⟩ := h
  exact fun hlate => hprotocol (hlate s hs hw)

theorem Lost.late_won (h : Lost x) :
    Late ((x.exchanged (.upsdAuth 2) true).exchanged (.upsda 3) true) := by
  have hauth : Lost (x.exchanged (.upsdAuth 2) true) := h.exchanged (by rintro ⟨⟩)
  exact List.forall_mem_cons.mpr ⟨fun _ => rfl,hauth.late⟩

theorem Lost.early_won (h : protocol ≠ 2) :
    Early ((x.exchanged (.upsdAuth protocol) true).exchanged (.upsda 3) true) :=
  ⟨_,List.mem_cons_self,⟨rfl,rfl⟩,fun he => h (Option.some.inj he)⟩

def Tried (auth : Security) (protocol : Int) : Prop :=
  auth = .unknown ∨ securityToModem auth = protocol

def Rounds (auth : Security) (x : Dialog) (r : Bool) (y : Dialog) : Prop :=
  ∃ r₀ x₀ r₁ x₁, Round (Tried auth 0) 0 false x r₀ x₀ ∧ Round (Tried auth 1) 1 r₀ x₀ r₁ x₁ ∧
    Round (Tried auth 2) 2 r₁ x₁ r y

theorem Tried.known (h : Tried auth protocol) (hauth : auth ≠ .unknown) :
    securityToModem auth = protocol := h.resolve_left hauth

theorem Rounds.known {r : Bool} (h : Rounds auth x r y) (hx : Lost x)
    (hauth : auth ≠ .unknown) : Stops r y := by
  obtain ⟨r₀,x₀,r₁,x₁,h₀,h₁,h₂⟩ := h
  have hskip {p q : Int} {act r : Bool} {u v : Dialog} (h : Round (Tried auth q) q act u r v)
      (hp : Tried auth p) (hne : p ≠ q) : r = act ∧ v = u := by
    have hq : ¬ Tried auth q := fun hq => hne ((hp.known hauth).symm.trans (hq.known hauth))
    cases h with
    | skipped _ => exact ⟨rfl,rfl⟩
    | refused hq' => exact absurd hq' hq
    | answered _ hq' => exact absurd hq' hq
  have hwon {p : Int} {u : Dialog} (hu : Lost u) :
      Stops true ((u.exchanged (.upsdAuth p) true).exchanged (.upsda 3) true) :=
    (hu.exchanged (by rintro ⟨⟩)).won
  rcases h₀.lost hx with ⟨rfl,hlost⟩ | ⟨rfl,htried,rfl⟩
  · rcases h₁.lost hlost with ⟨rfl,hlost⟩ | ⟨rfl,htried,rfl⟩
    · rcases h₂.lost hlost with ⟨rfl,hlost⟩ | ⟨rfl,-,rfl⟩
      · exact hlost.stops
      · exact hwon hlost
    · obtain ⟨rfl,rfl⟩ := hskip h₂ htried (by decide)
      exact hwon hlost
  · obtain ⟨rfl,rfl⟩ := hskip h₁ htried (by decide)
    obtain ⟨rfl,rfl⟩ := hskip h₂ htried (by decide)
    exact hwon hx

theorem Rounds.unknown {r : Bool} (h : Rounds .unknown x r y) (hx : Lost x) :
    Stops r y ↔ Late y := by
  obtain ⟨r₀,x₀,r₁,x₁,h₀,h₁,h₂⟩ := h
  have hall (p : Int) : Tried .unknown p := .inl rfl
  have hbefore : (r₁ = false ∧ Lost x₁) ∨ Early x₁ := by
    rcases h₀.lost hx with ⟨rfl,hlost⟩ | ⟨rfl,-,rfl⟩
    · rcases h₁.lost hlost with hlost | ⟨-,-,rfl⟩
      · exact .inl hlost
      · exact .inr (Lost.early_won (by decide))
    · exact .inr (h₁.early (hall 1) (Lost.early_won (by decide))).1
  rcases hbefore with ⟨rfl,hlost⟩ | hearly
  · rcases h₂.lost hlost with ⟨rfl,hlost⟩ | ⟨rfl,-,rfl⟩
    · exact iff_of_true hlost.stops hlost.late
    · exact iff_of_true (hlost.exchanged (by rintro ⟨⟩)).won hlost.late_won
  · obtain ⟨hafter,hfail⟩ := h₂.early (hall 2) hearly
    exact iff_of_false hfail hafter.not_late

theorem events_dialog {v : DialogStation} (h : dialogModem.Events w v) :
    v.modem = w.modem ∧ v.driver.iface.auth = w.driver.iface.auth :=
  Modem.events_keep (P := fun u : DialogStation => u.modem = w.modem ∧
      u.driver.iface.auth = w.driver.iface.auth) h ⟨rfl,rfl⟩ (fun u v hu huv => by
    obtain ⟨hm,urc,hd⟩ := huv
    refine ⟨hm.trans hu.1,Eq.trans ?_ hu.2⟩
    rw [hd]
    cases urc <;> rfl)

theorem exchange_steps (c : Cmd) : wp dialogModem.spec (exchange c : AtCode Bool)
    (fun ok v => v.modem = w.modem.exchanged c ok ∧
      v.driver.iface.auth = w.driver.iface.auth) w := by
  rw [Modem.wp_exchange]
  intro sent _
  split
  · rw [Modem.wp_recvOk]
    intro v ok hv _
    obtain ⟨hm,ha⟩ := events_dialog hv
    refine ⟨?_,ha⟩
    change v.modem.answer ok.isSome = _
    rw [hm]
    rfl
  · exact ⟨rfl,rfl⟩

theorem tryProtocol_round (timeout : Int) (activated : Bool) (protocol : Int) :
    wp dialogModem.spec (tryProtocol timeout activated protocol) (fun r v =>
      Round (Tried w.driver.iface.auth protocol) protocol activated w.modem r v.modem ∧
      v.driver.iface.auth = w.driver.iface.auth) w := by
  simp only [tryProtocol,activate,wp_bind,wp_get,wp_ite,wp_pure]
  split
  · rename_i htried
    refine wp_mono dialogModem.mono (fun ok v hv => ?_) (exchange_steps _)
    obtain ⟨hm,ha⟩ := hv
    cases ok with
    | true =>
      rw [if_pos rfl,Modem.wp_timed]
      refine wp_mono dialogModem.mono (fun ok u hu => ?_) (exchange_steps _)
      obtain ⟨hum,hua⟩ := hu
      rw [hum,hm]
      exact ⟨.answered ok htried,hua.trans ha⟩
    | false =>
      rw [if_neg Bool.false_ne_true,hm]
      exact ⟨.refused htried,ha⟩
  · rename_i hskip
    exact ⟨.skipped hskip,trivial⟩

def Waiting (auth : Security) (v : DialogStation) : Prop :=
  Lost v.modem ∧ v.driver.iface.auth = auth

theorem exchange_waiting {c : Cmd} (hc : c ≠ .upsda 3) (h : Waiting auth w) :
    wp dialogModem.spec (exchange c : AtCode Bool) (fun _ v => Waiting auth v) w := by
  refine wp_mono dialogModem.mono (fun ok v hv => ?_) (exchange_steps c)
  obtain ⟨hm,ha⟩ := hv
  refine ⟨?_,ha.trans h.2⟩
  rw [hm]
  exact h.1.exchanged (fun he => absurd he hc)

theorem optional_waiting {p : Prop} [Decidable p] {c : Cmd} {success : Bool}
    {f : Bool → AtCode Bool} {Q : Bool → DialogStation → Prop} (hc : c ≠ .upsda 3)
    (h : Waiting auth w) (hf : ∀ b v, Waiting auth v → wp dialogModem.spec (f b) Q v) :
    wp dialogModem.spec (if p then exchange c >>= f else pure success >>= f) Q w := by
  rw [wp_ite]
  split
  · rw [wp_bind]
    exact wp_mono dialogModem.mono hf (exchange_waiting hc h)
  · exact hf success w h

theorem rounds_stops (timeout : Int) (h : Waiting auth w) : wp dialogModem.spec (do
      let activated ← tryProtocol timeout false 0
      let activated ← tryProtocol timeout activated 1
      tryProtocol timeout activated 2)
    (fun r v => Stops r v.modem ↔ auth ≠ .unknown ∨ Late v.modem) w := by
  obtain ⟨hlost,rfl⟩ := h
  refine wp_seq dialogModem.mono (tryProtocol_round timeout false 0) (fun r₀ v₀ h₀ => ?_)
  refine wp_seq dialogModem.mono (tryProtocol_round timeout r₀ 1) (fun r₁ v₁ h₁ => ?_)
  refine wp_mono dialogModem.mono (fun r v h₂ => ?_) (tryProtocol_round timeout r₁ 2)
  rw [h₁.2,h₀.2] at h₂
  rw [h₀.2] at h₁
  have hrounds : Rounds w.driver.iface.auth w.modem r v.modem :=
    ⟨r₀,v₀.modem,r₁,v₁.modem,h₀.1,h₁.1,h₂.1⟩
  by_cases hauth : w.driver.iface.auth = .unknown
  · rw [hauth] at hrounds ⊢
    rw [hrounds.unknown hlost]
    exact ⟨.inr,fun h => h.resolve_left (fun hne => hne rfl)⟩
  · exact iff_of_true (hrounds.known hlost hauth) (.inl hauth)

theorem activateProfile_stops (apn username password : String) (ignored : Security)
    (h : Waiting auth w) : wp dialogModem.spec (activateProfile apn username password ignored)
      (fun r v => Stops r v.modem ↔ auth ≠ .unknown ∨ Late v.modem) w := by
  have hwaiting {v : DialogStation} (h : Waiting auth v) :
      Stops false v.modem ↔ auth ≠ .unknown ∨ Late v.modem :=
    iff_of_true h.1.stops (.inr h.1.late)
  simp only [activateProfile,wp_bind,Modem.wp_atTimeout]
  intro timeout
  refine optional_waiting (by rintro ⟨⟩) h (fun _ v hv => ?_)
  refine optional_waiting (by rintro ⟨⟩) hv (fun _ v hv => ?_)
  refine optional_waiting (by rintro ⟨⟩) hv (fun success v hv => ?_)
  rw [wp_ite]
  split
  · refine wp_seq dialogModem.mono (exchange_waiting (by rintro ⟨⟩) hv) (fun ok v hv => ?_)
    rw [wp_ite]
    split
    · exact rounds_stops timeout hv
    · exact hwaiting hv
  · exact hwaiting hv

theorem activate_once_iff {apn username password : String} {ignored : Security} {r : Bool}
    {d : Driver AtInterface} (hx : dialogModem.Runs
      (activateProfile apn username password ignored) ⟨d,.empty⟩ r w) :
    Stops r w.modem ↔ d.iface.auth ≠ .unknown ∨ Late w.modem := by
  refine Modem.sound (activateProfile_stops apn username password ignored ⟨?_,rfl⟩) hx
  rintro s ⟨⟩

def knowing (protocols : List Int) : Modem.Peer (sig AtInterface) Dialog where
  send _ _ := true
  recv
    | _, .ok, w => some (if w.modem.steps.head?.any (fun s => s.command = .upsda 3 ∧
        ¬ s.protocol.any (fun p => p ∈ protocols)) then none else some (), w)
    | _, _, w => some (none, w)
  ask _ _ _ := none

theorem knowing_fair (protocols : List Int) : (knowing protocols).Fair dialogModem where
  send _ _ := trivial
  recv := by
    intro β p w b v h
    cases p <;> cases h <;> exact ⟨.refl,trivial⟩
  ask := by
    intro β e w b h
    trivial

def automatic : Driver AtInterface := ⟨.initial 115200,.initial⟩

theorem knowing_runs (protocols : List Int) (activated won : Bool)
    (h : ((activateProfile "internet" "user" "secret" .unknown).run
      (dialogModem.machine.play (knowing protocols).script) 0 ⟨automatic,.empty⟩).map
      (fun r => (r.1, r.2.modem.steps.any (fun s => decide (Won s)))) = some (activated, won)) :
    ∃ w, dialogModem.Runs (activateProfile "internet" "user" "secret" .unknown) ⟨automatic,.empty⟩
      activated w ∧ (won = true → ∃ s ∈ w.modem.steps, Won s) := by
  obtain ⟨r,hr,he⟩ := Option.map_eq_some_iff.mp h
  obtain ⟨rfl,rfl⟩ := Prod.mk.inj he
  refine ⟨r.2,(knowing_fair protocols).runs hr,fun hwon => ?_⟩
  obtain ⟨s,hs,hs'⟩ := List.any_eq_true.mp hwon
  exact ⟨s,hs,of_decide_eq_true hs'⟩

theorem activate_once_chap : ∃ w : DialogStation, dialogModem.Runs
    (activateProfile "internet" "user" "secret" .unknown) ⟨automatic,.empty⟩ true w ∧
    (Stops true w.modem ↔ automatic.iface.auth ≠ .unknown ∨ Late w.modem) := by
  obtain ⟨w,hx,-⟩ := knowing_runs [2] true true (by decide)
  exact ⟨w,hx,activate_once_iff hx⟩

theorem activate_thrice : ¬ ∀ (apn username password : String) (ignored : Security) (r : Bool)
    (d : Driver AtInterface) (w : DialogStation), dialogModem.Runs
      (activateProfile apn username password ignored) ⟨d,.empty⟩ r w → Stops r w.modem := by
  intro hall
  obtain ⟨w,hx,hwon⟩ := knowing_runs [1] false true (by decide)
  have hreturns := (hall _ _ _ _ _ _ w hx).returns.mpr (hwon rfl)
  cases hreturns

end DialogStation

end UbloxCellular.Gsm

import UbloxCellular.Driver.Credentials

namespace UbloxCellular

-- The value a setting was last given, and whether every call since has left it in place.
structure Setting where
  value : Option String
  kept : Bool
  deriving DecidableEq, Repr

namespace Setting

def unset : Setting := ⟨none,true⟩

def Owes (s : Setting) (v : String) : Prop := s.kept = true ∧ s.value = some v

def give (s : Setting) (arg : Option String) : Setting := arg.elim s (fun v => ⟨some v,true⟩)

def lose (s : Setting) : Setting := ⟨s.value,s.kept && s.value.isNone⟩

-- NULL takes its place, which is read as the empty string.
def blank (s : Setting) : Setting := ⟨s.value,s.kept && s.value.getD "" = ""⟩

variable {s : Setting} {arg : Option String} {v : String}

theorem unset_owes : ¬ unset.Owes v := fun h => Option.some_ne_none v h.2.symm

theorem give_owes (h : (s.give arg).Owes v) : arg = some v ∨ arg = none ∧ s.Owes v := by
  cases arg with
  | none => exact .inr ⟨rfl,h⟩
  | some u => exact .inl h.2

theorem lose_owes : ¬ s.lose.Owes v := by
  rintro ⟨hk,hv⟩
  have hv : s.value = some v := hv
  rw [lose,hv] at hk
  simp at hk

theorem blank_owes (h : s.blank.Owes v) : s.Owes v ∧ v = "" := by
  obtain ⟨hk,hv⟩ := h
  have hv : s.value = some v := hv
  rw [blank,hv] at hk
  obtain ⟨hk,he⟩ := Bool.and_eq_true_iff.mp hk
  exact ⟨⟨hk,hv⟩,of_decide_eq_true he⟩

end Setting

structure Settings where
  pin : Setting
  apn : Setting
  uname : Setting
  pwd : Setting
  deriving DecidableEq, Repr

inductive SettingOp where
  | setCredentials (apn uname pwd : Option String)
  | setSimPin (pin : Option String)
  | connect
  | connectWith (simPin apn uname pwd : Option String)
  deriving DecidableEq, Repr

namespace Settings

def initial : Settings := ⟨.unset,.unset,.unset,.unset⟩

-- The list found for the SIM replaces the user name and the password.
def listed (s : Settings) : Settings := { s with uname := s.uname.lose, pwd := s.pwd.lose }

structure Stored (s : Settings) (pin : Option String) (c : Credentials) : Prop where
  pin : ∀ v, s.pin.Owes v → pin = some v
  apn : ∀ v, s.apn.Owes v → c.apn = some v
  uname : ∀ v, s.uname.Owes v → c.uname.getD "" = v
  pwd : ∀ v, s.pwd.Owes v → c.pwd.getD "" = v

structure Free (s : Settings) : Prop where
  apn : ∀ v, ¬ s.apn.Owes v
  uname : ∀ v, ¬ s.uname.Owes v
  pwd : ∀ v, ¬ s.pwd.Owes v

variable {s : Settings} {pin : Option String} {c : Credentials}

theorem Stored.initial : Stored .initial none ⟨none,none,none⟩ where
  pin _ h := absurd h Setting.unset_owes
  apn _ h := absurd h Setting.unset_owes
  uname _ h := absurd h Setting.unset_owes
  pwd _ h := absurd h Setting.unset_owes

theorem Stored.listed (h : Stored s pin c) : Stored s.listed pin c where
  pin := h.pin
  apn := h.apn
  uname _ hv := absurd hv Setting.lose_owes
  pwd _ hv := absurd hv Setting.lose_owes

theorem Stored.free (h : Stored s pin c) (hapn : c.apn = none) : Free s.listed where
  apn v hv := Option.some_ne_none v ((h.apn v hv).symm.trans hapn)
  uname _ := Setting.lose_owes
  pwd _ := Setting.lose_owes

theorem Free.stored (h : Free s) (hpin : ∀ v, s.pin.Owes v → pin = some v) : Stored s pin c where
  pin := hpin
  apn v hv := absurd hv (h.apn v)
  uname v hv := absurd hv (h.uname v)
  pwd v hv := absurd hv (h.pwd v)

theorem Stored.next (h : Stored s pin c) {config : Option (List String)}
    (hconfig : config ≠ none → Free s) : Stored s pin (c.next config) := by
  cases config with
  | some l => exact (hconfig (Option.some_ne_none l)).stored h.pin
  | none =>
    refine ⟨h.pin,fun v hv => ?_,h.uname,h.pwd⟩
    rw [Credentials.next,Credentials.read,Option.elim_none,Credentials.fillBlank,h.apn v hv]
    rfl

end Settings

namespace SettingOp

def tell : SettingOp → Settings → Settings
  | .setCredentials apn uname pwd, s =>
      ⟨s.pin,s.apn.lose.give apn,s.uname.blank.give uname,s.pwd.blank.give pwd⟩
  | .setSimPin pin, s => { s with pin := s.pin.lose.give pin }
  | .connect, s => s
  | .connectWith simPin apn uname pwd, s =>
      let uname' := s.uname.give uname
      let pwd' := s.pwd.give pwd
      let both := uname.isSome ∧ pwd.isSome
      ⟨s.pin.give simPin,s.apn.give apn,if both then uname' else uname'.blank,
        if both then pwd' else pwd'.blank⟩

def storePin : SettingOp → Option String → Option String
  | .setSimPin pin, _ => pin
  | .connectWith simPin _ _ _, pin => simPin.orElse (fun _ => pin)
  | _, pin => pin

def storeCred : SettingOp → Credentials → Credentials
  | .setCredentials apn uname pwd, _ => ⟨apn,uname,pwd⟩
  | .connectWith _ apn uname pwd, c => c.given apn uname pwd
  | _, c => c

end SettingOp

namespace Settings

variable {s : Settings} {pin : Option String} {c : Credentials}

theorem stored_setCredentials (h : Stored s pin c) (apn uname pwd : Option String) :
    Stored ((SettingOp.setCredentials apn uname pwd).tell s) pin ⟨apn,uname,pwd⟩ := by
  have hblank {t : Setting} {arg : Option String} {v : String}
      (hv : (t.blank.give arg).Owes v) : arg.getD "" = v := by
    rcases Setting.give_owes hv with rfl | ⟨rfl,hv⟩
    · rfl
    · exact (Setting.blank_owes hv).2.symm
  refine ⟨h.pin,fun v hv => ?_,fun v hv => hblank hv,fun v hv => hblank hv⟩
  rcases Setting.give_owes hv with ha | ⟨-,hv⟩
  · exact ha
  · exact absurd hv Setting.lose_owes

theorem stored_setSimPin (h : Stored s pin c) (newPin : Option String) :
    Stored ((SettingOp.setSimPin newPin).tell s) newPin c := by
  refine ⟨fun v hv => ?_,h.apn,h.uname,h.pwd⟩
  rcases Setting.give_owes hv with hp | ⟨-,hv⟩
  · exact hp
  · exact absurd hv Setting.lose_owes

theorem stored_connectWith (h : Stored s pin c) (simPin apn uname pwd : Option String) :
    Stored ((SettingOp.connectWith simPin apn uname pwd).tell s)
      (simPin.orElse (fun _ => pin)) (c.given apn uname pwd) := by
  have hgive {t : Setting} {arg old : Option String} {v : String}
      (ht : ∀ v, t.Owes v → old = some v) (hv : (t.give arg).Owes v) :
      arg.orElse (fun _ => old) = some v := by
    rcases Setting.give_owes hv with rfl | ⟨rfl,hv⟩
    · rfl
    · exact ht v hv
  have hpair {t : Setting} {arg : Option String} {v : String}
      (hb : uname.isSome ∧ pwd.isSome → arg.isSome)
      (hv : (if uname.isSome ∧ pwd.isSome then t.give arg else (t.give arg).blank).Owes v) :
      (if uname.isSome ∧ pwd.isSome then arg else none).getD "" = v := by
    split at hv
    · rename_i hboth
      rw [if_pos hboth]
      rcases Setting.give_owes hv with rfl | ⟨rfl,-⟩
      · rfl
      · cases hb hboth
    · rename_i hone
      rw [if_neg hone]
      exact (Setting.blank_owes hv).2.symm
  exact ⟨fun v hv => hgive h.pin hv,fun v hv => hgive h.apn hv,
    fun v hv => hpair (fun hb => hb.1) hv,fun v hv => hpair (fun hb => hb.2) hv⟩

theorem Stored.told (h : Stored s pin c) (o : SettingOp) :
    Stored (o.tell s) (o.storePin pin) (o.storeCred c) := by
  cases o with
  | setCredentials apn uname pwd => exact stored_setCredentials h apn uname pwd
  | setSimPin newPin => exact stored_setSimPin h newPin
  | connect => exact h
  | connectWith simPin apn uname pwd => exact stored_connectWith h simPin apn uname pwd

def demanded (s : Settings) : Settings :=
  ⟨⟨s.pin.value,true⟩,⟨s.apn.value,true⟩,⟨s.uname.value,true⟩,⟨s.pwd.value,true⟩⟩

end Settings

structure Use (U : Type) where
  settings : Settings
  round : Nat
  made : U
  deriving DecidableEq, Repr

structure Diary (U : Type) where
  settings : Settings
  round : Nat
  uses : List (Use U)

namespace Diary
variable {U : Type}

def empty : Diary U := ⟨.initial,0,[]⟩

def use (x : Diary U) (u : U) : Diary U := { x with uses := ⟨x.settings,x.round,u⟩ :: x.uses }

def attempt (x : Diary U) (u : U) : Diary U := ({ x with round := x.round + 1 } : Diary U).use u

def found (x : Diary U) (config : Option (List String)) : Diary U :=
  config.elim x (fun _ => { x with settings := x.settings.listed })

def tell (o : SettingOp) (x : Diary U) : Diary U :=
  { x with settings := o.tell x.settings, round := 0 }

end Diary

end UbloxCellular

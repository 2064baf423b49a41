import UbloxCellular.Interaction.Wp

namespace Interaction

structure Object (E : Type → Type 1) (Op S R : Type) where
  code : Op → S → Prog E (R × S)

structure Call (Op S R W : Type) where
  op : Op
  self : S
  world : W
  result : R
  self' : S
  world' : W

namespace Object

variable {E : Type → Type 1} {Op S R W : Type} (O : Object E Op S R) (H : Handler E W)

def Made (c : Call Op S R W) : Prop :=
  Exec H (O.code c.op c.self) c.world (c.result, c.self') c.world'

inductive Session : S → W → List (Call Op S R W) → S → W → Prop
  | nil (s : S) (w : W) : Session s w [] s w
  | cons {c : Call Op S R W} {log : List (Call Op S R W)} {t : S} {v : W} :
      O.Made H c → Session c.self' c.world' log t v → Session c.self c.world (c :: log) t v

variable {O H}

theorem Session.made {s t : S} {w v : W} {log : List (Call Op S R W)}
    (h : O.Session H s w log t v) : ∀ c ∈ log, O.Made H c := by
  induction h with
  | nil => simp
  | cons hc _ ih => simpa using ⟨hc,ih⟩

theorem Session.split {s t : S} {w v : W} {log log' : List (Call Op S R W)}
    (h : O.Session H s w (log ++ log') t v) :
    ∃ u x, O.Session H s w log u x ∧ O.Session H u x log' t v := by
  induction log generalizing s w with
  | nil => exact ⟨s,w,.nil s w,h⟩
  | cons c log ih =>
    cases h with
    | cons hc hrest =>
      obtain ⟨u,x,hlog,hlog'⟩ := ih hrest
      exact ⟨u,x,.cons hc hlog,hlog'⟩

theorem Session.last {c : Call Op S R W} {t : S} {w v : W} {log : List (Call Op S R W)}
    (h : O.Session H c.self' w log t v) : t = (log.getLastD c).self' := by
  generalize hs : c.self' = s at h
  induction h generalizing c with
  | nil => exact hs.symm
  | cons hd _ ih =>
    rw [List.getLastD_cons]
    exact ih rfl

theorem Session.lastWorld {c : Call Op S R W} {s t : S} {v : W} {log : List (Call Op S R W)}
    (h : O.Session H s c.world' log t v) : v = (log.getLastD c).world' := by
  generalize hw : c.world' = w at h
  induction h generalizing c with
  | nil => exact hw.symm
  | cons hd _ ih =>
    rw [List.getLastD_cons]
    exact ih rfl

def replay (O : Object E Op S R) (h : Prog.Oracle E W) (n : Nat) :
    List Op → S → W → Option (List (Call Op S R W) × S × W)
  | [], s, w => some ([], s, w)
  | o :: os, s, w => ((O.code o s).run h n w).bind (fun x =>
      (replay O h n os x.1.2 x.2).map (fun y => (⟨o,s,w,x.1.1,x.1.2,x.2⟩ :: y.1, y.2)))

theorem replay_session {h : Prog.Oracle E W} {n : Nat} {os : List Op} {s t : S} {w v : W}
    {log : List (Call Op S R W)}
    (hh : ∀ {α : Type} (p : Prog E α) w a w', p.run h n w = some (a, w') → Exec H p w a w')
    (hr : O.replay h n os s w = some (log, t, v)) : O.Session H s w log t v := by
  induction os generalizing s w log with
  | nil => cases hr; exact .nil _ _
  | cons o os ih =>
    simp only [replay,Option.bind_eq_some_iff,Option.map_eq_some_iff] at hr
    obtain ⟨⟨⟨r,s'⟩,w'⟩,hrun,⟨log',t',v'⟩,hrest,heq⟩ := hr
    cases heq
    exact .cons (c := ⟨o,s,w,r,s',w'⟩) (hh _ _ _ _ hrun) (ih hrest)

end Object

end Interaction

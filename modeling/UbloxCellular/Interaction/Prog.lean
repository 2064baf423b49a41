import Mathlib.Logic.Function.Basic

namespace Interaction

inductive Prog (E : Type → Type 1) : Type → Type 1 where
  | ret {α : Type} (a : α) : Prog E α
  | op {α β : Type} (e : E β) (k : β → Prog E α) : Prog E α
  | loop {α σ γ : Type} (body : σ → Prog E (σ ⊕ γ)) (s : σ) (k : γ → Prog E α) : Prog E α

namespace Prog

variable {E : Type → Type 1} {α β γ σ W : Type}

def bind : {α : Type} → Prog E α → (α → Prog E β) → Prog E β
  | _, .ret a, f => f a
  | _, .op e k, f => .op e (fun b => (k b).bind f)
  | _, .loop body s k, f => .loop body s (fun c => (k c).bind f)

theorem bind_ret (p : Prog E α) : p.bind .ret = p := by
  induction p with
  | ret a => rfl
  | op e k ih => exact congrArg (Prog.op e) (funext ih)
  | loop body s k _ ih => exact congrArg (Prog.loop body s) (funext ih)

instance : Monad (Prog E) where
  pure := .ret
  bind := Prog.bind

theorem bind_same (p : Prog E α) {f g : α → Prog E β} (h : ∀ a, f a = g a) :
    p >>= f = p >>= g := congrArg p.bind (funext h)

theorem bind_bind (p : Prog E α) (f : α → Prog E β) (g : β → Prog E γ) :
    (p.bind f).bind g = p.bind (fun a => (f a).bind g) := by
  induction p with
  | ret a => rfl
  | op e k ih => exact congrArg (Prog.op e) (funext (fun b => ih b f))
  | loop body s k _ ih => exact congrArg (Prog.loop body s) (funext (fun c => ih c f))

instance : LawfulMonad (Prog E) := LawfulMonad.mk' (Prog E) bind_ret (fun _ _ => rfl) bind_bind

theorem ite_then {c : Prop} [Decidable c] (p q : Prog E α) (f : α → Prog E β) :
    (if c then p else q) >>= f = if c then p >>= f else q >>= f := by
  split <;> rfl

theorem elim_then (o : Option γ) (p : Prog E α) (f : γ → Prog E α) (g : α → Prog E β) :
    o.elim p f >>= g = o.elim (p >>= g) (fun c => f c >>= g) := by
  cases o <;> rfl

def perform (e : E β) : Prog E β := .op e .ret

def iterate (body : σ → Prog E (σ ⊕ γ)) (s : σ) : Prog E γ := .loop body s .ret

def unfoldLoop (body : σ → Prog E (σ ⊕ γ)) (s : σ) (k : γ → Prog E α) : Prog E α :=
  (body s).bind (fun | .inl s' => .loop body s' k | .inr c => k c)

def upTo (stop : σ → Bool) (body : σ → Prog E σ) : Nat → σ → Prog E σ
  | 0, s => pure s
  | n + 1, s => if stop s then pure s else body s >>= upTo stop body n

def both (p q : Prog E Bool) : Prog E Bool := p >>= fun b => if b then q else pure false

abbrev Oracle (E : Type → Type 1) (W : Type) := ∀ ⦃β : Type⦄, E β → W → Option (β × W)

def runLoop (step : σ → W → Option ((σ ⊕ γ) × W)) : Nat → σ → W → Option (γ × W)
  | 0, _, _ => none
  | n + 1, s, w =>
    match step s w with
    | none => none
    | some (.inl s', w') => runLoop step n s' w'
    | some (.inr c, w') => some (c, w')

def run (h : Oracle E W) (n : Nat) : {α : Type} → Prog E α → W → Option (α × W)
  | _, .ret a, w => some (a, w)
  | _, .op e k, w => (h e w).bind (fun r => (k r.1).run h n r.2)
  | _, .loop body s k, w =>
    (runLoop (fun s w => (body s).run h n w) n s w).bind (fun r => (k r.1).run h n r.2)

end Prog

inductive Locked (E : Type → Type 1) : Type → Type 1 where
  | lock : Locked E Unit
  | unlock : Locked E Unit
  | act {β : Type} (e : E β) : Locked E β

end Interaction

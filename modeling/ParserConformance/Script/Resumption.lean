/-!
# Actions that can be interrupted

An action changes a state and comes to a value. On its way it may ask for something; then it
stands still until somebody takes it up again with an answer, and perhaps in another state than
the one in which it was left.
-/

namespace ParserConformance.Script

/-- How far an action has come. -/
inductive Course (σ ρ α : Type) where
  /-- It has come to a value. -/
  | done (value : α) (state : σ)
  /-- It asks for something, and goes on with an answer. -/
  | asks (wish : ρ) (state : σ) (next : Bool → σ → Course σ ρ α)

/-- An action on a state that may ask for something on its way. -/
def Resumption (σ ρ α : Type) : Type := σ → Course σ ρ α

variable {σ ρ α β : Type}

/-- What comes to a value, with an action behind it. -/
def Course.follow (f : α → Resumption σ ρ β) : Course σ ρ α → Course σ ρ β
  | .done x s => f x s
  | .asks r s next => .asks r s fun b s => (next b s).follow f

namespace Resumption

@[always_inline]
instance : Monad (Resumption σ ρ) where
  pure x s := .done x s
  bind x f s :=
    match x s with
    | .done a s => f a s
    | course => course.follow f

@[always_inline]
instance : MonadStateOf σ (Resumption σ ρ) where
  get s := .done s s
  set s _ := .done ⟨⟩ s
  modifyGet f s := let (a, s) := f s; .done a s

/-- Asks for something. -/
def ask (r : ρ) : Resumption σ ρ Bool := fun s => .asks r s fun b s => .done b s

end Resumption

end ParserConformance.Script

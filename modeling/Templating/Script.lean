import Templating.Run
import Templating.Value.Shape

/-!
# Scripts

What a helper does with the bodies of its block. A helper cannot look into a body: all it can do is
have it rendered with some data and go on from the text, or from the failure, that comes of it. A
script is the tree of what it asks for and of what it does then. Running a script means supplying
the bodies.
-/

namespace Templating

/-- The bodies of a block. -/
inductive Slot where
  /-- The body between the opening tag and the inverse part. -/
  | primary
  /-- The body after the inverse tag. -/
  | inverse
deriving DecidableEq, Repr

/-- What a helper does. -/
inductive Script (α : Type) where
  /-- It ends with a result. -/
  | done (result : α)
  /-- It fails. -/
  | fail (failure : Failure)
  /-- It has a body rendered with data, and goes on as that turns out. -/
  | call (slot : Slot) (data : Value) (next : Except Failure String → Script α)

namespace Script

variable {α β : Type}

/-- Goes on with the result, if there is one. -/
protected def bind : Script α → (α → Script β) → Script β
  | done a, f => f a
  | fail e, _ => .fail e
  | call slot data next, f => .call slot data fun r => (next r).bind f

instance : Monad Script where
  pure := done
  bind := Script.bind

/-- A result or a failure. -/
def ofExcept : Except Failure α → Script α
  | .ok a => .done a
  | .error e => .fail e

/-- The text of a body rendered with data. A failure of the body is one of the script. -/
def body (slot : Slot) (data : Value) : Script String :=
  .call slot data ofExcept

/-- Runs a script on bodies. That partials are nested too deeply is nothing a script can handle. -/
def run (bodies : Slot → Value → Run String) : Script α → Run α
  | done a => pure a
  | fail e => .fail e
  | call slot data next => do
    match ← (bodies slot data).attempt with
    | .error .nestingLimit => .fail .nestingLimit
    | outcome => (next outcome).run bodies

@[simp] theorem pure_bind (a : α) (f : α → Script β) : (pure a : Script α) >>= f = f a := rfl

@[simp] theorem run_pure (bodies : Slot → Value → Run String) (a : α) :
    (pure a : Script α).run bodies = pure a := rfl

@[simp] theorem run_fail (bodies : Slot → Value → Run String) (e : Failure) :
    (fail e : Script α).run bodies = .fail e := rfl

theorem run_body (bodies : Slot → Value → Run String) (slot : Slot) (data : Value) :
    (body slot data).run bodies = bodies slot data := by
  simp only [body, run]
  rcases bodies slot data with ⟨es, e | s⟩
  · cases e <;> simp [run, Run.attempt, ofExcept, Run.fail]
  · simp [run, Run.attempt, ofExcept]

end Script

end Templating

import Templating.Event
import Templating.Failure

/-!
# Runs

A run is a computation that has already happened: the events it reported, and its result or the
failure that ended it. Events stay when a run fails. Runs form a monad; sequencing stops at the
first failure.
-/

namespace Templating

/-- The events of a computation and what came of it. -/
structure Run (α : Type) where
  events : List Event
  outcome : Except Failure α

namespace Run

variable {α β γ : Type}

@[ext] theorem ext {r s : Run α} (he : r.events = s.events) (ho : r.outcome = s.outcome) :
    r = s := by
  cases r; cases s; simp_all

/-- A result without events. -/
protected def pure (a : α) : Run α := ⟨[], .ok a⟩

/-- Goes on with the result, if there is one. -/
protected def bind (r : Run α) (f : α → Run β) : Run β :=
  match r.outcome with
  | .ok a => ⟨r.events ++ (f a).events, (f a).outcome⟩
  | .error e => ⟨r.events, .error e⟩

instance : Monad Run where
  pure := Run.pure
  bind := Run.bind

/-- A failure without events. -/
def fail (e : Failure) : Run α := ⟨[], .error e⟩

/-- A result or a failure without events. -/
def ofExcept (outcome : Except Failure α) : Run α := ⟨[], outcome⟩

/-- Reports one event. -/
def report (e : Event) : Run Unit := ⟨[e], .ok ()⟩

/-- Takes the failure of a run as a result. -/
def attempt (r : Run α) : Run (Except Failure α) := ⟨r.events, .ok r.outcome⟩

@[simp] theorem pure_eq (a : α) : (pure a : Run α) = ⟨[], .ok a⟩ := rfl

@[simp] theorem ok_bind (es : List Event) (a : α) (f : α → Run β) :
    (⟨es, .ok a⟩ : Run α) >>= f = ⟨es ++ (f a).events, (f a).outcome⟩ := rfl

@[simp] theorem error_bind (es : List Event) (e : Failure) (f : α → Run β) :
    (⟨es, .error e⟩ : Run α) >>= f = ⟨es, .error e⟩ := rfl

@[simp] theorem fail_bind (e : Failure) (f : α → Run β) : (fail e : Run α) >>= f = fail e := rfl

theorem bind_assoc (r : Run α) (f : α → Run β) (g : β → Run γ) :
    r >>= f >>= g = r >>= fun a => f a >>= g := by
  obtain ⟨es, o⟩ := r
  cases o with
  | error e => rfl
  | ok a =>
    simp only [ok_bind]
    rcases f a with ⟨fs, p⟩
    cases p <;> simp

instance : LawfulMonad Run where
  map_const := rfl
  id_map r := by
    obtain ⟨es, o⟩ := r
    cases o <;> simp [Functor.map, Run.bind, Run.pure]
  seqLeft_eq r s := by
    obtain ⟨es, o⟩ := r
    obtain ⟨fs, p⟩ := s
    cases o <;> cases p <;> simp [SeqLeft.seqLeft, Seq.seq, Functor.map, Run.bind, Run.pure]
  seqRight_eq r s := by
    obtain ⟨es, o⟩ := r
    obtain ⟨fs, p⟩ := s
    cases o <;> cases p <;> simp [SeqRight.seqRight, Seq.seq, Functor.map, Run.bind, Run.pure]
  pure_seq f r := rfl
  bind_pure_comp f r := rfl
  bind_map f r := rfl
  pure_bind a f := rfl
  bind_assoc := bind_assoc

end Run

end Templating

import Templating.Render

/-!
# Comparing runs

Renderings that do the same in two ways are compared step by step: a relation between runs that is
kept by sequencing and by the scripts of helpers (`Run.Compositional`) is kept by everything built
from them. Equality is such a relation, and so is `Run.Below`: runs have the same outcome, where a
run that was given up at the limit of nesting is below every other. The latter does not see events
either (`Run.Congruence`).
-/

namespace Templating

namespace Run

variable {α β : Type} {r s : Run α}

/-- Whether two runs have the same outcome, or the first was given up at the limit of nesting. -/
def Below (r s : Run α) : Prop :=
  r.outcome = s.outcome ∨ r.outcome = .error .nestingLimit

@[simp] theorem ofExcept_ok (a : α) : ofExcept (.ok a) = (pure a : Run α) := rfl

theorem ofExcept_bind (x : Except Failure α) (f : α → Except Failure β) :
    ofExcept (x >>= f) = ofExcept x >>= fun a => ofExcept (f a) := by
  cases x with
  | error e => rfl
  | ok a => rfl

theorem ofExcept_map (x : Except Failure α) (f : α → β) :
    ofExcept (x.map f) = f <$> ofExcept x := by
  cases x with
  | error e => rfl
  | ok a => rfl

theorem outcome_bind (r : Run α) (f : α → Run β) :
    (r >>= f).outcome = r.outcome.bind fun a => (f a).outcome := by
  rcases r with ⟨es, e | a⟩
  · rfl
  · rfl

/-- A sequence has a result if all its steps have one. -/
theorem outcome_bind_eq_ok {f : α → Run β} {b : β} :
    (r >>= f).outcome = .ok b ↔ ∃ a, r.outcome = .ok a ∧ (f a).outcome = .ok b := by
  rw [outcome_bind]
  cases r.outcome with
  | error e => exact ⟨nofun, fun ⟨_, hr, _⟩ => nomatch hr⟩
  | ok a => exact ⟨fun hf => ⟨a, rfl, hf⟩, fun ⟨_, hr, hf⟩ => Except.ok.inj hr ▸ hf⟩

/-- A sequence has the outcome of another one if the first steps have one outcome, and so have the
second steps after every result of the first. -/
theorem outcome_bind_congr {f g : α → Run β} (h : r.outcome = s.outcome)
    (hfg : ∀ a, s.outcome = .ok a → (f a).outcome = (g a).outcome) :
    (r >>= f).outcome = (s >>= g).outcome := by
  rw [outcome_bind, outcome_bind, h]
  cases hs : s.outcome with
  | error e => rfl
  | ok a => exact hfg a hs

/-- Two second steps make the same run if they are the same after what the first step gives. -/
theorem bind_congr_of_ok {f g : α → Run β} (h : ∀ a, r.outcome = .ok a → f a = g a) :
    r >>= f = r >>= g := by
  rcases r with ⟨es, e | a⟩
  · rfl
  · rw [ok_bind, ok_bind, h a rfl]

@[simp] theorem outcome_attempt (r : Run α) : r.attempt.outcome = .ok r.outcome := rfl

namespace Below

theorem refl (r : Run α) : Below r r := .inl rfl

theorem outcome_eq {o : Except Failure α} (h : Below r s) (hr : r.outcome = o)
    (ho : o ≠ .error .nestingLimit) : s.outcome = o := by
  rcases h with h | h
  · exact h.symm.trans hr
  · exact absurd (hr.symm.trans h) ho

theorem respects {r' s' : Run α} (hr : r.outcome = r'.outcome) (hs : s.outcome = s'.outcome)
    (h : Below r s) : Below r' s' := by
  unfold Below at *
  rwa [← hr, ← hs]

theorem bind {f g : α → Run β} (h : Below r s) (hfg : ∀ a, Below (f a) (g a)) :
    Below (r >>= f) (s >>= g) := by
  unfold Below
  rw [outcome_bind, outcome_bind]
  rcases h with h | h
  · rw [h]
    cases s.outcome with
    | error e => exact .inl rfl
    | ok a => exact hfg a
  · exact .inr (by rw [h]; rfl)

/-- What a script does is given up when one of the bodies is. -/
theorem script {bodies bodies' : Slot → Value → Run String}
    (h : ∀ slot data, Below (bodies slot data) (bodies' slot data)) (script : Script α) :
    Below (script.run bodies) (script.run bodies') := by
  induction script with
  | done a => exact refl _
  | fail e => exact refl _
  | call slot data next ih =>
      unfold Below
      simp only [Script.run, outcome_bind, outcome_attempt, Except.bind]
      rcases h slot data with hbody | hbody
      · rw [hbody]
        split
        · exact .inl rfl
        · exact ih _
      · rw [hbody]
        exact .inr rfl

end Below

/-- A relation between runs that everything a rendering is built from keeps. -/
structure Compositional (R : {α : Type} → Run α → Run α → Prop) : Prop where
  refl {α : Type} (r : Run α) : R r r
  bind {α β : Type} {r s : Run α} {f g : α → Run β} (h : R r s) (hfg : ∀ a, R (f a) (g a)) :
    R (r >>= f) (s >>= g)
  script {α : Type} {bodies bodies' : Slot → Value → Run String}
    (h : ∀ slot data, R (bodies slot data) (bodies' slot data)) (script : Script α) :
    R (script.run bodies) (script.run bodies')

/-- A relation of this sort between outcomes. -/
structure Congruence (R : {α : Type} → Run α → Run α → Prop) : Prop extends Compositional R where
  respects {α : Type} {r r' s s' : Run α} (hr : r.outcome = r'.outcome)
    (hs : s.outcome = s'.outcome) (h : R r s) : R r' s'

theorem compositional_eq : Compositional fun r s => r = s where
  refl _ := rfl
  bind h hfg := by rw [h, funext hfg]
  script h _ := by rw [funext fun slot => funext (h slot)]

theorem congruence_below : Congruence @Below where
  refl := Below.refl
  respects := Below.respects
  bind := Below.bind
  script := Below.script

theorem congruence_above : Congruence fun r s => Below s r where
  refl := Below.refl
  respects hr hs := Below.respects hs hr
  bind := Below.bind
  script := Below.script

/-- What a script does with its result comes after its calls. -/
theorem run_map_script (bodies : Slot → Value → Run String) (g : α → β) (script : Script α) :
    (g <$> script).run bodies = g <$> script.run bodies := by
  induction script with
  | done a => rfl
  | fail e => rfl
  | call slot data next ih =>
      show Script.run bodies (.call slot data fun r => g <$> next r) = _
      simp only [Script.run, map_bind, ih]
      refine bind_congr fun outcome => ?_
      split
      · rfl
      · rfl

namespace Compositional

variable {R : {α : Type} → Run α → Run α → Prop} (hR : Compositional R)

include hR

/-- The same first step. -/
theorem bind_right (r : Run α) {f g : α → Run β} (h : ∀ a, R (f a) (g a)) :
    R (r >>= f) (r >>= g) :=
  hR.bind (hR.refl r) h

/-- The same steps after the first. -/
theorem bind_left {r s : Run α} (h : R r s) (f : α → Run β) : R (r >>= f) (s >>= f) :=
  hR.bind h fun _ => hR.refl _

theorem map {r s : Run α} (h : R r s) (f : α → β) : R (f <$> r) (f <$> s) := by
  rw [← bind_pure_comp, ← bind_pure_comp]
  exact hR.bind_left h _

end Compositional

end Run

end Templating

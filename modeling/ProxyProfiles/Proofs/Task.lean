import ProxyProfiles.Switch
import Mathlib.Tactic.Lemma
/-!
# Running tasks

A task is a function on states. The lemmas of this module run a task that is put together from
smaller ones: each says what one piece gives and which state it leaves, so that no later proof
has to open the monad. Those on the putting together hold for steps on any state and with any
errors, those on files among them.
-/

namespace ProxyProfiles

open Switch

namespace Task

section Steps

variable {ε σ α β : Type} {t : ExceptT ε (StateM σ) α} {s s' : σ}

lemma bind_apply (t : ExceptT ε (StateM σ) α) (f : α → ExceptT ε (StateM σ) β) (s : σ) :
    (t >>= f) s = match t s with
      | (.ok a, s') => f a s'
      | (.error e, s') => (.error e, s') := by
  simp only [bind, ExceptT.bind, ExceptT.mk, StateT.bind, ExceptT.bindCont]
  rcases t s with ⟨e | a, s'⟩ <;> rfl

lemma map_apply (t : ExceptT ε (StateM σ) α) (f : α → β) (s : σ) :
    (f <$> t) s = match t s with
      | (.ok a, s') => (.ok (f a), s')
      | (.error e, s') => (.error e, s') := by
  simp only [Functor.map, ExceptT.map, ExceptT.mk, StateT.bind, bind]
  rcases t s with ⟨e | a, s'⟩ <;> rfl

@[simp] lemma map_apply_snd (t : ExceptT ε (StateM σ) α) (f : α → β) (s : σ) :
    ((f <$> t) s).2 = (t s).2 := by
  rw [map_apply]
  rcases t s with ⟨e | a, s'⟩ <;> rfl

lemma bind_of_ok {a : α} (h : t s = (.ok a, s')) (f : α → ExceptT ε (StateM σ) β) :
    (t >>= f) s = f a s' := by
  rw [bind_apply, h]

lemma bind_of_error {e : ε} (h : t s = (.error e, s')) (f : α → ExceptT ε (StateM σ) β) :
    (t >>= f) s = (.error e, s') := by
  rw [bind_apply, h]

/-- Two steps succeed together if the first succeeds and then the second. -/
lemma bind_eq_ok {f : α → ExceptT ε (StateM σ) β} {b : β} :
    (t >>= f) s = (.ok b, s') ↔ ∃ a s₁, t s = (.ok a, s₁) ∧ f a s₁ = (.ok b, s') := by
  rcases h : t s with ⟨e | a, s₁⟩
  · rw [bind_of_error h]
    refine ⟨fun hb => ?_, fun ⟨a, s₂, ha, _⟩ => ?_⟩
    · cases hb
    · cases ha
  · rw [bind_of_ok h]
    refine ⟨fun hb => ⟨a, s₁, rfl, hb⟩, fun ⟨a', s₂, ha, hb⟩ => ?_⟩
    cases ha
    exact hb

/-- What two steps do to a state one by one, they do together, if it can be composed. -/
lemma bind_related {R : σ → σ → Prop} {f : α → ExceptT ε (StateM σ) β}
    (htrans : ∀ {a b c}, R a b → R b c → R a c) (ht : ∀ s, R s (t s).2)
    (hf : ∀ a s, R s (f a s).2) (s : σ) : R s ((t >>= f) s).2 := by
  have h := ht s
  rw [bind_apply]
  rcases hts : t s with ⟨e | a, s'⟩ <;> rw [hts] at h
  · exact h
  · exact htrans h (hf a s')

end Steps

variable {ω α : Type}

@[simp] lemma pure_apply (a : α) (s : State ω) : (pure a : Task ω α) s = (.ok a, s) := rfl

@[simp] lemma throw_apply (e : Error) (s : State ω) :
    (throw e : Task ω α) s = (.error e, s) := rfl

end Task

namespace Switch

variable {ω α : Type}

@[simp] lemma report_apply (r : Record) (s : State ω) :
    report r s = (.ok (), { s with log := s.log ++ [r] }) := rfl

@[simp] lemma outside_apply (op : ω → Outcome ω α) (s : State ω) :
    outside op s = ((op s.world).result,
      { s with world := (op s.world).world, log := s.log ++ (op s.world).log }) := rfl

@[simp] lemma attempt_apply (t : Task ω α) (s : State ω) :
    attempt t s = (.ok (t s).1, (t s).2) := rfl

@[simp] lemma replaceCredentials_apply (c : Option Credentials) (s : State ω) :
    replaceCredentials c s =
      (.ok s.session.credentials, { s with session := { s.session with credentials := c } }) := rfl

@[simp] lemma display_apply (b : Badge) (s : State ω) :
    display b s = (.ok (), { s with
      session := { s.session with badge := b }
      shown := s.shown ++ [b]
      log := s.log ++ [.info ("Badge: " ++ b.description)] }) := rfl

end Switch

end ProxyProfiles

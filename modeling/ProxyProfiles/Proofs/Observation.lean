import ProxyProfiles.Proofs.Translation
/-!
# Observation

Any registry can be put under observation: the calls that its host accepts are written down
beside the world on which store and host work. Nothing else changes. An observed operation gives
the same answer as the operation itself, and once what was written down is erased the states are
the same too (`erase_run`).
-/

namespace ProxyProfiles

open Switch

variable {ω α : Type}

/-- A world, and the calls that a host has accepted in it, oldest first. -/
structure Observed (ω : Type) where
  /-- The world. -/
  inner : ω
  /-- The calls accepted so far. -/
  calls : List HostCall := []

namespace Observed

/-- What a host answers to a call. If it accepts, the call is written down. -/
def note (w : Observed ω) (c : HostCall) (o : Outcome ω Unit) : Outcome (Observed ω) Unit where
  result := o.result
  world := ⟨o.world, match o.result with
    | .ok () => w.calls ++ [c]
    | .error _ => w.calls⟩
  log := o.log

lemma note_calls_of_ok {w : Observed ω} {c : HostCall} {o : Outcome ω Unit}
    (h : o.result = .ok ()) : (w.note c o).world.calls = w.calls ++ [c] := by
  simp [note, h]

lemma note_calls_of_error {w : Observed ω} {c : HostCall} {o : Outcome ω Unit} {e : Error}
    (h : o.result = .error e) : (w.note c o).world.calls = w.calls := by
  simp [note, h]

end Observed

/-- A host under observation. -/
def Host.observed (h : Host ω) : Host (Observed ω) where
  apply p w := w.note (.apply p) (h.apply p w.inner)
  clear w := w.note .clear (h.clear w.inner)

/-- A registry under observation. -/
def Registry.observed (r : Registry ω) : Registry (Observed ω) where
  store := r.store.within Observed.inner fun v w => { w with inner := v }
  host := r.host.observed

/-! ## Erasing what was written down -/

/-- A state without what was written down. -/
def Switch.State.erase (s : State (Observed ω)) : State ω where
  world := s.world.inner
  session := s.session
  shown := s.shown
  log := s.log

/-- The first task is the second one under observation. -/
def Erases (t : Task (Observed ω) α) (t' : Task ω α) : Prop :=
  ∀ s, ((t s).1, (t s).2.erase) = t' s.erase

namespace Erases

variable (r : Registry ω)

/-- To erase what was written down is a translation to the registry without observation. Profiles
and drafts stay what they are. -/
def translation : Registry.Translation r.observed r where
  world := Observed.inner
  credentials := id
  profile := id
  draft := id
  credentials_none := rfl
  credentials_eq _ := rfl
  profile_eq p := ⟨p.username, p.password, rfl⟩
  draft_eq d := ⟨d.username, d.password, rfl⟩
  ofDraft_eq _ _ := rfl
  revised_eq _ _ _ := rfl
  load_eq w := by
    rw [Roster.map_id, Except.map_id]
    rfl
  saveProfiles_eq ps w := by
    rw [List.map_id]
    rfl
  saveActive_eq _ _ := rfl
  apply_eq _ _ := rfl
  clear_eq _ := rfl

lemma of_becomes {t : Task (Observed ω) α} {t' : Task ω α}
    (h : Task.Becomes (translation r).state id t t') : Erases t t' := by
  intro s
  have hs := h s
  rw [Except.map_id] at hs
  exact hs

lemma restore : Erases r.observed.restore r.restore :=
  of_becomes r (translation r).restore

end Erases

lemma erase_after (r : Registry ω) (op : Operation) (s : State (Observed ω)) :
    (r.observed.after op s).erase = r.after op s.erase := by
  have h := (Erases.translation r).state_after op s
  rw [show op.map (Erases.translation r).draft = op from op.map_id] at h
  exact h

/-- A run under observation is the run itself. -/
lemma erase_run (r : Registry ω) (ops : List Operation) (s : State (Observed ω)) :
    (r.observed.run ops s).erase = r.run ops s.erase := by
  induction ops generalizing s with
  | nil => rfl
  | cons op ops ih => rw [Registry.run_cons, Registry.run_cons, ih, erase_after]

end ProxyProfiles

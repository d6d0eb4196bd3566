import ProxyProfiles.Proofs.Agreement
/-!
# What failures leave behind

A change and a removal are stored before the host is asked. If the host then refuses, they fail,
and what they have stored stays: the list of profiles, and nothing else. `edits_atomic_iff` says
exactly when that is so, and that a failure leaves no trace in any other case.

All other operations ask the host first, if they ask it at all, and store nothing unless it
accepts. The credentials are replaced before the host answers, but they are put back when it
refuses. So a failure leaves no trace (`refusals_leave_no_trace`).
-/

namespace ProxyProfiles

open Switch

/-- Nothing has become of a state, except that other profiles may be stored. What has been
reported is not looked at. -/
structure SparesAllButProfiles (s s' : State World) : Prop where
  activeId : s'.world.roster.activeId = s.world.roster.activeId
  recording : s'.world.recording = s.world.recording
  session : s'.session = s.session
  shown : s'.shown = s.shown

/-- Nothing has become of a state. What has been reported is not looked at. -/
structure Untouched (s s' : State World) : Prop extends SparesAllButProfiles s s' where
  profiles : s'.world.roster.profiles = s.world.roster.profiles

lemma Untouched.refl (s : State World) : Untouched s s := ⟨⟨rfl, rfl, rfl, rfl⟩, rfl⟩

lemma Untouched.noted (s : State World) (x : Record) : Untouched s (s.noted x) :=
  ⟨⟨rfl, rfl, rfl, rfl⟩, rfl⟩

lemma Untouched.refused (s : State World) (a : Submission) : Untouched s (s.refused a) :=
  ⟨⟨rfl, rfl, rfl, rfl⟩, rfl⟩

/-- What is stored before the host refuses is all that is left behind. -/
lemma SparesAllButProfiles.of_refused (s : State World) (ps : List Profile) (reason : String)
    (a : Submission) : SparesAllButProfiles s ((s.stored ps reason).refused a) :=
  ⟨rfl, rfl, rfl, rfl⟩

/-- If an operation fails, it leaves no trace. -/
def Operation.Atomic (op : Operation) (s : State World) : Prop :=
  ∀ e, (op.perform Registry.inMemory s).1 = .error e →
    Untouched s (op.perform Registry.inMemory s).2

/-- If an operation fails, it leaves behind a list of profiles at most. -/
def Operation.AtomicButProfiles (op : Operation) (s : State World) : Prop :=
  ∀ e, (op.perform Registry.inMemory s).1 = .error e →
    SparesAllButProfiles s (op.perform Registry.inMemory s).2

section Edits

variable (s : State World) (id : String) (d : Draft)

/-- A failing change has done nothing, or the changed profile is stored and refused. -/
lemma update_of_error {e : Error}
    (he : ((Operation.update id d).perform Registry.inMemory s).1 = .error e) :
    ((Operation.update id d).perform Registry.inMemory s).2 = s ∨
      ∃ q reason a, d.check = .ok () ∧ s.world.roster.activeId = some id ∧
        s.world.recording.rejectApply = true ∧ s.world.roster.find? id = some q ∧
        ((Operation.update id d).perform Registry.inMemory s).2 =
          (s.stored (Roster.replace id (q.revised id d) s.world.roster.profiles) reason).refused
            a := by
  have hs := step_perform s (.update id d)
  rw [he] at hs
  generalize ((Operation.update id d).perform Registry.inMemory s).2 = s' at hs ⊢
  cases hs with
  | updateInvalid hd => exact .inl rfl
  | updateUnknown hd hf => exact .inl rfl
  | @updateRefused _ _ q p hd hf hp ha hr =>
    subst hp
    exact .inr ⟨q, _, _, hd, ha, hr, hf, rfl⟩

/-- A failing removal has done nothing, or the profile is gone and the host has not gone back. -/
lemma remove_of_error {e : Error}
    (he : ((Operation.remove id).perform Registry.inMemory s).1 = .error e) :
    ((Operation.remove id).perform Registry.inMemory s).2 = s ∨
      ∃ p reason a, s.world.roster.activeId = some id ∧ s.world.recording.rejectClear = true ∧
        s.world.roster.find? id = some p ∧
        ((Operation.remove id).perform Registry.inMemory s).2 =
          (s.stored (Roster.without id s.world.roster.profiles) reason).refused a := by
  have hs := step_perform s (.remove id)
  rw [he] at hs
  generalize ((Operation.remove id).perform Registry.inMemory s).2 = s' at hs ⊢
  cases hs with
  | removeUnknown hf => exact .inl rfl
  | @removeRefused _ p hf ha hr => exact .inr ⟨p, _, _, ha, hr, hf, rfl⟩

lemma update_atomicButProfiles : (Operation.update id d).AtomicButProfiles s := by
  intro e he
  rcases update_of_error s id d he with hs | ⟨q, reason, a, -, -, -, -, hs⟩ <;> rw [hs]
  · exact (Untouched.refl s).toSparesAllButProfiles
  · exact .of_refused s _ reason a

lemma remove_atomicButProfiles : (Operation.remove id).AtomicButProfiles s := by
  intro e he
  rcases remove_of_error s id he with hs | ⟨p, reason, a, -, -, -, hs⟩ <;> rw [hs]
  · exact (Untouched.refl s).toSparesAllButProfiles
  · exact .of_refused s _ reason a

lemma update_atomic_iff :
    (Operation.update id d).Atomic s ↔
      ¬ (d.check = .ok () ∧ s.world.roster.activeId = some id ∧
        s.world.recording.rejectApply = true ∧
        ∃ q, s.world.roster.find? id = some q ∧ q.revised id d ≠ q) := by
  constructor
  · rintro h ⟨hd, ha, hr, q, hf, hne⟩
    have hp := Registry.update_inMemory_of_reject hd hf rfl ha hr
    have hu := h (.hostApply .refused) (by rw [Operation.perform, Task.map_apply, hp])
    rw [Operation.perform, Task.map_apply, hp] at hu
    exact hne ((Roster.replace_eq_self_iff hf).1 hu.profiles)
  · intro h e he
    rcases update_of_error s id d he with hs | ⟨q, reason, a, hd, ha, hr, hf, hs⟩ <;> rw [hs]
    · exact .refl s
    · -- a refused change leaves no trace if it changes nothing
      have hq : q.revised id d = q := by
        by_contra hne
        exact h ⟨hd, ha, hr, q, hf, hne⟩
      exact ⟨.of_refused s _ reason a, (Roster.replace_eq_self_iff hf).2 hq⟩

lemma remove_atomic_iff :
    (Operation.remove id).Atomic s ↔
      ¬ (s.world.roster.activeId = some id ∧ s.world.recording.rejectClear = true ∧
        ∃ p, s.world.roster.find? id = some p) := by
  constructor
  · rintro h ⟨ha, hr, p, hf⟩
    have hp := Registry.remove_inMemory_of_reject hf ha hr
    have hu := h (.hostClear .refused) (by rw [Operation.perform, Task.map_apply, hp])
    rw [Operation.perform, Task.map_apply, hp] at hu
    exact Roster.without_ne_self hf hu.profiles
  · intro h e he
    rcases remove_of_error s id he with hs | ⟨p, reason, a, ha, hr, hf, hs⟩
    · rw [hs]
      exact .refl s
    · exact absurd ⟨ha, hr, p, hf⟩ h

/-- In every state, a failing change leaves no trace unless it changes the active profile and the
host refuses it; a failing removal leaves no trace unless it removes the active profile and the
host does not go back; and in these two cases it leaves behind a list of profiles and nothing
else. -/
theorem edits_atomic_iff :
    ((Operation.update id d).Atomic s ↔
      ¬ (d.check = .ok () ∧ s.world.roster.activeId = some id ∧
        s.world.recording.rejectApply = true ∧
        ∃ q, s.world.roster.find? id = some q ∧ q.revised id d ≠ q)) ∧
    ((Operation.remove id).Atomic s ↔
      ¬ (s.world.roster.activeId = some id ∧ s.world.recording.rejectClear = true ∧
        ∃ p, s.world.roster.find? id = some p)) ∧
    (Operation.update id d).AtomicButProfiles s ∧ (Operation.remove id).AtomicButProfiles s := by
  exact ⟨update_atomic_iff s id d, remove_atomic_iff s id, update_atomicButProfiles s id d,
    remove_atomicButProfiles s id⟩

end Edits

/-- A profile is stored, active and in force, and the host will refuse. -/
def Switch.State.refusingSample : State World :=
  ((Turn.restoring false).after (.fresh { roster :=
    ⟨[.ofDraft "1" ((Draft.new "P" .http "10.0.0.1" 8080).withCredentials "alice" "pw")],
      some "1"⟩ })).answering true

/-- The removed profile is gone, and its id is still the active one; the changed profile is
stored, and the former one is in force. -/
theorem refused_edits_not_atomic :
    let s := State.refusingSample
    let removed := (Operation.remove "1").perform Registry.inMemory s
    let changed := (Operation.update "1" (Draft.new "Q" .http "10.0.0.2" 8081)).perform
      Registry.inMemory s
    ¬ (Operation.remove "1").Atomic s ∧ removed.1 = .error (.hostClear .refused) ∧
    removed.2.world.roster = ⟨[], some "1"⟩ ∧
    ¬ (Operation.update "1" (Draft.new "Q" .http "10.0.0.2" 8081)).Atomic s ∧
    changed.1 = .error (.hostApply .refused) ∧
    changed.2.world.roster.active?.map Profile.name = some "Q" ∧
    changed.2.world.recording = s.world.recording := by
  intro s removed changed
  have hremoved : removed.1 = .error (.hostClear .refused) := by decide
  have hchanged : changed.1 = .error (.hostApply .refused) := by decide
  refine ⟨?_, hremoved, by decide, ?_, hchanged, by decide, by decide⟩
  · intro h
    have hps : removed.2.world.roster.profiles = s.world.roster.profiles :=
      (h _ hremoved).profiles
    exact absurd hps (by decide)
  · intro h
    have hps : changed.2.world.roster.profiles = s.world.roster.profiles :=
      (h _ hchanged).profiles
    exact absurd hps (by decide)

/-! ## Refusals without a trace -/

section Refusals

variable (s : State World)

/-- Only a change and a removal store anything before the host is asked. -/
lemma Operation.atomic_of_edits_eq_false {op : Operation} (hop : op.edits = false) :
    op.Atomic s := by
  intro e he
  have hs := step_perform s op
  rw [he] at hs
  generalize (op.perform Registry.inMemory s).2 = s' at hs ⊢
  cases hs with
  | getUnknown | addInvalid => exact .refl s
  | activateRefused | deactivateRefused | restoreRefused => exact .refused s _
  | updateInvalid | updateUnknown | updateRefused | removeUnknown | removeRefused =>
    exact absurd hop (by simp [Operation.edits])

lemma untouched_of_activate_unknown {id : String}
    (h : ((Operation.activate id).perform Registry.inMemory s).1 = .ok (.payload none)) :
    Untouched s ((Operation.activate id).perform Registry.inMemory s).2 := by
  have hs := step_perform s (.activate id)
  rw [h] at hs
  generalize ((Operation.activate id).perform Registry.inMemory s).2 = s' at hs ⊢
  cases hs with
  | activateUnknown => exact .noted s _

/-- The credentials of the profile are gone again when the host has refused it. -/
lemma untouched_of_apply_error {p : Profile} {e : Error}
    (h : (Switch.apply World.recordingHost p s).1 = .error e) :
    Untouched s (Switch.apply World.recordingHost p s).2 := by
  cases hr : s.world.recording.rejectApply with
  | false =>
    have haccept : Switch.apply World.recordingHost p s = _ :=
      Registry.apply_inMemory_of_accept hr
    rw [haccept] at h
    contradiction
  | true =>
    have hreject : Switch.apply World.recordingHost p s = _ :=
      Registry.apply_inMemory_of_reject hr
    rw [hreject]
    exact .refused s _

lemma untouched_of_clear_error {e : Error}
    (h : (Switch.clear World.recordingHost s).1 = .error e) :
    Untouched s (Switch.clear World.recordingHost s).2 := by
  cases hr : s.world.recording.rejectClear with
  | false =>
    have haccept : Switch.clear World.recordingHost s = _ := Registry.clear_inMemory_of_accept hr
    rw [haccept] at h
    contradiction
  | true =>
    have hreject : Switch.clear World.recordingHost s = _ := Registry.clear_inMemory_of_reject hr
    rw [hreject]
    exact .refused s _

/-- In every state, whatever has been stored, is remembered and was recorded before: making a
profile active, making none active, restoring and adding leave no trace if they fail, and neither
does making an unknown profile active, which does not fail. Applying a profile and going back to
direct connections leave no trace either if the host refuses. -/
theorem refusals_leave_no_trace :
    (∀ id, (Operation.activate id).Atomic s) ∧ Operation.deactivate.Atomic s ∧
    Operation.restore.Atomic s ∧ (∀ milliseconds d, (Operation.add milliseconds d).Atomic s) ∧
    (∀ id, ((Operation.activate id).perform Registry.inMemory s).1 = .ok (.payload none) →
      Untouched s ((Operation.activate id).perform Registry.inMemory s).2) ∧
    (∀ p e, (Switch.apply World.recordingHost p s).1 = .error e →
      Untouched s (Switch.apply World.recordingHost p s).2) ∧
    (∀ e, (Switch.clear World.recordingHost s).1 = .error e →
      Untouched s (Switch.clear World.recordingHost s).2) := by
  refine ⟨fun id => ?_, ?_, ?_, fun milliseconds d => ?_, fun id => ?_, fun p e => ?_,
    fun e => ?_⟩
  · exact Operation.atomic_of_edits_eq_false s rfl
  · exact Operation.atomic_of_edits_eq_false s rfl
  · exact Operation.atomic_of_edits_eq_false s rfl
  · exact Operation.atomic_of_edits_eq_false s rfl
  · exact untouched_of_activate_unknown s
  · exact untouched_of_apply_error s
  · exact untouched_of_clear_error s

end Refusals

/-- Another profile, with other credentials, is refused while one is in force, and so is going
back; a draft without a name is not added. -/
theorem refusals_leave_no_trace_sample :
    let s := State.refusingSample
    let other : Profile := .ofDraft "2" ((Draft.new "Q" .http "10.0.0.2" 8081).withCredentials
      "bob" "pw")
    (Switch.apply World.recordingHost other s).1 = .error (.hostApply .refused) ∧
    Untouched s (Switch.apply World.recordingHost other s).2 ∧
    (Operation.restore.perform Registry.inMemory s).1 = .error (.hostApply .refused) ∧
    Untouched s (Operation.restore.perform Registry.inMemory s).2 ∧
    (Operation.deactivate.perform Registry.inMemory s).1 = .error (.hostClear .refused) ∧
    Untouched s (Operation.deactivate.perform Registry.inMemory s).2 ∧
    Untouched s ((Operation.add 0 (Draft.new "" .http "10.0.0.2" 8081)).perform
      Registry.inMemory s).2 := by
  intro s other
  obtain ⟨-, hdeactivate, hrestore, hadd, -, happly, -⟩ := refusals_leave_no_trace s
  have hrefused : (Switch.apply World.recordingHost other s).1 = .error (.hostApply .refused) := by
    decide
  have hrestored : (Operation.restore.perform Registry.inMemory s).1 =
      .error (.hostApply .refused) := by decide
  have hkept : (Operation.deactivate.perform Registry.inMemory s).1 =
      .error (.hostClear .refused) := by decide
  have hinvalid : ((Operation.add 0 (Draft.new "" .http "10.0.0.2" 8081)).perform
      Registry.inMemory s).1 = .error (.invalidProfile .nameRequired) := by decide
  exact ⟨hrefused, happly other _ hrefused, hrestored, hrestore _ hrestored, hkept,
    hdeactivate _ hkept, hadd 0 _ _ hinvalid⟩

end ProxyProfiles

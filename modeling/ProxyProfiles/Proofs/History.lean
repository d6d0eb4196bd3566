import ProxyProfiles.Proofs.Observation
import Mathlib.Data.List.Induction
/-!
# The session follows the host

The calls that a host accepts in a run belong to submissions, and `Registry.history` says to
which.

The main result, `session_follows_host`, holds for every store and every host, however often
they fail, and for every run from a fresh session: the credentials in the session are those of
the submission accepted last, and so is the badge, unless a restoring that found nothing to put
in force has blanked it since.
-/

namespace ProxyProfiles

open Switch

variable {ω α β : Type}

namespace Registry

/-- What is submitted in an operation and accepted by the host. -/
def accepted (r : Registry ω) (op : Operation) (s : State (Observed ω)) : List Submission :=
  if (r.observed.after op s).world.calls = s.world.calls then []
  else (op.submission? (r.store.load s.world.inner).result.toOption).toList

/-- All that is submitted in a run and accepted by the host, oldest first. -/
def history (r : Registry ω) : List Operation → State (Observed ω) → List Submission
  | [], _ => []
  | op :: ops, s => r.accepted op s ++ r.history ops (r.observed.after op s)

lemma history_append_singleton (r : Registry ω) (ops : List Operation) (op : Operation)
    (s : State (Observed ω)) :
    r.history (ops ++ [op]) s = r.history ops s ++ r.accepted op (r.observed.run ops s) := by
  induction ops generalizing s with
  | nil => simp [history]
  | cons op' ops ih => simp [history, ih, run]

end Registry

/-! ## What one operation does -/

/-- Session and accepted calls are the same. -/
structure Quiet (s s' : State (Observed ω)) : Prop where
  session : s'.session = s.session
  calls : s'.world.calls = s.world.calls

/-- The host has accepted a submission, and the session is that of the submission. -/
structure Granted (a : Submission) (s s' : State (Observed ω)) : Prop where
  session : s'.session = a.session
  calls : s'.world.calls = s.world.calls ++ [a.call]

lemma Quiet.refl (s : State (Observed ω)) : Quiet s s := ⟨rfl, rfl⟩

lemma Quiet.trans {s s' s'' : State (Observed ω)} (h : Quiet s s') (h' : Quiet s' s'') :
    Quiet s s'' :=
  ⟨h'.session.trans h.session, h'.calls.trans h.calls⟩

lemma Granted.of_quiet_left {a : Submission} {s s' s'' : State (Observed ω)} (h : Quiet s s')
    (h' : Granted a s' s'') : Granted a s s'' :=
  ⟨h'.session, by rw [h'.calls, h.calls]⟩

lemma Granted.of_quiet_right {a : Submission} {s s' s'' : State (Observed ω)}
    (h : Granted a s s') (h' : Quiet s' s'') : Granted a s s'' :=
  ⟨h'.session.trans h.session, by rw [h'.calls, h.calls]⟩

/-- A task that submits the given thing, or nothing, and submits nothing else: session and calls
follow the one submission if the host accepts it and stay the same in any other case. -/
def Submits (a? : Option Submission) (t : Task (Observed ω) α) : Prop :=
  ∀ s, Quiet s (t s).2 ∨ ∃ a ∈ a?, Granted a s (t s).2

namespace Submits

variable {a? : Option Submission} {t : Task (Observed ω) α} {f : α → Task (Observed ω) β}

lemma quiet (h : Submits none t) (s : State (Observed ω)) : Quiet s (t s).2 := by
  rcases h s with h | ⟨a, ha, -⟩
  · exact h
  · simp at ha

lemma of_quiet (h : ∀ s, Quiet s (t s).2) : Submits a? t := fun s => .inl (h s)

lemma pure (a : α) : Submits a? (pure a : Task (Observed ω) α) := of_quiet Quiet.refl

lemma throw (e : Error) : Submits a? (throw e : Task (Observed ω) α) := of_quiet Quiet.refl

lemma report (x : Record) : Submits a? (report x : Task (Observed ω) Unit) :=
  of_quiet fun _ => ⟨rfl, rfl⟩

/-- The submission may come in the second of two tasks. -/
lemma bind (h : Submits none t) (h' : ∀ x, Submits a? (f x)) : Submits a? (t >>= f) := by
  intro s
  have hq := h.quiet s
  rcases ht : t s with ⟨e | x, s'⟩
  · rw [ht] at hq
    rw [Task.bind_of_error ht]
    exact .inl hq
  · rw [ht] at hq
    rw [Task.bind_of_ok ht]
    rcases h' x s' with hq' | ⟨a, ha, hg⟩
    · exact .inl (hq.trans hq')
    · exact .inr ⟨a, ha, hg.of_quiet_left hq⟩

/-- The submission may come in the first of two tasks. -/
lemma bind_quiet (h : Submits a? t) (h' : ∀ x, Submits none (f x)) : Submits a? (t >>= f) := by
  intro s
  have hs := h s
  rcases ht : t s with ⟨e | x, s'⟩
  · rw [ht] at hs
    rw [Task.bind_of_error ht]
    exact hs
  · rw [ht] at hs
    rw [Task.bind_of_ok ht]
    have hq := (h' x).quiet s'
    rcases hs with hs | ⟨a, ha, hg⟩
    · exact .inl (hs.trans hq)
    · exact .inr ⟨a, ha, hg.of_quiet_right hq⟩

lemma map (h : Submits a? t) (g : α → β) : Submits a? (g <$> t) := by
  intro s
  have hs := h s
  rcases ht : t s with ⟨e | x, s'⟩ <;> rw [ht] at hs <;> rw [Task.map_apply, ht] <;> exact hs

variable (r : Registry ω)

lemma apply (p : Profile) : Submits (some (.apply p)) (Switch.apply r.observed.host p) := by
  intro s
  rcases h : (r.host.apply p.compile s.world.inner).result with e | ⟨⟩
  · rw [apply_of_error (show (r.observed.host.apply p.compile s.world).result = _ from h)]
    exact .inl ⟨rfl, Observed.note_calls_of_error h⟩
  · rw [apply_of_ok (show (r.observed.host.apply p.compile s.world).result = _ from h)]
    exact .inr ⟨_, rfl, rfl, Observed.note_calls_of_ok h⟩

lemma clear : Submits (some .clear) (Switch.clear r.observed.host) := by
  intro s
  rcases h : (r.host.clear s.world.inner).result with e | ⟨⟩
  · rw [clear_of_error (show (r.observed.host.clear s.world).result = _ from h)]
    exact .inl ⟨rfl, Observed.note_calls_of_error h⟩
  · rw [clear_of_ok (show (r.observed.host.clear s.world).result = _ from h)]
    exact .inr ⟨_, rfl, rfl, Observed.note_calls_of_ok h⟩

lemma load : Submits a? r.observed.load := of_quiet fun _ => ⟨rfl, rfl⟩

lemma saveProfiles (ps : List Profile) :
    Submits a? (outside (r.observed.store.saveProfiles ps)) :=
  of_quiet fun _ => ⟨rfl, rfl⟩

lemma saveActive (id : Option String) :
    Submits a? (outside (r.observed.store.saveActive id)) :=
  of_quiet fun _ => ⟨rfl, rfl⟩

lemma check (d : Draft) : Submits a? (Registry.check d : Task (Observed ω) Unit) := by
  unfold Registry.check
  split
  · exact pure ()
  · exact throw _

end Submits

/-- The state after the roster has been read, or has not been. -/
lemma load_observed (r : Registry ω) (s : State (Observed ω)) :
    ∃ s', Quiet s s' ∧ r.observed.load s = ((r.store.load s.world.inner).result, s') :=
  ⟨_, (Submits.load r).quiet s, rfl⟩

/-- What has to be submitted may depend on the roster that is read first. -/
lemma load_bind_submits {r : Registry ω} {f : Roster → Task (Observed ω) α}
    (a? : Option Roster → Option Submission) (h : ∀ roster, Submits (a? (some roster)) (f roster))
    (s : State (Observed ω)) :
    Quiet s ((r.observed.load >>= f) s).2 ∨
      ∃ a ∈ a? (r.store.load s.world.inner).result.toOption,
        Granted a s ((r.observed.load >>= f) s).2 := by
  obtain ⟨s', hq, hs⟩ := load_observed r s
  rcases hl : (r.store.load s.world.inner).result with e | roster <;> rw [hl] at hs
  · rw [Task.bind_of_error hs]
    exact .inl hq
  · rw [Task.bind_of_ok hs]
    rcases h roster s' with hq' | ⟨a, ha, hg⟩
    · exact .inl (hq.trans hq')
    · exact .inr ⟨a, ha, hg.of_quiet_left hq⟩

/-- What one operation does to the session and the accepted calls. -/
inductive Effect (r : Registry ω) (op : Operation) (s : State (Observed ω)) : Prop
  /-- Nothing. -/
  | quiet (h : Quiet s (r.observed.after op s))
  /-- The host accepts what the operation has to submit. -/
  | granted (a : Submission)
      (ha : op.submission? (r.store.load s.world.inner).result.toOption = some a)
      (h : Granted a s (r.observed.after op s))
  /-- Restoring finds nothing to put in force and blanks the badge. -/
  | blanked (x : Restored) (hop : op = .restore)
      (hx : (r.observed.restore s).1 = .ok x) (hne : ∀ id, x ≠ .applied id)
      (calls : (r.observed.after op s).world.calls = s.world.calls)
      (session : (r.observed.after op s).session = { s.session with badge := .inactive })

namespace Effect

variable (r : Registry ω) (s : State (Observed ω))

lemma of_submits {r : Registry ω} {op : Operation} {s : State (Observed ω)}
    (h : Quiet s (r.observed.after op s) ∨
      ∃ a ∈ op.submission? (r.store.load s.world.inner).result.toOption,
        Granted a s (r.observed.after op s)) : Effect r op s := by
  rcases h with h | ⟨a, ha, h⟩
  · exact .quiet h
  · exact .granted a ha h

lemma list : Effect r .list s := by
  refine .quiet (Submits.quiet ?_ s)
  exact ((Submits.load r).bind fun _ => .pure _).map _

lemma get (id : String) : Effect r (.get id) s := by
  refine .quiet (Submits.quiet (Submits.map (Submits.bind (Submits.load r) fun roster => ?_) _) s)
  split
  · exact .pure _
  · exact .throw _

lemma status : Effect r .status s := by
  refine .quiet (Submits.quiet ?_ s)
  exact ((Submits.load r).bind fun _ => .pure _).map _

lemma add (milliseconds : Nat) (d : Draft) : Effect r (.add milliseconds d) s := by
  refine .quiet (Submits.quiet (Submits.map (Submits.bind ?_ fun a => ?_) _) s)
  · exact (Submits.check d).bind fun _ => (Submits.load r).bind fun _ => .pure _
  · exact (Submits.saveProfiles r _).bind fun _ => (Submits.report _).bind fun _ => .pure _

lemma deactivate : Effect r .deactivate s := by
  have h : Submits (some .clear) r.observed.deactivate :=
    (Submits.clear r).bind_quiet fun _ => Submits.saveActive r none
  exact .of_submits (h.map _ s)

lemma activate (id : String) : Effect r (.activate id) s := by
  refine .of_submits ?_
  simp only [Registry.after, Operation.perform, Task.map_apply_snd]
  refine load_bind_submits (Operation.activate id).submission? (fun roster => ?_) s
  rcases hf : roster.find? id with _ | p
  · exact (Submits.report _).bind fun _ => .pure _
  · rw [show (Operation.activate id).submission? (some roster) = some (.apply p) by
      simp [Operation.submission?, hf]]
    exact (Submits.apply r p).bind_quiet fun _ => (Submits.saveActive r _).bind fun _ => .pure _

lemma remove (id : String) : Effect r (.remove id) s := by
  refine .of_submits ?_
  simp only [Registry.after, Operation.perform, Task.map_apply_snd]
  refine load_bind_submits (Operation.remove id).submission? (fun roster => ?_) s
  rcases hf : roster.find? id with _ | p
  · exact .throw _
  · refine (Submits.saveProfiles r _).bind fun _ => (Submits.report _).bind fun _ => ?_
    by_cases ha : roster.activeId = some id
    · rw [show (Operation.remove id).submission? (some roster) = some .clear by
        simp [Operation.submission?, ha, hf]]
      rw [if_pos ha]
      exact ((Submits.clear r).bind_quiet fun _ => Submits.saveActive r none).bind_quiet
        fun _ => .pure _
    · rw [if_neg ha]
      exact .pure _

lemma update (id : String) (d : Draft) : Effect r (.update id d) s := by
  refine .of_submits ?_
  simp only [Registry.after, Operation.perform, Task.map_apply_snd, Registry.update,
    Registry.check]
  rcases d.check with e | ⟨⟩
  · exact .inl (Quiet.refl s)
  · refine load_bind_submits (Operation.update id d).submission? (fun roster => ?_) s
    rcases hf : roster.find? id with _ | stored
    · exact .throw _
    · refine (Submits.saveProfiles r _).bind fun _ => (Submits.report _).bind fun _ => ?_
      by_cases ha : roster.activeId = some id
      · rw [show (Operation.update id d).submission? (some roster) =
            some (.apply (stored.revised id d)) by simp [Operation.submission?, ha, hf]]
        rw [if_pos ha]
        exact (Submits.apply r _).bind_quiet fun _ => .pure _
      · rw [if_neg ha]
        exact .pure _

/-- Blanking the badge is all that a restoring does which finds nothing to put in force. -/
lemma restore : Effect r .restore s := by
  obtain ⟨s', hq, hs⟩ := load_observed r s
  have hafter : r.observed.after .restore s = (r.observed.restore s).2 := by
    simp [Registry.after, Operation.perform]
  rcases hl : (r.store.load s.world.inner).result with e | roster <;> rw [hl] at hs
  · refine .quiet ?_
    rw [hafter, Registry.restore, Task.bind_of_error hs]
    exact hq
  rcases hid : roster.activeId with _ | id
  · have hr := Registry.restore_of_activeId_none hs hid
    refine .blanked .direct rfl (by rw [hr]) (by simp) ?_ ?_
    · rw [hafter, hr]
      exact hq.calls
    · rw [hafter, hr, ← hq.session]
      rfl
  rcases hf : roster.find? id with _ | p
  · have hr := Registry.restore_of_find?_none hs hid hf
    refine .blanked (.dangling id) rfl (by rw [hr]) (by simp) ?_ ?_
    · rw [hafter, hr]
      exact hq.calls
    · rw [hafter, hr, ← hq.session]
      rfl
  · have ht : Submits (some (.apply p)) (Switch.apply r.observed.host p >>= fun _ =>
        report (.info ("Restored proxy profile " ++ p.name ++ " (" ++ id ++ ")")) >>= fun _ =>
          (pure (.applied id) : Task (Observed ω) Restored)) :=
      (Submits.apply r p).bind_quiet fun _ => (Submits.report _).bind fun _ => .pure _
    have hts := ht s'
    rw [← Registry.restore_of_find?_some hs hid hf, ← hafter] at hts
    have hsub : Operation.restore.submission? (some roster) = some (.apply p) := by
      simp [Operation.submission?, Roster.active?, hid, hf]
    rcases hts with hq' | ⟨a, ha, hg⟩
    · exact .quiet (hq.trans hq')
    · refine .granted a ?_ (hg.of_quiet_left hq)
      rw [hl, ← Option.mem_def.1 ha]
      exact hsub

/-- Every operation has one of the three effects. -/
lemma of_operation (op : Operation) : Effect r op s := by
  cases op with
  | list => exact list r s
  | get id => exact get r s id
  | status => exact status r s
  | add milliseconds d => exact add r s milliseconds d
  | update id d => exact update r s id d
  | remove id => exact remove r s id
  | activate id => exact activate r s id
  | deactivate => exact deactivate r s
  | restore => exact restore r s

end Effect

/-! ## Runs -/

section Run

variable (r : Registry ω) (op : Operation) (s : State (Observed ω))

lemma accepted_of_calls_eq (h : (r.observed.after op s).world.calls = s.world.calls) :
    r.accepted op s = [] := by
  rw [Registry.accepted, if_pos h]

lemma accepted_of_granted {a : Submission}
    (ha : op.submission? (r.store.load s.world.inner).result.toOption = some a)
    (h : Granted a s (r.observed.after op s)) : r.accepted op s = [a] := by
  have hne : (r.observed.after op s).world.calls ≠ s.world.calls := by
    rw [h.calls]
    simp
  rw [Registry.accepted, if_neg hne, ha]
  rfl

/-- The calls of the host are those of the history. -/
lemma calls_eq_history (ops : List Operation) :
    (r.observed.run ops s).world.calls =
      s.world.calls ++ (r.history ops s).map Submission.call := by
  induction ops using List.reverseRecOn with
  | nil => simp [Registry.history]
  | append_singleton ops op ih =>
    rw [Registry.run_append_singleton, Registry.history_append_singleton]
    rcases Effect.of_operation r (r.observed.run ops s) op with
      h | ⟨a, ha, h⟩ | ⟨x, hop, hx, hne, hcalls, -⟩
    · rw [accepted_of_calls_eq r op _ h.calls, h.calls, ih, List.append_nil]
    · rw [accepted_of_granted r op _ ha h, h.calls, ih]
      simp
    · rw [accepted_of_calls_eq r op _ hcalls, hcalls, ih, List.append_nil]

end Run

/-- The start of a run in a world: nothing is remembered, and no call has been accepted. -/
def Observed.start (w : ω) : State (Observed ω) :=
  .fresh ⟨w, []⟩

/-- A session follows a history if its credentials are those of the last submission and its
badge, unless it is blank, is that of the last submission. -/
structure Follows (h : List Submission) (σ : Session) : Prop where
  credentials : σ.credentials = h.getLast?.bind Submission.credentials
  badge : σ.badge = .inactive ∨
    ∃ p, h.getLast? = some (.apply p) ∧ σ.badge = .active p.policyMode

lemma Follows.of_submission (h : List Submission) (a : Submission) :
    Follows (h ++ [a]) a.session := by
  refine ⟨by simp, ?_⟩
  cases a with
  | apply p => exact .inr ⟨p, by simp, rfl⟩
  | clear => exact .inl rfl

variable (r : Registry ω) (w : ω)

lemma follows_history (ops : List Operation) :
    Follows (r.history ops (Observed.start w)) (r.observed.run ops (Observed.start w)).session := by
  induction ops using List.reverseRecOn with
  | nil => exact ⟨rfl, .inl rfl⟩
  | append_singleton ops op ih =>
    rw [Registry.run_append_singleton, Registry.history_append_singleton]
    rcases Effect.of_operation r (r.observed.run ops (Observed.start w)) op with
      h | ⟨a, ha, h⟩ | ⟨x, -, -, -, hcalls, hsession⟩
    · rw [accepted_of_calls_eq r op _ h.calls, h.session, List.append_nil]
      exact ih
    · rw [accepted_of_granted r op _ ha h, h.session]
      exact .of_submission _ a
    · rw [accepted_of_calls_eq r op _ hcalls, hsession, List.append_nil]
      exact ⟨ih.credentials, .inl rfl⟩

/-- A blank badge while a profile is in force is the work of a restoring that found nothing to
put in force, and no submission has been accepted since. -/
lemma restore_of_badge_inactive (ops : List Operation) {p : Profile}
    (hp : (r.history ops (Observed.start w)).getLast? = some (.apply p))
    (hb : (r.observed.run ops (Observed.start w)).session.badge = .inactive) :
    ∃ before later, ops = before ++ .restore :: later ∧
      r.history before (Observed.start w) = r.history ops (Observed.start w) ∧
      ∃ x, (∀ id, x ≠ .applied id) ∧
        (r.observed.restore (r.observed.run before (Observed.start w))).1 = .ok x := by
  induction ops using List.reverseRecOn with
  | nil => simp [Registry.history] at hp
  | append_singleton ops op ih =>
    rw [Registry.run_append_singleton] at hb
    rw [Registry.history_append_singleton] at hp ⊢
    rcases Effect.of_operation r (r.observed.run ops (Observed.start w)) op with
      h | ⟨a, ha, h⟩ | ⟨x, hop, hx, hne, hcalls, -⟩
    · rw [accepted_of_calls_eq r op _ h.calls, List.append_nil] at hp ⊢
      rw [h.session] at hb
      obtain ⟨before, later, hops, hbefore, hrestore⟩ := ih hp hb
      exact ⟨before, later ++ [op], by simp [hops], hbefore, hrestore⟩
    · -- the badge of an accepted profile is not blank
      rw [accepted_of_granted r op _ ha h] at hp
      simp only [List.getLast?_append, List.getLast?_singleton, Option.some_or,
        Option.some.injEq] at hp
      rw [h.session, hp] at hb
      simp [Submission.badge] at hb
    · rw [accepted_of_calls_eq r op _ hcalls, List.append_nil]
      exact ⟨ops, [], by rw [hop], rfl, x, hne, hx⟩

/-- Whatever a store and a host do, after every run from a fresh session: the calls accepted by
the host are those of the history; the credentials, and so the answers to challenges, are those
of the last submission in it; the badge is that of the last submission or blank; and it is blank
while a profile is in force only after a restoring that found nothing to put in force, with no
submission accepted since. -/
theorem session_follows_host (ops : List Operation) :
    let s := r.run ops (.fresh w)
    let h := r.history ops (Observed.start w)
    (r.observed.run ops (Observed.start w)).world.calls = h.map Submission.call ∧
    s.session.credentials = h.getLast?.bind Submission.credentials ∧
    (∀ c : Challenge, (respond c s).1 =
      .ok (if c.isProxy then h.getLast?.bind Submission.credentials else none)) ∧
    (s.session.badge = .inactive ∨
      ∃ p, h.getLast? = some (.apply p) ∧ s.session.badge = .active p.policyMode) ∧
    ∀ p, h.getLast? = some (.apply p) → s.session.badge = .inactive →
      ∃ before later, ops = before ++ .restore :: later ∧
        r.history before (Observed.start w) = h ∧
        ((r.restore (r.run before (.fresh w))).1 = .ok .direct ∨
          ∃ id, (r.restore (r.run before (.fresh w))).1 = .ok (.dangling id)) := by
  intro s h
  have hrun (ops : List Operation) :
      (r.observed.run ops (Observed.start w)).erase = r.run ops (.fresh w) :=
    erase_run r ops (Observed.start w)
  have hsession : (r.observed.run ops (Observed.start w)).session = s.session :=
    congrArg State.session (hrun ops)
  have hf : Follows h s.session := hsession ▸ follows_history r w ops
  refine ⟨calls_eq_history r (Observed.start w) ops, hf.credentials, ?_, hf.badge, ?_⟩
  · intro c
    rw [← hf.credentials]
    rfl
  · intro p hp hb
    obtain ⟨before, later, hops, hbefore, x, hne, hx⟩ :=
      restore_of_badge_inactive r w ops hp (hsession ▸ hb)
    refine ⟨before, later, hops, hbefore, ?_⟩
    have hx' : (r.restore (r.run before (.fresh w))).1 = .ok x := by
      rw [← hrun before, ← Erases.restore r]
      exact hx
    cases x with
    | applied id => exact absurd rfl (hne id)
    | dangling id => exact .inr ⟨id, hx'⟩
    | direct => exact .inl hx'

end ProxyProfiles

import ProxyProfiles.Proofs.Operation
import ProxyProfiles.Proofs.Roster
/-!
# Translations of registries

A registry may be seen in another light: parts of its states and profiles are left out or replaced,
and another registry works on what this gives. This module says once what has to be checked of such
a translation (`Registry.Translation`), namely that store and host do the same on both sides. Then
it respects every operation (`Translation.perform`): to carry out an operation and to translate what
comes of it is to translate the operation and the state and to carry it out there.
-/

namespace ProxyProfiles

open Switch

variable {ω ω' α α' β β' : Type}

/-! ## Tasks -/

/-- The first task becomes the second one when states and results are translated. -/
def Task.Becomes (g : State ω → State ω') (f : α → α') (t : Task ω α) (t' : Task ω' α') : Prop :=
  ∀ s, ((t s).1.map f, g (t s).2) = t' (g s)

namespace Task.Becomes

variable {g : State ω → State ω'} {f : α → α'} {f' : β → β'} {t : Task ω α} {t' : Task ω' α'}

lemma pure {a : α} {a' : α'} (h : f a = a') :
    Becomes g f (Pure.pure a : Task ω α) (Pure.pure a') := by
  intro s
  rw [← h]
  rfl

lemma throw (e : Error) : Becomes g f (throw e : Task ω α) (throw e) := fun _ => rfl

lemma bind {k : α → Task ω β} {k' : α' → Task ω' β'} (h : Becomes g f t t')
    (hk : ∀ a, Becomes g f' (k a) (k' (f a))) : Becomes g f' (t >>= k) (t' >>= k') := by
  intro s
  have hs := h s
  rcases ht : t s with ⟨e | a, s'⟩ <;> rw [ht] at hs
  · rw [bind_of_error ht, bind_of_error hs.symm]
    rfl
  · rw [bind_of_ok ht, bind_of_ok hs.symm]
    exact hk a s'

lemma map {j : α → β} {j' : α' → β'} (h : Becomes g f t t') (hj : ∀ a, f' (j a) = j' (f a)) :
    Becomes g f' (j <$> t) (j' <$> t') := by
  intro s
  have hs := h s
  rw [map_apply, map_apply, ← hs]
  rcases t s with ⟨e | a, s'⟩
  · rfl
  · simp only [Except.map, hj]

end Task.Becomes

/-! ## Rosters, operations and answers -/

/-- A roster with every profile replaced. -/
def Roster.map (f : Profile → Profile) (r : Roster) : Roster where
  profiles := r.profiles.map f
  activeId := r.activeId

namespace Roster

lemma map_id : Roster.map id = id := by
  funext r
  simp [map]

variable {f : Profile → Profile}

@[simp] lemma activeId_map (r : Roster) : (r.map f).activeId = r.activeId := rfl

variable (hid : ∀ p, (f p).id = p.id)
include hid

lemma find?_map (r : Roster) (id : String) : (r.map f).find? id = (r.find? id).map f := by
  have hsame : (fun p : Profile => decide (p.id = id)) ∘ f = fun p => decide (p.id = id) := by
    funext p
    simp [hid]
  rw [find?, map, List.find?_map, hsame, find?]

lemma active?_map (r : Roster) : (r.map f).active? = r.active?.map f := by
  rcases h : r.activeId with _ | id
  · rw [active?_of_activeId_none (show (r.map f).activeId = none from h),
      active?_of_activeId_none h]
    rfl
  · rw [active?_of_activeId (show (r.map f).activeId = some id from h), active?_of_activeId h,
      find?_map hid]

lemma freshId_map (r : Roster) (milliseconds : Nat) :
    (r.map f).freshId milliseconds = r.freshId milliseconds := by
  have hlength : (r.map f).profiles.length = r.profiles.length := List.length_map _
  simp only [freshId, find?_map hid, Option.isSome_map, hlength]

lemma replace_map (id : String) (p : Profile) (ps : List Profile) :
    replace id (f p) (ps.map f) = (replace id p ps).map f := by
  induction ps with
  | nil => rfl
  | cons q ps ih =>
    simp only [List.map_cons, replace, hid, ih]
    split <;> rfl

lemma without_map (id : String) (ps : List Profile) :
    without id (ps.map f) = (without id ps).map f := by
  induction ps with
  | nil => rfl
  | cons q ps ih =>
    simp only [List.map_cons, without, hid, ih]
    split <;> rfl

end Roster

/-- An answer with every profile in it replaced. -/
def Answer.map (f : Profile → Profile) : Answer → Answer
  | profiles ps => profiles (ps.map f)
  | profile p => profile (f p)
  | status s => status ⟨s.active.map f, s.profiles.map f⟩
  | payload p => payload p
  | done => done
  | restored x => restored x

/-- An operation with the draft in it, if any, replaced. -/
def Operation.map (f : Draft → Draft) : Operation → Operation
  | add milliseconds d => add milliseconds (f d)
  | update id d => update id (f d)
  | op => op

lemma Operation.map_id (op : Operation) : op.map id = op := by
  cases op <;> rfl

/-! ## Registries -/

/-- An outcome in another world. -/
def Outcome.mapWorld (g : ω → ω') (o : Outcome ω α) : Outcome ω' α where
  result := o.result
  world := g o.world
  log := o.log

/-- A translation from one registry to another. It changes the world and credentials, and nothing
else; store and host do the same on both sides. -/
structure Registry.Translation (r : Registry ω) (r' : Registry ω') where
  /-- How worlds are translated. -/
  world : ω → ω'
  /-- How the credentials in the session are translated. -/
  credentials : Option Credentials → Option Credentials
  /-- How profiles are translated. -/
  profile : Profile → Profile
  /-- How drafts are translated. -/
  draft : Draft → Draft
  credentials_none : credentials none = none
  credentials_eq : ∀ p, (profile p).credentials = credentials p.credentials
  profile_eq : ∀ p, ∃ username password, profile p = { p with username, password }
  draft_eq : ∀ d, ∃ username password, draft d = { d with username, password }
  ofDraft_eq : ∀ i d, profile (.ofDraft i d) = .ofDraft i (draft d)
  revised_eq : ∀ p i d, profile (p.revised i d) = (profile p).revised i (draft d)
  load_eq : ∀ w, r'.store.load (world w) =
    { (r.store.load w).mapWorld world with
      result := (r.store.load w).result.map (Roster.map profile) }
  saveProfiles_eq : ∀ ps w, r'.store.saveProfiles (ps.map profile) (world w) =
    (r.store.saveProfiles ps w).mapWorld world
  saveActive_eq : ∀ i w, r'.store.saveActive i (world w) = (r.store.saveActive i w).mapWorld world
  apply_eq : ∀ x w, r'.host.apply x (world w) = (r.host.apply x w).mapWorld world
  clear_eq : ∀ w, r'.host.clear (world w) = (r.host.clear w).mapWorld world

namespace Registry.Translation

variable {r : Registry ω} {r' : Registry ω'} (T : Translation r r')

/-- How states are translated: badges and reports stay. -/
def state (s : State ω) : State ω' where
  world := T.world s.world
  session := { s.session with credentials := T.credentials s.session.credentials }
  shown := s.shown
  log := s.log

section Profiles

variable (p : Profile)

lemma id_eq : (T.profile p).id = p.id := by
  obtain ⟨_, _, h⟩ := T.profile_eq p
  rw [h]

lemma name_eq : (T.profile p).name = p.name := by
  obtain ⟨_, _, h⟩ := T.profile_eq p
  rw [h]

/-- What a profile compiles to does not depend on its credentials. -/
lemma compile_eq : (T.profile p).compile = p.compile := by
  obtain ⟨_, _, h⟩ := T.profile_eq p
  rw [h]
  rfl

/-- What is reported of a profile does not depend on its credentials. -/
lemma granted_eq (s : State ω) (o : Outcome ω Unit) :
    T.state (s.granted (.apply p) o) =
      (T.state s).granted (.apply (T.profile p)) (o.mapWorld T.world) := by
  have hcredentials := T.credentials_eq p
  obtain ⟨_, _, h⟩ := T.profile_eq p
  rw [h] at hcredentials ⊢
  simp only [state, State.granted, Submission.session, Submission.credentials, hcredentials]
  rfl

lemma denied_eq (s : State ω) (o : Outcome ω Unit) (e : Error) :
    T.state (s.denied (.apply p) o e) =
      (T.state s).denied (.apply (T.profile p)) (o.mapWorld T.world) e := by
  simp only [state, State.denied, Submission.refusal, T.name_eq]
  rfl

end Profiles

lemma check_eq (d : Draft) : (T.draft d).check = d.check := by
  obtain ⟨_, _, h⟩ := T.draft_eq d
  rw [h]
  rfl

/-! ### What a registry asks for -/

lemma report (x : Record) : Task.Becomes T.state id (Switch.report x) (Switch.report x) :=
  fun _ => rfl

lemma markInactive : Task.Becomes T.state id Switch.markInactive Switch.markInactive :=
  fun _ => rfl

lemma outside {op : ω → Outcome ω α} {op' : ω' → Outcome ω' α}
    (h : ∀ w, op' (T.world w) = (op w).mapWorld T.world) :
    Task.Becomes T.state id (Switch.outside op) (Switch.outside op') := by
  intro s
  rw [outside_apply, outside_apply, show (T.state s).world = T.world s.world from rfl, h,
    Except.map_id]
  rfl

lemma load : Task.Becomes T.state (Roster.map T.profile) r.load r'.load := by
  intro s
  rw [Registry.load, Registry.load, outside_apply, outside_apply,
    show (T.state s).world = T.world s.world from rfl, T.load_eq]
  rfl

lemma saveProfiles (ps : List Profile) :
    Task.Becomes T.state id (Switch.outside (r.store.saveProfiles ps))
      (Switch.outside (r'.store.saveProfiles (ps.map T.profile))) :=
  T.outside (T.saveProfiles_eq ps)

lemma saveActive (i : Option String) :
    Task.Becomes T.state id (Switch.outside (r.store.saveActive i))
      (Switch.outside (r'.store.saveActive i)) :=
  T.outside (T.saveActive_eq i)

lemma apply (p : Profile) :
    Task.Becomes T.state id (Switch.apply r.host p) (Switch.apply r'.host (T.profile p)) := by
  intro s
  have heq : r'.host.apply (T.profile p).compile (T.state s).world =
      (r.host.apply p.compile s.world).mapWorld T.world := by
    rw [T.compile_eq]
    exact T.apply_eq p.compile s.world
  rcases h : (r.host.apply p.compile s.world).result with e | ⟨⟩
  · have h' : (r'.host.apply (T.profile p).compile (T.state s).world).result = .error e := by
      rw [heq]
      exact h
    rw [apply_of_error h, apply_of_error h', heq, T.denied_eq]
    rfl
  · have h' : (r'.host.apply (T.profile p).compile (T.state s).world).result = .ok () := by
      rw [heq]
      exact h
    rw [apply_of_ok h, apply_of_ok h', heq, T.granted_eq, T.compile_eq]
    rfl

lemma clear : Task.Becomes T.state id (Switch.clear r.host) (Switch.clear r'.host) := by
  intro s
  have heq : r'.host.clear (T.state s).world = (r.host.clear s.world).mapWorld T.world :=
    T.clear_eq s.world
  rcases h : (r.host.clear s.world).result with e | ⟨⟩
  · have h' : (r'.host.clear (T.state s).world).result = .error e := by
      rw [heq]
      exact h
    rw [clear_of_error h, clear_of_error h', heq]
    rfl
  · have h' : (r'.host.clear (T.state s).world).result = .ok () := by
      rw [heq]
      exact h
    rw [clear_of_ok h, clear_of_ok h', heq]
    simp only [state, State.granted, Submission.session, Submission.credentials,
      T.credentials_none]
    rfl

/-! ### Operations -/

lemma list : Task.Becomes T.state (List.map T.profile) r.list r'.list :=
  T.load.bind fun _ => .pure rfl

lemma get (i : String) : Task.Becomes T.state T.profile (r.get i) (r'.get i) := by
  refine T.load.bind fun roster => ?_
  rw [Roster.find?_map T.id_eq]
  rcases roster.find? i with _ | p
  · exact .throw _
  · exact .pure rfl

lemma status : Task.Becomes T.state (fun s => ⟨s.active.map T.profile, s.profiles.map T.profile⟩)
    r.status r'.status := by
  refine T.load.bind fun roster => .pure ?_
  rw [Roster.active?_map T.id_eq]
  rfl

lemma check (d : Draft) :
    Task.Becomes T.state id (Registry.check d) (Registry.check (T.draft d)) := by
  unfold Registry.check
  rw [T.check_eq]
  rcases d.check with e | ⟨⟩
  · exact .throw _
  · exact .pure rfl

lemma startAdd (milliseconds : Nat) (d : Draft) :
    Task.Becomes T.state (fun a => ⟨T.profile a.profile, a.found.map T.profile⟩)
      (r.startAdd milliseconds d) (r'.startAdd milliseconds (T.draft d)) := by
  refine (T.check d).bind fun _ => T.load.bind fun roster => .pure ?_
  rw [Roster.freshId_map T.id_eq, T.ofDraft_eq]
  rfl

lemma finishAdd (a : Addition) : Task.Becomes T.state T.profile (r.finishAdd a)
    (r'.finishAdd ⟨T.profile a.profile, a.found.map T.profile⟩) := by
  have hsave := T.saveProfiles (a.found ++ [a.profile])
  rw [List.map_append] at hsave
  refine hsave.bind fun _ => ?_
  rw [T.id_eq, T.name_eq]
  exact (T.report _).bind fun _ => .pure rfl

lemma add (milliseconds : Nat) (d : Draft) :
    Task.Becomes T.state T.profile (r.add milliseconds d) (r'.add milliseconds (T.draft d)) :=
  (T.startAdd milliseconds d).bind T.finishAdd

lemma update (i : String) (d : Draft) :
    Task.Becomes T.state T.profile (r.update i d) (r'.update i (T.draft d)) := by
  refine (T.check d).bind fun _ => T.load.bind fun roster => ?_
  rw [Roster.find?_map T.id_eq]
  rcases roster.find? i with _ | stored
  · exact .throw _
  · -- stored, reported, applied and returned is the revised profile, or its translation
    have hsave := T.saveProfiles (Roster.replace i (stored.revised i d) roster.profiles)
    rw [← Roster.replace_map T.id_eq, T.revised_eq] at hsave
    refine hsave.bind fun _ => ?_
    have hname := T.name_eq (stored.revised i d)
    rw [T.revised_eq] at hname
    rw [hname]
    refine (T.report _).bind fun _ => ?_
    rw [Roster.activeId_map]
    by_cases h : roster.activeId = some i
    · rw [if_pos h, if_pos h]
      have happly := T.apply (stored.revised i d)
      rw [T.revised_eq] at happly
      exact happly.bind fun _ => .pure (T.revised_eq stored i d)
    · rw [if_neg h, if_neg h]
      exact .pure (T.revised_eq stored i d)

lemma deactivate : Task.Becomes T.state id r.deactivate r'.deactivate :=
  T.clear.bind fun _ => T.saveActive none

lemma remove (i : String) : Task.Becomes T.state T.profile (r.remove i) (r'.remove i) := by
  refine T.load.bind fun roster => ?_
  rw [Roster.find?_map T.id_eq]
  rcases roster.find? i with _ | p
  · exact .throw _
  · have hsave := T.saveProfiles (Roster.without i roster.profiles)
    rw [← Roster.without_map T.id_eq] at hsave
    refine hsave.bind fun _ => ?_
    rw [T.name_eq]
    refine (T.report _).bind fun _ => ?_
    rw [Roster.activeId_map]
    by_cases h : roster.activeId = some i
    · rw [if_pos h, if_pos h]
      exact T.deactivate.bind fun _ => .pure rfl
    · rw [if_neg h, if_neg h]
      exact .pure rfl

lemma activate (i : String) : Task.Becomes T.state id (r.activate i) (r'.activate i) := by
  refine T.load.bind fun roster => ?_
  rw [Roster.find?_map T.id_eq]
  rcases roster.find? i with _ | p
  · exact (T.report _).bind fun _ => .pure rfl
  · exact (T.apply p).bind fun _ => (T.saveActive _).bind fun _ => .pure rfl

lemma restore : Task.Becomes T.state id r.restore r'.restore := by
  refine T.load.bind fun roster => ?_
  rw [Roster.activeId_map]
  rcases roster.activeId with _ | i
  · exact T.markInactive.bind fun _ => .pure rfl
  · dsimp only
    rw [Roster.find?_map T.id_eq]
    rcases roster.find? i with _ | p
    · exact (T.report _).bind fun _ => T.markInactive.bind fun _ => .pure rfl
    · dsimp only [Option.map_some]
      rw [T.name_eq]
      exact (T.apply p).bind fun _ => (T.report _).bind fun _ => .pure rfl

/-- An operation becomes its translation. -/
lemma perform (op : Operation) : Task.Becomes T.state (Answer.map T.profile) (op.perform r)
    ((op.map T.draft).perform r') := by
  cases op with
  | list => exact T.list.map fun _ => rfl
  | get id => exact (T.get id).map fun _ => rfl
  | status => exact T.status.map fun _ => rfl
  | add milliseconds d => exact (T.add milliseconds d).map fun _ => rfl
  | update id d => exact (T.update id d).map fun _ => rfl
  | remove id => exact (T.remove id).map fun _ => rfl
  | activate id => exact (T.activate id).map fun _ => rfl
  | deactivate => exact T.deactivate.map fun _ => rfl
  | restore => exact T.restore.map fun _ => rfl

lemma state_after (op : Operation) (s : State ω) :
    T.state (r.after op s) = r'.after (op.map T.draft) (T.state s) :=
  congrArg Prod.snd (T.perform op s)

end Registry.Translation

end ProxyProfiles

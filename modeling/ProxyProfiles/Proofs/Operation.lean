import ProxyProfiles.Registry
import ProxyProfiles.Proofs.Submission
/-!
# Operations and their runs

A registry is asked to do one of nine things. Here they are data, so that a run of a registry is
a list of them, carried out one after another whether or not some of them fail
(`Registry.run`). An operation submits at most one thing to the host, and what that is depends on
the roster alone (`Operation.submission?`).
-/

namespace ProxyProfiles

open Switch

variable {ω : Type}

/-- What a registry may be asked to do. -/
inductive Operation where
  /-- To name all profiles. -/
  | list
  /-- To give the profile of an id. -/
  | get (id : String)
  /-- To tell which profiles there are and which is active. -/
  | status
  /-- To add a profile at the given time. -/
  | add (milliseconds : Nat) (d : Draft)
  /-- To change a profile. -/
  | update (id : String) (d : Draft)
  /-- To remove a profile. -/
  | remove (id : String)
  /-- To make a profile active. -/
  | activate (id : String)
  /-- To make no profile active. -/
  | deactivate
  /-- To put the active profile in force again. -/
  | restore
deriving DecidableEq, Repr

/-- What a registry answers. -/
inductive Answer where
  /-- All profiles. -/
  | profiles (ps : List Profile)
  /-- One profile. -/
  | profile (p : Profile)
  /-- Which profiles there are and which is active. -/
  | status (s : Status)
  /-- The payload in force, if the profile is known. -/
  | payload (p : Option Payload)
  /-- Nothing but that it is done. -/
  | done
  /-- What restoring found. -/
  | restored (x : Restored)
deriving DecidableEq, Repr

namespace Operation

/-- Carries out an operation. -/
def perform (r : Registry ω) : Operation → Task ω Answer
  | list => .profiles <$> r.list
  | get id => .profile <$> r.get id
  | status => .status <$> r.status
  | add milliseconds d => .profile <$> r.add milliseconds d
  | update id d => .profile <$> r.update id d
  | remove id => .profile <$> r.remove id
  | activate id => .payload <$> r.activate id
  | deactivate => (fun _ => .done) <$> r.deactivate
  | restore => .restored <$> r.restore

/-- What an operation has to submit if it gets as far as the host, given the roster that it has
read, if any. Going back is submitted without reading it. -/
def submission? : Operation → Option Roster → Option Submission
  | update id d, some roster =>
    if roster.activeId = some id then
      (roster.find? id).map fun stored => .apply (stored.revised id d)
    else none
  | remove id, some roster =>
    if roster.activeId = some id then (roster.find? id).map fun _ => .clear else none
  | activate id, some roster => (roster.find? id).map .apply
  | restore, some roster => roster.active?.map .apply
  | deactivate, _ => some .clear
  | _, _ => none

end Operation

/-- The state in which a program starts in a world: nothing is remembered. -/
def Switch.State.fresh (w : ω) : State ω where
  world := w

namespace Registry

/-- The state after an operation, done or failed. -/
def after (r : Registry ω) (op : Operation) (s : State ω) : State ω :=
  (op.perform r s).2

/-- The state after a list of operations, one after another. -/
def run (r : Registry ω) (ops : List Operation) (s : State ω) : State ω :=
  ops.foldl (fun s op => r.after op s) s

variable (r : Registry ω)

@[simp] lemma run_nil (s : State ω) : r.run [] s = s := rfl

@[simp] lemma run_cons (op : Operation) (ops : List Operation) (s : State ω) :
    r.run (op :: ops) s = r.run ops (r.after op s) := rfl

@[simp] lemma run_append_singleton (ops : List Operation) (op : Operation) (s : State ω) :
    r.run (ops ++ [op]) s = r.after op (r.run ops s) := by
  simp [run]

variable {r} {roster : Roster} {s s' : State ω} {id : String} {p : Profile}

lemma load_of_ok (h : (r.store.load s.world).result = .ok roster) :
    r.load s = (.ok roster, { s with
      world := (r.store.load s.world).world, log := s.log ++ (r.store.load s.world).log }) := by
  rw [load, outside_apply, h]

lemma check_of_ok {d : Draft} (hd : d.check = .ok ()) :
    (check d : Task ω Unit) s = (.ok (), s) := by
  rw [check, hd]
  rfl

lemma check_of_error {d : Draft} {e : ProfileFault} (hd : d.check = .error e) :
    (check d : Task ω Unit) s = (.error (.invalidProfile e), s) := by
  rw [check, hd]
  rfl

lemma of_check {d : Draft} (h : (check d : Task ω Unit) s = (.ok (), s')) :
    d.check = .ok () ∧ s' = s := by
  rcases hd : d.check with e | ⟨⟩
  · rw [check_of_error hd] at h
    cases h
  · rw [check_of_ok hd] at h
    cases h
    exact ⟨rfl, rfl⟩

lemma restore_of_activeId_none (hs : r.load s = (.ok roster, s')) (hid : roster.activeId = none) :
    r.restore s = (.ok .direct, (markInactive s').2) := by
  rw [restore, Task.bind_of_ok hs, hid]
  rfl

lemma restore_of_find?_none (hs : r.load s = (.ok roster, s')) (hid : roster.activeId = some id)
    (hf : roster.find? id = none) :
    r.restore s = (.ok (.dangling id), (markInactive (report (.warn
      ("Active profile " ++ id ++ " no longer exists, staying direct")) s').2).2) := by
  rw [restore, Task.bind_of_ok hs, hid]
  simp only [hf]
  rfl

lemma restore_of_find?_some (hs : r.load s = (.ok roster, s')) (hid : roster.activeId = some id)
    (hf : roster.find? id = some p) :
    r.restore s = (Switch.apply r.host p >>= fun _ =>
      report (.info ("Restored proxy profile " ++ p.name ++ " (" ++ id ++ ")")) >>= fun _ =>
        pure (.applied id)) s' := by
  rw [restore, Task.bind_of_ok hs, hid]
  simp only [hf]

end Registry

end ProxyProfiles

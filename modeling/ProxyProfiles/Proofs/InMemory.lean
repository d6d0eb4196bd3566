import ProxyProfiles.World
import ProxyProfiles.Proofs.Operation
import ProxyProfiles.Proofs.Roster
/-!
# A registry in memory

The registry of this module keeps its roster in memory and submits to a host that records what
it accepts. Its store never fails, so an operation fails for one of three reasons only: a draft
is refused, an id is unknown, or the host refuses. `Step` lists every way in which an operation
can end, with its result and the state that it leaves, and `step_perform` says that there are no
others.
-/

namespace ProxyProfiles

open Switch

/-- The registry with its roster in memory and a host that records. -/
def Registry.inMemory : Registry World :=
  ⟨World.memoryStore, World.recordingHost⟩

/-- The error with which the recording host refuses a submission. -/
def Submission.fault : Submission → Error
  | apply _ => .hostApply .refused
  | clear => .hostClear .refused

/-! ## What becomes of a state -/

namespace Switch.State

/-- The state after something was reported. -/
def noted (s : State World) (x : Record) : State World :=
  { s with log := s.log ++ [x] }

/-- The state after a list of profiles was stored and the reason reported. -/
def stored (s : State World) (ps : List Profile) (reason : String) : State World :=
  { s with
    world := { s.world with roster := { s.world.roster with profiles := ps } }
    log := s.log ++ [.info reason] }

/-- The state after an active id, or none, was stored. -/
def chosen (s : State World) (id : Option String) : State World :=
  { s with world := { s.world with roster := { s.world.roster with activeId := id } } }

/-- The state after the host has accepted and recorded a submission. -/
def accepted (s : State World) (a : Submission) : State World :=
  s.granted a ⟨.ok (), { s.world with recording := s.world.recording.push a.call }, []⟩

/-- The state after the host has refused a submission. -/
def refused (s : State World) (a : Submission) : State World :=
  s.denied a ⟨.error a.fault, s.world, []⟩ a.fault

/-- The state after the badge was blanked. -/
def blanked (s : State World) : State World :=
  { s with
    session := { s.session with badge := .inactive }
    shown := s.shown ++ [.inactive]
    log := s.log ++ [.info ("Badge: " ++ Badge.inactive.description)] }

section Fields

variable (s : State World) (ps : List Profile) (reason : String)

@[simp] lemma stored_roster :
    (s.stored ps reason).world.roster = ⟨ps, s.world.roster.activeId⟩ := rfl

@[simp] lemma stored_recording :
    (s.stored ps reason).world.recording = s.world.recording := rfl

@[simp] lemma stored_session : (s.stored ps reason).session = s.session := rfl

@[simp] lemma blanked_world : s.blanked.world = s.world := rfl

@[simp] lemma blanked_session :
    s.blanked.session = { s.session with badge := .inactive } := rfl

end Fields

end Switch.State

/-! ## The pieces -/

namespace Registry

variable (s : State World)

lemma load_inMemory : inMemory.load s = (.ok s.world.roster, s) := by
  simp [load, inMemory, World.memoryStore, Store.within, Store.memory, Outcome.within]

/-- Storing profiles and reporting why. -/
lemma saveProfiles_inMemory {α : Type} (ps : List Profile) (reason : String)
    (f : Unit → Task World α) :
    (outside (inMemory.store.saveProfiles ps) >>= fun _ => report (.info reason) >>= f) s =
      f () (s.stored ps reason) := by
  simp [inMemory, World.memoryStore, Store.within, Store.memory, Outcome.within,
    Task.bind_apply, State.stored]

lemma saveActive_inMemory (id : Option String) :
    outside (inMemory.store.saveActive id) s = (.ok (), s.chosen id) := by
  simp [inMemory, World.memoryStore, Store.within, Store.memory, Outcome.within, State.chosen]

variable {s} {p : Profile}

lemma apply_inMemory_of_accept (h : s.world.recording.rejectApply = false) :
    Switch.apply inMemory.host p s = (.ok p.compile, s.accepted (.apply p)) := by
  have ho : inMemory.host.apply p.compile s.world =
      ⟨.ok (), { s.world with recording := s.world.recording.push (.apply p.compile) }, []⟩ := by
    simp [inMemory, World.recordingHost, Host.within, Host.recording, Outcome.within, h]
  rw [apply_of_ok (by rw [ho]), ho]
  rfl

lemma apply_inMemory_of_reject (h : s.world.recording.rejectApply = true) :
    Switch.apply inMemory.host p s = (.error (.hostApply .refused), s.refused (.apply p)) := by
  have ho : inMemory.host.apply p.compile s.world =
      ⟨.error (.hostApply .refused), s.world, []⟩ := by
    simp [inMemory, World.recordingHost, Host.within, Host.recording, Outcome.within, h]
  rw [apply_of_error (by rw [ho]), ho]
  rfl

lemma clear_inMemory_of_accept (h : s.world.recording.rejectClear = false) :
    Switch.clear inMemory.host s = (.ok (), s.accepted .clear) := by
  have ho : inMemory.host.clear s.world =
      ⟨.ok (), { s.world with recording := s.world.recording.push .clear }, []⟩ := by
    simp [inMemory, World.recordingHost, Host.within, Host.recording, Outcome.within, h]
  rw [clear_of_ok (by rw [ho]), ho]
  rfl

lemma clear_inMemory_of_reject (h : s.world.recording.rejectClear = true) :
    Switch.clear inMemory.host s = (.error (.hostClear .refused), s.refused .clear) := by
  have ho : inMemory.host.clear s.world = ⟨.error (.hostClear .refused), s.world, []⟩ := by
    simp [inMemory, World.recordingHost, Host.within, Host.recording, Outcome.within, h]
  rw [clear_of_error (by rw [ho]), ho]
  rfl

variable {id : String} {q : Profile}

/-- A new profile is stored behind all others. -/
lemma add_inMemory {milliseconds : Nat} {d : Draft} (hd : d.check = .ok ())
    (hp : p = Profile.ofDraft (s.world.roster.freshId milliseconds) d) :
    inMemory.add milliseconds d s = (.ok p, s.stored (s.world.roster.profiles ++ [p])
      ("Added profile " ++ p.name ++ " (" ++ p.id ++ ")")) := by
  have hstart : inMemory.startAdd milliseconds d s = (.ok ⟨p, s.world.roster.profiles⟩, s) := by
    rw [startAdd, Task.bind_of_ok (check_of_ok hd), Task.bind_of_ok (load_inMemory s), hp]
    rfl
  rw [add, Task.bind_of_ok hstart, finishAdd, saveProfiles_inMemory]
  rfl

/-- A changed profile is stored before the host is asked. -/
lemma update_inMemory {d : Draft} (hd : d.check = .ok ())
    (hf : s.world.roster.find? id = some q) (hp : p = q.revised id d) :
    inMemory.update id d s =
      (if s.world.roster.activeId = some id then do
        let _ ← Switch.apply inMemory.host p
        return p
      else return p : Task World Profile)
        (s.stored (Roster.replace id p s.world.roster.profiles)
          ("Updated profile " ++ p.name ++ " (" ++ id ++ ")")) := by
  rw [update, Task.bind_of_ok (check_of_ok hd), Task.bind_of_ok (load_inMemory s), hf, hp]
  exact saveProfiles_inMemory s _ _ _

/-- A profile is no longer stored before the host is asked. -/
lemma remove_inMemory (hf : s.world.roster.find? id = some p) :
    inMemory.remove id s =
      (if s.world.roster.activeId = some id then do
        inMemory.deactivate
        return p
      else return p : Task World Profile)
        (s.stored (Roster.without id s.world.roster.profiles)
          ("Removed profile " ++ p.name ++ " (" ++ id ++ ")")) := by
  rw [remove, Task.bind_of_ok (load_inMemory s), hf]
  exact saveProfiles_inMemory s _ _ _

lemma update_inMemory_of_reject {d : Draft} (hd : d.check = .ok ())
    (hf : s.world.roster.find? id = some q) (hp : p = q.revised id d)
    (ha : s.world.roster.activeId = some id) (hr : s.world.recording.rejectApply = true) :
    inMemory.update id d s = (.error (.hostApply .refused),
      (s.stored (Roster.replace id p s.world.roster.profiles)
        ("Updated profile " ++ p.name ++ " (" ++ id ++ ")")).refused (.apply p)) := by
  rw [update_inMemory hd hf hp, if_pos ha, Task.bind_of_error (apply_inMemory_of_reject ?_)]
  exact hr

lemma deactivate_inMemory_of_accept (h : s.world.recording.rejectClear = false) :
    inMemory.deactivate s = (.ok (), (s.accepted .clear).chosen none) := by
  rw [deactivate, Task.bind_of_ok (clear_inMemory_of_accept h), saveActive_inMemory]

lemma deactivate_inMemory_of_reject (h : s.world.recording.rejectClear = true) :
    inMemory.deactivate s = (.error (.hostClear .refused), s.refused .clear) := by
  rw [deactivate, Task.bind_of_error (clear_inMemory_of_reject h)]

lemma remove_inMemory_of_reject (hf : s.world.roster.find? id = some p)
    (ha : s.world.roster.activeId = some id) (hr : s.world.recording.rejectClear = true) :
    inMemory.remove id s = (.error (.hostClear .refused),
      (s.stored (Roster.without id s.world.roster.profiles)
        ("Removed profile " ++ p.name ++ " (" ++ id ++ ")")).refused .clear) := by
  rw [remove_inMemory hf, if_pos ha, Task.bind_of_error (deactivate_inMemory_of_reject ?_)]
  exact hr

end Registry

/-! ## The ways in which an operation ends -/

/-- `Step s op x s'` if the operation `op` may end with the result `x` and lead from the state `s`
to the state `s'`. -/
inductive Step (s : State World) : Operation → Except Error Answer → State World → Prop
  | list : Step s .list (.ok (.profiles s.world.roster.profiles)) s
  | get {id : String} {p : Profile} (hf : s.world.roster.find? id = some p) :
    Step s (.get id) (.ok (.profile p)) s
  | getUnknown {id : String} (hf : s.world.roster.find? id = none) :
    Step s (.get id) (.error (.profileNotFound id)) s
  | status : Step s .status (.ok (.status ⟨s.world.roster.active?, s.world.roster.profiles⟩)) s
  | addInvalid {milliseconds : Nat} {d : Draft} {e : ProfileFault} (hd : d.check = .error e) :
    Step s (.add milliseconds d) (.error (.invalidProfile e)) s
  | add {milliseconds : Nat} {d : Draft} {p : Profile} (hd : d.check = .ok ())
    (hp : p = Profile.ofDraft (s.world.roster.freshId milliseconds) d) :
    Step s (.add milliseconds d) (.ok (.profile p))
      (s.stored (s.world.roster.profiles ++ [p])
        ("Added profile " ++ p.name ++ " (" ++ p.id ++ ")"))
  | updateInvalid {id : String} {d : Draft} {e : ProfileFault} (hd : d.check = .error e) :
    Step s (.update id d) (.error (.invalidProfile e)) s
  | updateUnknown {id : String} {d : Draft} (hd : d.check = .ok ())
    (hf : s.world.roster.find? id = none) :
    Step s (.update id d) (.error (.profileNotFound id)) s
  | update {id : String} {d : Draft} {q p : Profile} (hd : d.check = .ok ())
    (hf : s.world.roster.find? id = some q) (hp : p = q.revised id d)
    (ha : s.world.roster.activeId ≠ some id) :
    Step s (.update id d) (.ok (.profile p))
      (s.stored (Roster.replace id p s.world.roster.profiles)
        ("Updated profile " ++ p.name ++ " (" ++ id ++ ")"))
  | updateActive {id : String} {d : Draft} {q p : Profile} (hd : d.check = .ok ())
    (hf : s.world.roster.find? id = some q) (hp : p = q.revised id d)
    (ha : s.world.roster.activeId = some id) (hr : s.world.recording.rejectApply = false) :
    Step s (.update id d) (.ok (.profile p))
      ((s.stored (Roster.replace id p s.world.roster.profiles)
        ("Updated profile " ++ p.name ++ " (" ++ id ++ ")")).accepted (.apply p))
  | updateRefused {id : String} {d : Draft} {q p : Profile} (hd : d.check = .ok ())
    (hf : s.world.roster.find? id = some q) (hp : p = q.revised id d)
    (ha : s.world.roster.activeId = some id) (hr : s.world.recording.rejectApply = true) :
    Step s (.update id d) (.error (.hostApply .refused))
      ((s.stored (Roster.replace id p s.world.roster.profiles)
        ("Updated profile " ++ p.name ++ " (" ++ id ++ ")")).refused (.apply p))
  | removeUnknown {id : String} (hf : s.world.roster.find? id = none) :
    Step s (.remove id) (.error (.profileNotFound id)) s
  | remove {id : String} {p : Profile} (hf : s.world.roster.find? id = some p)
    (ha : s.world.roster.activeId ≠ some id) :
    Step s (.remove id) (.ok (.profile p))
      (s.stored (Roster.without id s.world.roster.profiles)
        ("Removed profile " ++ p.name ++ " (" ++ id ++ ")"))
  | removeActive {id : String} {p : Profile} (hf : s.world.roster.find? id = some p)
    (ha : s.world.roster.activeId = some id) (hr : s.world.recording.rejectClear = false) :
    Step s (.remove id) (.ok (.profile p))
      (((s.stored (Roster.without id s.world.roster.profiles)
        ("Removed profile " ++ p.name ++ " (" ++ id ++ ")")).accepted .clear).chosen none)
  | removeRefused {id : String} {p : Profile} (hf : s.world.roster.find? id = some p)
    (ha : s.world.roster.activeId = some id) (hr : s.world.recording.rejectClear = true) :
    Step s (.remove id) (.error (.hostClear .refused))
      ((s.stored (Roster.without id s.world.roster.profiles)
        ("Removed profile " ++ p.name ++ " (" ++ id ++ ")")).refused .clear)
  | activateUnknown {id : String} (hf : s.world.roster.find? id = none) :
    Step s (.activate id) (.ok (.payload none))
      (s.noted (.warn ("Cannot activate unknown profile " ++ id)))
  | activate {id : String} {p : Profile} (hf : s.world.roster.find? id = some p)
    (hr : s.world.recording.rejectApply = false) :
    Step s (.activate id) (.ok (.payload (some p.compile)))
      ((s.accepted (.apply p)).chosen (some id))
  | activateRefused {id : String} {p : Profile} (hf : s.world.roster.find? id = some p)
    (hr : s.world.recording.rejectApply = true) :
    Step s (.activate id) (.error (.hostApply .refused)) (s.refused (.apply p))
  | deactivate (hr : s.world.recording.rejectClear = false) :
    Step s .deactivate (.ok .done) ((s.accepted .clear).chosen none)
  | deactivateRefused (hr : s.world.recording.rejectClear = true) :
    Step s .deactivate (.error (.hostClear .refused)) (s.refused .clear)
  | restoreDirect (ha : s.world.roster.activeId = none) :
    Step s .restore (.ok (.restored .direct)) s.blanked
  | restoreDangling {id : String} (ha : s.world.roster.activeId = some id)
    (hf : s.world.roster.find? id = none) :
    Step s .restore (.ok (.restored (.dangling id)))
      (s.noted (.warn ("Active profile " ++ id ++ " no longer exists, staying direct"))).blanked
  | restore {id : String} {p : Profile} (ha : s.world.roster.activeId = some id)
    (hf : s.world.roster.find? id = some p) (hr : s.world.recording.rejectApply = false) :
    Step s .restore (.ok (.restored (.applied id)))
      ((s.accepted (.apply p)).noted
        (.info ("Restored proxy profile " ++ p.name ++ " (" ++ id ++ ")")))
  | restoreRefused {id : String} {p : Profile} (ha : s.world.roster.activeId = some id)
    (hf : s.world.roster.find? id = some p) (hr : s.world.recording.rejectApply = true) :
    Step s .restore (.error (.hostApply .refused)) (s.refused (.apply p))

namespace Step

open Registry

variable (s : State World)

lemma of_eq {s s' : State World} {op : Operation} {x : Except Error Answer}
    (h : op.perform inMemory s = (x, s')) (hs : Step s op x s') :
    Step s op (op.perform inMemory s).1 (op.perform inMemory s).2 := by
  rw [h]
  exact hs

lemma perform_list :
    Step s .list (Operation.list.perform inMemory s).1 (Operation.list.perform inMemory s).2 := by
  refine of_eq ?_ .list
  rw [Operation.perform, Task.map_apply, Registry.list, Task.bind_of_ok (load_inMemory s)]
  rfl

lemma perform_status :
    Step s .status (Operation.status.perform inMemory s).1
      (Operation.status.perform inMemory s).2 := by
  refine of_eq ?_ .status
  rw [Operation.perform, Task.map_apply, Registry.status, Task.bind_of_ok (load_inMemory s)]
  rfl

lemma perform_get (id : String) :
    Step s (.get id) ((Operation.get id).perform inMemory s).1
      ((Operation.get id).perform inMemory s).2 := by
  rcases hf : s.world.roster.find? id with _ | p
  · refine of_eq ?_ (.getUnknown hf)
    rw [Operation.perform, Task.map_apply, Registry.get, Task.bind_of_ok (load_inMemory s), hf]
    rfl
  · refine of_eq ?_ (.get hf)
    rw [Operation.perform, Task.map_apply, Registry.get, Task.bind_of_ok (load_inMemory s), hf]
    rfl

lemma perform_add (milliseconds : Nat) (d : Draft) :
    Step s (.add milliseconds d) ((Operation.add milliseconds d).perform inMemory s).1
      ((Operation.add milliseconds d).perform inMemory s).2 := by
  rcases hd : d.check with e | ⟨⟩
  · refine of_eq ?_ (.addInvalid hd)
    rw [Operation.perform, Task.map_apply, Registry.add, Registry.startAdd,
      Task.bind_of_error (Task.bind_of_error (check_of_error hd) _)]
  · refine of_eq ?_ (.add hd rfl)
    rw [Operation.perform, Task.map_apply, add_inMemory hd rfl]

lemma perform_update (id : String) (d : Draft) :
    Step s (.update id d) ((Operation.update id d).perform inMemory s).1
      ((Operation.update id d).perform inMemory s).2 := by
  rcases hd : d.check with e | ⟨⟩
  · refine of_eq ?_ (.updateInvalid hd)
    rw [Operation.perform, Task.map_apply, Registry.update, Task.bind_of_error (check_of_error hd)]
  rcases hf : s.world.roster.find? id with _ | q
  · refine of_eq ?_ (.updateUnknown hd hf)
    rw [Operation.perform, Task.map_apply, Registry.update, Task.bind_of_ok (check_of_ok hd),
      Task.bind_of_ok (load_inMemory s), hf]
    rfl
  by_cases ha : s.world.roster.activeId = some id
  · rcases hr : s.world.recording.rejectApply with _ | _
    · refine of_eq ?_ (.updateActive hd hf rfl ha hr)
      rw [Operation.perform, Task.map_apply, update_inMemory hd hf rfl, if_pos ha,
        Task.bind_of_ok (apply_inMemory_of_accept ?_)]
      · rfl
      · exact hr
    · refine of_eq ?_ (.updateRefused hd hf rfl ha hr)
      rw [Operation.perform, Task.map_apply, update_inMemory_of_reject hd hf rfl ha hr]
  · refine of_eq ?_ (.update hd hf rfl ha)
    rw [Operation.perform, Task.map_apply, update_inMemory hd hf rfl, if_neg ha]
    rfl

lemma perform_remove (id : String) :
    Step s (.remove id) ((Operation.remove id).perform inMemory s).1
      ((Operation.remove id).perform inMemory s).2 := by
  rcases hf : s.world.roster.find? id with _ | p
  · refine of_eq ?_ (.removeUnknown hf)
    rw [Operation.perform, Task.map_apply, Registry.remove, Task.bind_of_ok (load_inMemory s), hf]
    rfl
  by_cases ha : s.world.roster.activeId = some id
  · rcases hr : s.world.recording.rejectClear with _ | _
    · refine of_eq ?_ (.removeActive hf ha hr)
      rw [Operation.perform, Task.map_apply, remove_inMemory hf, if_pos ha,
        Task.bind_of_ok (deactivate_inMemory_of_accept ?_)]
      · rfl
      · exact hr
    · refine of_eq ?_ (.removeRefused hf ha hr)
      rw [Operation.perform, Task.map_apply, remove_inMemory_of_reject hf ha hr]
  · refine of_eq ?_ (.remove hf ha)
    rw [Operation.perform, Task.map_apply, remove_inMemory hf, if_neg ha]
    rfl

lemma perform_activate (id : String) :
    Step s (.activate id) ((Operation.activate id).perform inMemory s).1
      ((Operation.activate id).perform inMemory s).2 := by
  rcases hf : s.world.roster.find? id with _ | p
  · refine of_eq ?_ (.activateUnknown hf)
    rw [Operation.perform, Task.map_apply, Registry.activate,
      Task.bind_of_ok (load_inMemory s), hf]
    rfl
  rcases hr : s.world.recording.rejectApply with _ | _
  · refine of_eq ?_ (.activate hf hr)
    rw [Operation.perform, Task.map_apply, Registry.activate,
      Task.bind_of_ok (load_inMemory s), hf]
    simp only [Task.bind_of_ok (apply_inMemory_of_accept hr),
      Task.bind_of_ok (saveActive_inMemory _ _)]
    rfl
  · refine of_eq ?_ (.activateRefused hf hr)
    rw [Operation.perform, Task.map_apply, Registry.activate,
      Task.bind_of_ok (load_inMemory s), hf]
    simp only [Task.bind_of_error (apply_inMemory_of_reject hr)]

lemma perform_deactivate :
    Step s .deactivate (Operation.deactivate.perform inMemory s).1
      (Operation.deactivate.perform inMemory s).2 := by
  rcases hr : s.world.recording.rejectClear with _ | _
  · refine of_eq ?_ (.deactivate hr)
    rw [Operation.perform, Task.map_apply, deactivate_inMemory_of_accept hr]
  · refine of_eq ?_ (.deactivateRefused hr)
    rw [Operation.perform, Task.map_apply, deactivate_inMemory_of_reject hr]

lemma perform_restore :
    Step s .restore (Operation.restore.perform inMemory s).1
      (Operation.restore.perform inMemory s).2 := by
  rcases ha : s.world.roster.activeId with _ | id
  · refine of_eq ?_ (.restoreDirect ha)
    rw [Operation.perform, Task.map_apply, restore_of_activeId_none (load_inMemory s) ha]
    rfl
  rcases hf : s.world.roster.find? id with _ | p
  · refine of_eq ?_ (.restoreDangling ha hf)
    rw [Operation.perform, Task.map_apply, restore_of_find?_none (load_inMemory s) ha hf]
    rfl
  rcases hr : s.world.recording.rejectApply with _ | _
  · refine of_eq ?_ (.restore ha hf hr)
    rw [Operation.perform, Task.map_apply, restore_of_find?_some (load_inMemory s) ha hf,
      Task.bind_of_ok (apply_inMemory_of_accept hr)]
    rfl
  · refine of_eq ?_ (.restoreRefused ha hf hr)
    rw [Operation.perform, Task.map_apply, restore_of_find?_some (load_inMemory s) ha hf,
      Task.bind_of_error (apply_inMemory_of_reject hr)]

end Step

/-- Every operation ends in one of these ways. -/
lemma step_perform (s : State World) (op : Operation) :
    Step s op (op.perform Registry.inMemory s).1 (op.perform Registry.inMemory s).2 := by
  cases op with
  | list => exact Step.perform_list s
  | get id => exact Step.perform_get s id
  | status => exact Step.perform_status s
  | add milliseconds d => exact Step.perform_add s milliseconds d
  | update id d => exact Step.perform_update s id d
  | remove id => exact Step.perform_remove s id
  | activate id => exact Step.perform_activate s id
  | deactivate => exact Step.perform_deactivate s
  | restore => exact Step.perform_restore s

end ProxyProfiles

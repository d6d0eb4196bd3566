import ProxyProfiles.Proofs.InMemory
import Mathlib.Data.List.Induction
/-!
# The roster, the host and the session agree

Here a registry in memory takes turns: in each of them it carries out one operation, and the
host refuses what is submitted in it or does not. A change and a removal are stored before the
host is asked, so the host must not refuse these two (`Turn.Lenient`); it may refuse everything
else.

Roster, host and session then stay in step (`InStep`). So the active id is never that of a
profile that is gone, and the host enforces the active profile as it is stored
(`host_enforces_active`); and since all that the session holds can be told from the roster,
nothing is lost when the program is stopped and started again (`restore_rebuilds_session`).
-/

namespace ProxyProfiles

open Switch

/-! ## Turns -/

/-- Whether an operation changes a stored profile or removes it. -/
def Operation.edits : Operation → Bool
  | update _ _ => true
  | remove _ => true
  | _ => false

/-- The state with the answer of the host settled for whatever is submitted next. -/
def Switch.State.answering (refused : Bool) (s : State World) : State World :=
  { s with world := { s.world with recording :=
    { s.world.recording with rejectApply := refused, rejectClear := refused } } }

/-- An operation and the answer of the host. -/
structure Turn where
  /-- The operation. -/
  operation : Operation
  /-- Whether the host refuses what is submitted, if something is. -/
  refused : Bool
deriving DecidableEq, Repr

namespace Turn

/-- What a turn results in. -/
def result (t : Turn) (s : State World) : Except Error Answer :=
  (t.operation.perform Registry.inMemory (s.answering t.refused)).1

/-- The state after a turn. -/
def after (t : Turn) (s : State World) : State World :=
  (t.operation.perform Registry.inMemory (s.answering t.refused)).2

/-- The state after a list of turns. -/
def run (ts : List Turn) (s : State World) : State World :=
  ts.foldl (fun s t => t.after s) s

/-- The host does not refuse a change or a removal. -/
def Lenient (t : Turn) : Prop :=
  t.operation.edits = true → t.refused = false

instance (t : Turn) : Decidable t.Lenient :=
  inferInstanceAs (Decidable (_ → _))

lemma step_after (t : Turn) (s : State World) :
    Step (s.answering t.refused) t.operation (t.result s) (t.after s) :=
  step_perform _ _

lemma run_append_singleton (ts : List Turn) (t : Turn) (s : State World) :
    run (ts ++ [t]) s = t.after (run ts s) := by
  simp [run]

end Turn

/-! ## Being in step -/

/-- What a roster wants to be submitted: its active profile, if it has one. -/
def Roster.submission (r : Roster) : Submission :=
  match r.active? with
  | some p => .apply p
  | none => .clear

/-- The call in force. A host that has accepted no call has nothing in force. -/
def Recording.inForce (c : Recording) : HostCall :=
  c.calls.getLast?.getD .clear

lemma Recording.inForce_push (c : Recording) (x : HostCall) : (c.push x).inForce = x := by
  simp [inForce, push]

namespace Roster

variable {r : Roster} {id : String} {p : Profile}

lemma submission_of_active (ha : r.activeId = some id) (hf : r.find? id = some p) :
    r.submission = .apply p := by
  rw [submission, active?_of_activeId ha, hf]

lemma submission_of_none (ha : r.activeId = none) : r.submission = .clear := by
  rw [submission, active?_of_activeId_none ha]

end Roster

/-- The active profile is stored, the host enforces it as it is stored, and the session is the
one for it. -/
structure InStep (s : State World) : Prop where
  active : ∀ id, s.world.roster.activeId = some id → ∃ p, s.world.roster.find? id = some p
  host : s.world.recording.inForce = s.world.roster.submission.call
  session : s.session = s.world.roster.submission.session

namespace InStep

variable {s s' : State World} {op : Operation} {x : Except Error Answer}

lemma fresh : InStep (.fresh {}) where
  active id ha := by simp [State.fresh] at ha
  host := rfl
  session := rfl

lemma answering (h : InStep s) (refused : Bool) : InStep (s.answering refused) :=
  ⟨h.active, h.host, h.session⟩

lemma noted (h : InStep s) (r : Record) : InStep (s.noted r) :=
  ⟨h.active, h.host, h.session⟩

lemma refused (h : InStep s) (a : Submission) : InStep (s.refused a) :=
  ⟨h.active, h.host, h.session⟩

/-- A blank badge is right when nothing is active. -/
lemma blanked (h : InStep s) (ha : s.world.roster.activeId = none) : InStep s.blanked where
  active := h.active
  host := h.host
  session := by
    have hs := h.session
    rw [Roster.submission_of_none ha] at hs
    rw [State.blanked_session, State.blanked_world, Roster.submission_of_none ha, hs]
    rfl

/-- Other profiles may be stored if the active one is among them as it was. -/
lemma stored (h : InStep s) {ps : List Profile} (reason : String)
    (hps : ∀ id p, s.world.roster.activeId = some id → s.world.roster.find? id = some p →
      (⟨ps, s.world.roster.activeId⟩ : Roster).find? id = some p) :
    InStep (s.stored ps reason) := by
  have hsub : (⟨ps, s.world.roster.activeId⟩ : Roster).submission = s.world.roster.submission := by
    rcases ha : s.world.roster.activeId with _ | id
    · rw [Roster.submission_of_none ha]
      exact Roster.submission_of_none rfl
    · obtain ⟨p, hf⟩ := h.active id ha
      rw [Roster.submission_of_active ha hf]
      exact Roster.submission_of_active rfl (hps id p ha hf)
  constructor
  · intro id ha
    obtain ⟨p, hf⟩ := h.active id ha
    exact ⟨p, hps id p ha hf⟩
  · rw [State.stored_recording, State.stored_roster, hsub]
    exact h.host
  · rw [State.stored_session, State.stored_roster, hsub]
    exact h.session

/-- All are in step once the host has accepted the active profile. -/
lemma of_applied {id : String} {p : Profile} (ha : s.world.roster.activeId = some id)
    (hf : s.world.roster.find? id = some p) (hhost : s.world.recording.inForce = .apply p.compile)
    (hsession : s.session = (Submission.apply p).session) : InStep s := by
  have hsub := Roster.submission_of_active ha hf
  constructor
  · intro id' ha'
    obtain rfl : id = id' := Option.some.inj (ha.symm.trans ha')
    exact ⟨p, hf⟩
  · rw [hsub]
    exact hhost
  · rw [hsub]
    exact hsession

/-- All are in step once the host has gone back and nothing is active. -/
lemma of_cleared (ha : s.world.roster.activeId = none) (hhost : s.world.recording.inForce = .clear)
    (hsession : s.session = Submission.clear.session) : InStep s := by
  have hsub := Roster.submission_of_none ha
  constructor
  · intro id' ha'
    simp [ha] at ha'
  · rw [hsub]
    exact hhost
  · rw [hsub]
    exact hsession

/-- An operation keeps them in step if the host does not refuse a change or a removal. -/
lemma step (h : InStep s) (hs : Step s op x s')
    (happly : op.edits = true → s.world.recording.rejectApply = false)
    (hclear : op.edits = true → s.world.recording.rejectClear = false) : InStep s' := by
  cases hs with
  | list | get | getUnknown | status | addInvalid | updateInvalid | updateUnknown
  | removeUnknown => exact h
  | add hd hp => exact h.stored _ fun id p _ hf => Roster.find?_append hf
  | @update id d q p hd hf hp hne =>
    refine h.stored _ fun id' p' ha hf' => ?_
    have hid : id' ≠ id := by
      rintro rfl
      exact hne ha
    rw [Roster.find?_replace_of_ne (by simp [hp]) hid]
    exact hf'
  | @updateActive id d q p hd hf hp ha hr =>
    exact of_applied ha (Roster.find?_replace_self (by simp [hp]) hf)
      (Recording.inForce_push _ _) rfl
  | updateRefused hd hf hp ha hr => simp [happly rfl] at hr
  | @remove id p hf hne =>
    refine h.stored _ fun id' p' ha hf' => ?_
    have hid : id' ≠ id := by
      rintro rfl
      exact hne ha
    rw [Roster.find?_without_of_ne hid]
    exact hf'
  | removeActive hf ha hr => exact of_cleared rfl (Recording.inForce_push _ _) rfl
  | removeRefused hf ha hr => simp [hclear rfl] at hr
  | activateUnknown hf => exact h.noted _
  | activate hf hr => exact of_applied rfl hf (Recording.inForce_push _ _) rfl
  | activateRefused hf hr => exact h.refused _
  | deactivate hr => exact of_cleared rfl (Recording.inForce_push _ _) rfl
  | deactivateRefused hr => exact h.refused _
  | restoreDirect ha => exact h.blanked ha
  | restoreDangling ha hf =>
    obtain ⟨p, hf'⟩ := h.active _ ha
    simp [hf] at hf'
  | restore ha hf hr =>
    have hs : InStep (s.accepted (.apply _)) :=
      of_applied ha hf (Recording.inForce_push _ _) rfl
    exact hs.noted _
  | restoreRefused ha hf hr => exact h.refused _

lemma turn (h : InStep s) {t : Turn} (ht : t.Lenient) : InStep (t.after s) :=
  (h.answering t.refused).step (t.step_after s) ht ht

lemma run {ts : List Turn} (hts : ∀ t ∈ ts, t.Lenient) : InStep (Turn.run ts (.fresh {})) := by
  induction ts using List.reverseRecOn with
  | nil => exact fresh
  | append_singleton ts t ih =>
    rw [Turn.run_append_singleton]
    have hs : InStep (Turn.run ts (.fresh {})) := ih fun t' ht' => hts t' (by simp [ht'])
    exact hs.turn (hts t (by simp))

end InStep

/-- After all turns from nothing in which the host refuses no change and no removal: the active
id is none or that of a stored profile; the host has accepted the active profile last, as it is
stored now; and if there is no active id it has last gone back, or has accepted nothing. -/
theorem host_enforces_active (ts : List Turn) (hts : ∀ t ∈ ts, t.Lenient) :
    let s := Turn.run ts (.fresh {})
    (∀ id, s.world.roster.activeId = some id →
      ∃ p ∈ s.world.roster.profiles, p.id = id ∧ s.world.roster.active? = some p) ∧
    (∀ p, s.world.roster.active? = some p →
      s.world.recording.calls.getLast? = some (.apply p.compile)) ∧
    (s.world.roster.activeId = none →
      s.world.recording.calls = [] ∨ s.world.recording.calls.getLast? = some .clear) := by
  intro s
  have h : InStep s := .run hts
  refine ⟨?_, ?_, ?_⟩
  · intro id ha
    obtain ⟨p, hf⟩ := h.active id ha
    refine ⟨p, Roster.mem_of_find? hf, Roster.id_of_find? hf, ?_⟩
    rw [Roster.active?_of_activeId ha, hf]
  · intro p hp
    have hhost : s.world.recording.calls.getLast?.getD .clear = .apply p.compile := by
      have hhost := h.host
      rw [Roster.submission, hp] at hhost
      exact hhost
    rcases hlast : s.world.recording.calls.getLast? with _ | c
    · simp [hlast] at hhost
    · simpa [hlast] using hhost
  · intro ha
    have hhost : s.world.recording.calls.getLast?.getD .clear = .clear := by
      have hhost := h.host
      rw [Roster.submission_of_none ha] at hhost
      exact hhost
    rcases hlast : s.world.recording.calls.getLast? with _ | c
    · exact .inl (List.getLast?_eq_none_iff.1 hlast)
    · exact .inr (by simpa [hlast] using hhost)

/-- A profile is added, is made active at the second try, and is changed; going back is
refused. -/
def Turn.sample : List Turn :=
  let office := (Draft.new "Office" .http "proxy.office" 8080).withCredentials "alice" "secret"
  let home := Draft.new "Home" .http "proxy.home" 8080
  [⟨.add 7 office, false⟩, ⟨.activate "7", true⟩, ⟨.activate "7", false⟩,
    ⟨.update "7" home, false⟩, ⟨.deactivate, true⟩]

theorem host_enforces_active_sample :
    (∀ t ∈ Turn.sample, t.Lenient) ∧
    ∃ p, (Turn.run Turn.sample (.fresh {})).world.roster.active? = some p ∧ p.name = "Home" ∧
      (Turn.run Turn.sample (.fresh {})).world.recording.calls.getLast? =
        some (.apply p.compile) := by
  have hts : ∀ t ∈ Turn.sample, t.Lenient := by decide
  obtain ⟨hactive, hlast, -⟩ := host_enforces_active Turn.sample hts
  obtain ⟨p, -, -, hp⟩ := hactive "7" (by decide)
  have hname : (Turn.run Turn.sample (.fresh {})).world.roster.active?.map Profile.name =
      some "Home" := by decide
  refine ⟨hts, p, hp, ?_, hlast p hp⟩
  rw [hp] at hname
  exact Option.some.inj hname

/-! ## Stopping and starting again -/

/-- A restoring in which the host accepts, or does not. -/
def Turn.restoring (refused : Bool) : Turn :=
  ⟨.restore, refused⟩

variable {s : State World}

/-- Restoring changes nothing in states that are in step. -/
lemma InStep.restoring (h : InStep s) (refused : Bool) :
    ((Turn.restoring refused).after s).session = s.session ∧
      ((Turn.restoring refused).after s).world.roster = s.world.roster := by
  have h' : InStep ((Turn.restoring refused).after s) :=
    h.turn (by simp [Turn.Lenient, Turn.restoring, Operation.edits])
  have hroster : ((Turn.restoring refused).after s).world.roster = s.world.roster := by
    have hs : Step (s.answering refused) .restore _ _ := (Turn.restoring refused).step_after s
    generalize (Turn.restoring refused).result s = x at hs
    generalize (Turn.restoring refused).after s = s' at hs ⊢
    cases hs <;> rfl
  exact ⟨by rw [h'.session, hroster, h.session], hroster⟩

/-- The active profile is applied once when it is restored. -/
lemma restoring_of_active {id : String} {p : Profile} (ha : s.world.roster.activeId = some id)
    (hf : s.world.roster.find? id = some p) :
    (Turn.restoring false).result s = .ok (.restored (.applied id)) ∧
      (Turn.restoring false).after s = (((s.answering false).accepted (.apply p)).noted
        (.info ("Restored proxy profile " ++ p.name ++ " (" ++ id ++ ")"))) := by
  have hs : Step (s.answering false) .restore _ _ := (Turn.restoring false).step_after s
  generalize (Turn.restoring false).result s = x at hs ⊢
  generalize (Turn.restoring false).after s = s' at hs ⊢
  cases hs with
  | restoreDirect ha' => exact absurd (ha'.symm.trans ha) (by simp)
  | restoreDangling ha' hf' =>
    obtain rfl := Option.some.inj (ha'.symm.trans ha)
    exact absurd (hf'.symm.trans hf) (by simp)
  | restore ha' hf' hr =>
    obtain rfl := Option.some.inj (ha'.symm.trans ha)
    obtain rfl := Option.some.inj (hf'.symm.trans hf)
    exact ⟨rfl, rfl⟩
  | restoreRefused ha' hf' hr => simp [State.answering] at hr

lemma restoring_of_none (ha : s.world.roster.activeId = none) :
    (Turn.restoring false).result s = .ok (.restored .direct) ∧
      (Turn.restoring false).after s = (s.answering false).blanked := by
  have hs : Step (s.answering false) .restore _ _ := (Turn.restoring false).step_after s
  generalize (Turn.restoring false).result s = x at hs ⊢
  generalize (Turn.restoring false).after s = s' at hs ⊢
  cases hs with
  | restoreDirect ha' => exact ⟨rfl, rfl⟩
  | restoreDangling ha' hf' => exact absurd (ha'.symm.trans ha) (by simp)
  | restore ha' hf' hr => exact absurd (ha'.symm.trans ha) (by simp)
  | restoreRefused ha' hf' hr => exact absurd (ha'.symm.trans ha) (by simp)

/-- Whatever was in step is so again after a restart and a restoring that the host accepts. -/
lemma InStep.restarted (h : InStep s) :
    InStep ((Turn.restoring false).after (.fresh s.world)) ∧
      ((Turn.restoring false).after (.fresh s.world)).world.roster = s.world.roster := by
  rcases ha : s.world.roster.activeId with _ | id
  · obtain ⟨-, hafter⟩ := restoring_of_none (s := .fresh s.world) ha
    have hhost := h.host
    rw [Roster.submission_of_none ha] at hhost
    rw [hafter]
    exact ⟨of_cleared ha hhost rfl, rfl⟩
  · obtain ⟨p, hf⟩ := h.active id ha
    obtain ⟨-, hafter⟩ := restoring_of_active (s := .fresh s.world) ha hf
    rw [hafter]
    exact ⟨of_applied ha hf (Recording.inForce_push _ _) rfl, rfl⟩

/-- All that the session holds can be told from the roster. If the program is stopped after turns
in which the host refuses no change and no removal, and is started again with a fresh session and
a host that accepts, then restoring applies the active profile once, or nothing if none is
active; it finds no active id dangling; session and roster are what they were; and restoring once
more, whatever the host answers, does not change them. -/
theorem restore_rebuilds_session (ts : List Turn) (hts : ∀ t ∈ ts, t.Lenient) :
    let s := Turn.run ts (.fresh {})
    let restarted : State World := .fresh s.world
    let s' := (Turn.restoring false).after restarted
    (∀ id, s.world.roster.activeId = some id →
      (Turn.restoring false).result restarted = .ok (.restored (.applied id)) ∧
      ∃ p, s.world.roster.active? = some p ∧
        s'.world.recording.calls = s.world.recording.calls ++ [.apply p.compile]) ∧
    (s.world.roster.activeId = none →
      (Turn.restoring false).result restarted = .ok (.restored .direct) ∧
      s'.world.recording.calls = s.world.recording.calls) ∧
    s'.session = s.session ∧ s'.world.roster = s.world.roster ∧
    ∀ refused, ((Turn.restoring refused).after s').session = s'.session ∧
      ((Turn.restoring refused).after s').world.roster = s'.world.roster := by
  intro s restarted s'
  have h : InStep s := .run hts
  obtain ⟨h', hroster⟩ : InStep s' ∧ s'.world.roster = s.world.roster := h.restarted
  have hsession : s'.session = s.session := by
    rw [h'.session, hroster, h.session]
  refine ⟨?_, ?_, hsession, hroster, h'.restoring⟩
  · intro id ha
    obtain ⟨p, hf⟩ := h.active id ha
    obtain ⟨hresult, hafter⟩ := restoring_of_active (s := restarted) ha hf
    refine ⟨hresult, p, ?_, ?_⟩
    · rw [Roster.active?_of_activeId ha, hf]
    · rw [show s' = _ from hafter]
      rfl
  · intro ha
    obtain ⟨hresult, hafter⟩ := restoring_of_none (s := restarted) ha
    refine ⟨hresult, ?_⟩
    rw [show s' = _ from hafter]
    rfl

theorem restore_rebuilds_session_sample :
    (∀ t ∈ Turn.sample, t.Lenient) ∧
    (Turn.restoring false).result (.fresh (Turn.run Turn.sample (.fresh {})).world) =
      .ok (.restored (.applied "7")) ∧
    ((Turn.restoring false).after (.fresh (Turn.run Turn.sample (.fresh {})).world)).session =
      ⟨some ⟨"alice", "secret"⟩, .active .blacklist⟩ := by
  have hts : ∀ t ∈ Turn.sample, t.Lenient := by decide
  obtain ⟨hactive, -, hsession, -⟩ := restore_rebuilds_session Turn.sample hts
  obtain ⟨hresult, -⟩ := hactive "7" (by decide)
  refine ⟨hts, hresult, ?_⟩
  rw [hsession]
  decide

end ProxyProfiles

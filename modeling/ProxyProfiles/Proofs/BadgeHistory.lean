import ProxyProfiles.Proofs.Operation
import ProxyProfiles.Proofs.Overlap
/-!
# The badge and the calls of the host

Attempts to apply profiles overlap in every way, at a host that records what it accepts. Profiles
are also applied in one go, direct connections are asked for, and the host begins and ceases to
refuse. However that goes on, the badges shown are those of the recorded calls, in their order, and
the badge in the session is that of the last one (`badges_follow_calls`).

The recorded calls are those that the steps were answered with (`Traffic.acceptedCalls`), so an
attempt that is refused or has no answer yet adds neither a call nor a badge. A badge is told from
the profile and a call from the payload that was compiled when the attempt began. That the two
belong together is what a run has to carry along (`Truthful`).
-/

namespace ProxyProfiles

open Switch

/-! ## Badges of calls -/

/-- The badge of a call that the host has accepted. -/
def HostCall.badge : HostCall → Badge
  | apply (.script _) => .active .whitelist
  | apply (.rules _) => .active .blacklist
  | clear => .inactive

lemma HostCall.badge_compile (p : Profile) :
    (HostCall.apply p.compile).badge = .active p.policyMode := by
  rcases h : p.policyMode with _ | _ <;> simp [Profile.compile, h, HostCall.badge]

/-- The badge of the last call. As long as there is none it is blank. -/
def lastBadge (calls : List HostCall) : Badge :=
  (calls.getLast?.map HostCall.badge).getD .inactive

lemma lastBadge_append_toList (calls : List HostCall) (c? : Option HostCall) :
    lastBadge (calls ++ c?.toList) = (c?.map HostCall.badge).getD (lastBadge calls) := by
  cases c? <;> simp [lastBadge]

/-! ## One step -/

/-- What may happen at a switch whose host records. -/
inductive Happening where
  /-- An attempt to apply a profile begins. -/
  | begin (p : Profile)
  /-- The attempt of a number goes on to its end, if it is underway. -/
  | finish (n : Nat)
  /-- A profile is applied in one go. -/
  | apply (p : Profile)
  /-- Direct connections are asked for. -/
  | clear
  /-- The host begins or ceases to refuse payloads. -/
  | rejectApply (on : Bool)
  /-- The host begins or ceases to refuse to go back. -/
  | rejectClear (on : Bool)
deriving DecidableEq, Repr

/-- What happens, as a move. -/
def Happening.move (w : Recording) : Happening → Move Recording
  | begin p => .begin p
  | finish n => .finish n
  | apply p => .apply p
  | clear => .clear
  | rejectApply on => .meanwhile { w with rejectApply := on }
  | rejectClear on => .meanwhile { w with rejectClear := on }

namespace Traffic

/-- The traffic after something has happened. -/
def happen (t : Traffic Recording) (x : Happening) : Traffic Recording :=
  t.step .recording (x.move t.state.world)

/-- The traffic after things have happened one after another. -/
def happenAll (xs : List Happening) (t : Traffic Recording) : Traffic Recording :=
  xs.foldl happen t

/-- The call that was answered with success in a step, if there is one. -/
def acceptedCall? (t : Traffic Recording) : Happening → Option HostCall
  | .finish n => (t.underway.find? (·.number == n)).bind fun a =>
      (Switch.finish .recording a.pending t.state).1.toOption.map .apply
  | .apply p => (Switch.apply .recording p t.state).1.toOption.map .apply
  | .clear => (Switch.clear .recording t.state).1.toOption.map fun _ => .clear
  | .begin _ | .rejectApply _ | .rejectClear _ => none

/-- The calls that were answered with success in a run, oldest first. -/
def acceptedCalls : List Happening → Traffic Recording → List HostCall
  | [], _ => []
  | x :: xs, t => (t.acceptedCall? x).toList ++ acceptedCalls xs (t.happen x)

end Traffic

/-- If a call was accepted, it is recorded and its badge is shown; if not, recording and badges are
as before. -/
structure Shows (c? : Option HostCall) (s s' : State Recording) : Prop where
  calls : s'.world.calls = s.world.calls ++ c?.toList
  shown : s'.shown = s.shown ++ c?.toList.map HostCall.badge
  badge : s'.session.badge = (c?.map HostCall.badge).getD s.session.badge

namespace Shows

variable (s : State Recording)

lemma of_same {s s' : State Recording} (hcalls : s'.world.calls = s.world.calls)
    (hshown : s'.shown = s.shown) (hbadge : s'.session.badge = s.session.badge) :
    Shows none s s' :=
  ⟨by simpa using hcalls, by simpa using hshown, hbadge⟩

lemma finish {q : Pending} (hq : q.payload = q.profile.compile) :
    Shows ((Switch.finish .recording q s).1.toOption.map .apply) s
      (Switch.finish .recording q s).2 := by
  rcases hr : s.world.rejectApply with _ | _
  · constructor <;>
      simp [Switch.finish, Task.bind_apply, Task.map_apply, Host.recording, hr, hq, Except.toOption,
        Recording.push, HostCall.badge_compile]
  · constructor <;>
      simp [Switch.finish, Task.bind_apply, Host.recording, hr, Except.toOption]

/-- What happens to a profile that is applied in one go happens when its attempt ends. -/
lemma apply (p : Profile) :
    Shows ((Switch.apply .recording p s).1.toOption.map .apply) s
      (Switch.apply .recording p s).2 := by
  have hstart : Switch.start p s = (.ok ⟨p, p.compile, s.session.credentials⟩,
      { s with session := { s.session with credentials := p.credentials } }) := rfl
  rw [Switch.apply, Task.bind_of_ok hstart]
  have h := finish { s with session := { s.session with credentials := p.credentials } }
    (q := ⟨p, p.compile, s.session.credentials⟩) rfl
  exact ⟨h.calls, h.shown, h.badge⟩

lemma clear :
    Shows ((Switch.clear .recording s).1.toOption.map fun _ => .clear) s
      (Switch.clear .recording s).2 := by
  rcases hr : s.world.rejectClear with _ | _ <;> constructor <;>
    simp [Switch.clear, Task.bind_apply, Host.recording, hr, Except.toOption, Recording.push,
      HostCall.badge]

end Shows

/-! ## Runs -/

/-- What is shown is what the host has recorded, and will be. -/
structure Truthful (t : Traffic Recording) : Prop where
  /-- An attempt underway has the payload of its profile. -/
  payload : ∀ a ∈ t.underway, a.pending.payload = a.pending.profile.compile
  /-- The badges shown are those of the calls. -/
  shown : t.state.shown = t.state.world.calls.map HostCall.badge
  /-- The badge is that of the last call. -/
  badge : t.state.session.badge = lastBadge t.state.world.calls

namespace Truthful

variable {t : Traffic Recording}

lemma start (rejectApply rejectClear : Bool) :
    Truthful { state := .fresh { rejectApply, rejectClear } } where
  payload := by simp
  shown := rfl
  badge := rfl

/-- Whatever happens, an accepted call is recorded and shown, and nothing else. -/
lemma shows_happen (h : Truthful t) (x : Happening) :
    Shows (t.acceptedCall? x) t.state (t.happen x).state := by
  cases x with
  | begin p => exact .of_same rfl rfl rfl
  | finish n =>
    rcases hfind : t.underway.find? (·.number == n) with _ | a <;>
      simp only [Traffic.happen, Happening.move, Traffic.step, Traffic.acceptedCall?, hfind]
    · exact .of_same rfl rfl rfl
    · -- the payload belongs to the profile, whatever has happened since the attempt began
      exact .finish t.state (h.payload a (List.mem_of_find?_eq_some hfind))
  | apply p => exact .apply t.state p
  | clear => exact .clear t.state
  | rejectApply on => exact .of_same rfl rfl rfl
  | rejectClear on => exact .of_same rfl rfl rfl

/-- An attempt is underway with the payload that was compiled when it began. -/
lemma payload_happen (h : Truthful t) (x : Happening) :
    ∀ a ∈ (t.happen x).underway, a.pending.payload = a.pending.profile.compile := by
  cases x with
  | begin p => exact List.forall_mem_append.2 ⟨h.payload, List.forall_mem_singleton.2 rfl⟩
  | finish n =>
    rw [Traffic.happen, Happening.move, Traffic.step]
    split
    · exact h.payload
    · exact fun a ha => h.payload a (List.mem_filter.1 ha).1
  | apply p => exact h.payload
  | clear => exact h.payload
  | rejectApply on => exact h.payload
  | rejectClear on => exact h.payload

lemma happen (h : Truthful t) (x : Happening) : Truthful (t.happen x) := by
  have hshows := h.shows_happen x
  refine ⟨h.payload_happen x, ?_, ?_⟩
  · rw [hshows.shown, hshows.calls, h.shown, List.map_append]
  · rw [hshows.badge, hshows.calls, lastBadge_append_toList, h.badge]

lemma happenAll (h : Truthful t) (xs : List Happening) :
    Truthful (t.happenAll xs) ∧
      (t.happenAll xs).state.world.calls = t.state.world.calls ++ t.acceptedCalls xs := by
  induction xs generalizing t with
  | nil => exact ⟨h, (List.append_nil _).symm⟩
  | cons x xs ih =>
    obtain ⟨htruthful, hcalls⟩ := ih (h.happen x)
    refine ⟨htruthful, ?_⟩
    calc (t.happenAll (x :: xs)).state.world.calls
        = (t.happen x).state.world.calls ++ (t.happen x).acceptedCalls xs := hcalls
      _ = t.state.world.calls ++ t.acceptedCalls (x :: xs) := by
        rw [(h.shows_happen x).calls, Traffic.acceptedCalls, List.append_assoc]

end Truthful

/-- However attempts overlap at a host that records, after every run the recorded calls are those
that were answered with success, one for each answer and in their order; the badges shown are those
of the recorded calls; and the badge is that of the last call, and blank if there is none. -/
theorem badges_follow_calls (xs : List Happening) (rejectApply rejectClear : Bool) :
    let first : Traffic Recording := { state := .fresh { rejectApply, rejectClear } }
    let s := (first.happenAll xs).state
    s.world.calls = first.acceptedCalls xs ∧ s.shown = s.world.calls.map HostCall.badge ∧
      s.session.badge = lastBadge s.world.calls := by
  intro first s
  obtain ⟨htruthful, hcalls⟩ := (Truthful.start rejectApply rejectClear).happenAll xs
  exact ⟨hcalls, htruthful.shown, htruthful.badge⟩

/-- The second of two attempts is accepted first, and then the first one is refused. -/
example :
    let p : Profile := .ofDraft "1" ((Draft.new "P" .http "10.0.0.1" 8080).withPolicy .whitelist [])
    let q : Profile := .ofDraft "2" (Draft.new "Q" .http "10.0.0.2" 8081)
    let first : Traffic Recording := { state := .fresh {} }
    (first.happenAll [.begin p, .begin q, .finish 1, .rejectApply true, .finish 0]).state.shown =
      [.active .blacklist] := by
  decide

end ProxyProfiles

import ProxyProfiles.Proofs.Task
/-!
# Submissions and their answers

Two things are submitted to a host: a profile to be put in force, and the wish to go back to
direct connections. If the host accepts, the session becomes that of the submission and its badge
is shown (`State.granted`); if the host refuses, session and badges stay what they were
(`State.denied`). These are the only two ways in which applying and clearing end, and
`apply_of_ok`, `apply_of_error`, `clear_of_ok` and `clear_of_error` say so.
-/

namespace ProxyProfiles

open Switch

variable {ω : Type}

/-- What is submitted to a host. -/
inductive Submission where
  /-- A profile to be put in force. -/
  | apply (p : Profile)
  /-- The wish to go back to direct connections. -/
  | clear
deriving DecidableEq, Repr

namespace Submission

/-- The call that a host receives. -/
def call : Submission → HostCall
  | apply p => .apply p.compile
  | clear => .clear

/-- The credentials with which a proxy is answered once the host has accepted. -/
def credentials : Submission → Option Credentials
  | apply p => p.credentials
  | clear => none

/-- The badge once the host has accepted. -/
def badge : Submission → Badge
  | apply p => .active p.policyMode
  | clear => .inactive

/-- The session once the host has accepted. -/
def session (a : Submission) : Session := ⟨a.credentials, a.badge⟩

/-- What is reported of an acceptance. -/
def acceptance : Submission → Record
  | apply p => .info (appliedText p)
  | clear => .info "Proxy cleared, direct connection"

/-- What is reported of a refusal. -/
def refusal (e : Error) : Submission → Record
  | apply p => .warn ("Proxy set error for " ++ p.name ++ ": " ++ e.message)
  | clear => .warn ("Proxy clear error: " ++ e.message)

@[simp] lemma session_credentials (a : Submission) : a.session.credentials = a.credentials := rfl

@[simp] lemma session_badge (a : Submission) : a.session.badge = a.badge := rfl

end Submission

namespace Switch

namespace State

/-- The state after the host has accepted a submission. -/
def granted (s : State ω) (a : Submission) (o : Outcome ω Unit) : State ω where
  world := o.world
  session := a.session
  shown := s.shown ++ [a.badge]
  log := s.log ++ o.log ++ [a.acceptance, .info ("Badge: " ++ a.badge.description)]

/-- The state after the host has refused a submission. -/
def denied (s : State ω) (a : Submission) (o : Outcome ω Unit) (e : Error) : State ω where
  world := o.world
  session := s.session
  shown := s.shown
  log := s.log ++ o.log ++ [a.refusal e]

end State

variable {host : Host ω} {p : Profile} {s : State ω} {e : Error}

lemma apply_of_ok (h : (host.apply p.compile s.world).result = .ok ()) :
    apply host p s = (.ok p.compile, s.granted (.apply p) (host.apply p.compile s.world)) := by
  simp [apply, start, finish, Task.bind_apply, Task.map_apply, h, State.granted,
    Submission.session, Submission.credentials, Submission.badge, Submission.acceptance]

/-- The credentials that were replaced before the host was asked are put back. -/
lemma apply_of_error (h : (host.apply p.compile s.world).result = .error e) :
    apply host p s = (.error e, s.denied (.apply p) (host.apply p.compile s.world) e) := by
  simp [apply, start, finish, Task.bind_apply, Task.map_apply, h, State.denied,
    Submission.refusal]

lemma clear_of_ok (h : (host.clear s.world).result = .ok ()) :
    clear host s = (.ok (), s.granted .clear (host.clear s.world)) := by
  simp [clear, Task.bind_apply, h, State.granted,
    Submission.session, Submission.credentials, Submission.badge, Submission.acceptance]

lemma clear_of_error (h : (host.clear s.world).result = .error e) :
    clear host s = (.error e, s.denied .clear (host.clear s.world) e) := by
  simp [clear, Task.bind_apply, h, State.denied, Submission.refusal]

/-- Only the host changes the world when a profile is applied. -/
lemma apply_world (host : Host ω) (p : Profile) (s : State ω) :
    (apply host p s).2.world = (host.apply p.compile s.world).world := by
  rcases h : (host.apply p.compile s.world).result with e | ⟨⟩
  · rw [apply_of_error h]
    rfl
  · rw [apply_of_ok h]
    rfl

lemma clear_world (host : Host ω) (s : State ω) :
    (clear host s).2.world = (host.clear s.world).world := by
  rcases h : (host.clear s.world).result with e | ⟨⟩
  · rw [clear_of_error h]
    rfl
  · rw [clear_of_ok h]
    rfl

end Switch

end ProxyProfiles

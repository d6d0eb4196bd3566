import ProxyProfiles.Proofs.Agreement
import ProxyProfiles.Proofs.Translation
/-!
# Credentials stay in the session

Credentials are stored with a profile, and are put into the session when the profile is applied.
Nothing else depends on them: what a registry in memory does with them it does without them.

To leave credentials out is therefore a translation of such a registry to itself
(`Registry.Translation.bare`), whichever of its two hosts it has, since neither looks at the roster.
Two runs that differ at most in the credentials of what is stored and of the drafts then differ at
most in credentials after every turn (`credentials_confined`).
-/

namespace ProxyProfiles

open Switch

/-! ## Leaving credentials out -/

/-- A profile without its credentials. -/
def Profile.bare (p : Profile) : Profile :=
  { p with username := none, password := none }

/-- A draft without its credentials. -/
def Draft.bare (d : Draft) : Draft :=
  { d with username := none, password := none }

/-- A turn without the credentials in its draft. The host answers as before. -/
def Turn.bare (t : Turn) : Turn :=
  { t with operation := t.operation.map Draft.bare }

/-- A world in which no credentials are stored. The files, the calls of the host, the active id and
all else that is stored stay. -/
def World.bare (w : World) : World :=
  { w with roster := w.roster.map Profile.bare }

/-- A state without credentials, stored or in the session. The badge, the badges shown and the
reports stay. -/
def Switch.State.bare (s : State World) : State World :=
  { s with world := s.world.bare, session := { s.session with credentials := none } }

/-- Whether a draft names a user or not, the profile that it gives is the same but for its
credentials. -/
lemma Profile.bare_revised (p : Profile) (id : String) (d : Draft) :
    (p.revised id d).bare = p.bare.revised id d.bare := by
  -- without a user in the draft the stored credentials are taken over, and nothing else is
  rw [revised]
  split <;> rfl

/-! ## Hosts -/

/-- A host that does the same whether credentials are stored or not. -/
structure Host.Blind (host : Host World) : Prop where
  apply : ∀ x w, host.apply x w.bare = (host.apply x w).mapWorld World.bare
  clear : ∀ w, host.clear w.bare = (host.clear w).mapWorld World.bare

/-- A host that works on another part of the world than the roster does not see what is stored. -/
lemma Host.within_blind {σ : Type} (host : Host σ) {get : World → σ} {put : σ → World → World}
    (hget : ∀ w, get w.bare = get w) (hput : ∀ x w, put x w.bare = (put x w).bare) :
    (host.within get put).Blind where
  apply x w := by simp only [within, Outcome.within, Outcome.mapWorld, hget, hput]
  clear w := by simp only [within, Outcome.within, Outcome.mapWorld, hget, hput]

lemma World.recordingHost_blind : World.recordingHost.Blind :=
  Host.recording.within_blind (fun _ => rfl) fun _ _ => rfl

lemma World.publishingHost_blind (directory : String) : (World.publishingHost directory).Blind :=
  (Host.publishing directory).within_blind (fun _ => rfl) fun _ _ => rfl

/-! ## Registries -/

/-- The registry with its roster in memory and the given host. -/
def Registry.withHost (host : Host World) : Registry World :=
  ⟨World.memoryStore, host⟩

/-- To leave credentials out is a translation of a registry in memory to itself. -/
def Registry.Translation.bare {host : Host World} (h : host.Blind) :
    Translation (withHost host) (withHost host) where
  world := World.bare
  credentials _ := none
  profile := Profile.bare
  draft := Draft.bare
  credentials_none := rfl
  credentials_eq _ := rfl
  profile_eq _ := ⟨none, none, rfl⟩
  draft_eq _ := ⟨none, none, rfl⟩
  ofDraft_eq _ _ := rfl
  revised_eq := Profile.bare_revised
  load_eq _ := rfl
  saveProfiles_eq _ _ := rfl
  saveActive_eq _ _ := rfl
  apply_eq := h.apply
  clear_eq := h.clear

/-! ## Runs -/

/-- What there is after a turn: its result and the state. -/
structure Moment where
  /-- The result. -/
  result : Except Error Answer
  /-- The state. -/
  state : State World

/-- What there is after a turn, without credentials in returned profiles, in what is stored and in
the session. -/
def Moment.bare (m : Moment) : Moment where
  result := m.result.map (Answer.map Profile.bare)
  state := m.state.bare

namespace Registry

/-- What there is after a turn. -/
def moment (r : Registry World) (t : Turn) (s : State World) : Moment where
  result := (t.operation.perform r (s.answering t.refused)).1
  state := (t.operation.perform r (s.answering t.refused)).2

/-- What there is after each of several turns. -/
def moments (r : Registry World) : List Turn → State World → List Moment
  | [], _ => []
  | t :: ts, s => r.moment t s :: r.moments ts (r.moment t s).state

variable {host : Host World}

/-- To leave credentials out of what there is after a turn is to leave them out before it. -/
lemma moment_bare (h : host.Blind) (t : Turn) (s : State World) :
    ((withHost host).moment t s).bare = (withHost host).moment t.bare s.bare := by
  have hperform := (Translation.bare h).perform t.operation (s.answering t.refused)
  exact congrArg (fun o => (⟨o.1, o.2⟩ : Moment)) hperform

lemma moments_bare (h : host.Blind) (ts : List Turn) (s : State World) :
    ((withHost host).moments ts s).map Moment.bare =
      (withHost host).moments (ts.map Turn.bare) s.bare := by
  induction ts generalizing s with
  | nil => rfl
  | cons t ts ih =>
    rw [moments, List.map_cons, List.map_cons, moments, ih, ← moment_bare h]
    rfl

/-- Nothing but the session and the stored credentials tells two runs apart that differ in
credentials only. Let a registry in memory have the host that records or one that publishes in a
directory, and let it take two lists of turns from two states, the drafts and states being the same
but for credentials. Then, after every turn, the results are the same but for credentials in
returned profiles, errors included; and so are the states, with all reports, calls of the host,
published files, badges shown, the active id and what else is stored. -/
theorem credentials_confined
    (hhost : host = World.recordingHost ∨ ∃ directory, host = World.publishingHost directory)
    {ts ts' : List Turn} {s s' : State World} (hts : ts.map Turn.bare = ts'.map Turn.bare)
    (hs : s.bare = s'.bare) :
    ((withHost host).moments ts s).map Moment.bare =
      ((withHost host).moments ts' s').map Moment.bare := by
  have hblind : host.Blind := by
    rcases hhost with rfl | ⟨directory, rfl⟩
    · exact World.recordingHost_blind
    · exact World.publishingHost_blind directory
  rw [moments_bare hblind, moments_bare hblind, hts, hs]

/-- An active profile is put in force and then changed, once with users and once without: only the
sessions tell the two runs apart. -/
theorem credentials_confined_sample :
    let r := withHost (World.publishingHost "out")
    let d := Draft.new "Home" .http "proxy.home" 8080
    let d₀ := Draft.new "Office" .socks5 "proxy.office" 1080
    let ts := [⟨.restore, false⟩, ⟨.update "1" (d.withCredentials "bob" "pw"), false⟩]
    let ts' := [⟨.restore, false⟩, ⟨.update "1" d, false⟩]
    let s : State World :=
      .fresh { roster := ⟨[.ofDraft "1" (d₀.withCredentials "alice" "secret")], some "1"⟩ }
    let s' : State World := .fresh { roster := ⟨[.ofDraft "1" d₀], some "1"⟩ }
    (r.moments ts s).map (·.state.session.credentials) =
      [some ⟨"alice", "secret"⟩, some ⟨"bob", "pw"⟩] ∧
    (r.moments ts' s').map (·.state.session.credentials) = [none, none] ∧
    (r.moments ts s).map Moment.bare = (r.moments ts' s').map Moment.bare := by
  intro r d d₀ ts ts' s s'
  exact ⟨by decide +kernel, by decide +kernel, credentials_confined (.inr ⟨"out", rfl⟩) rfl rfl⟩

end Registry

end ProxyProfiles

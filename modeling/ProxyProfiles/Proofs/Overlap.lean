import ProxyProfiles.Proofs.Submission
import Mathlib.Data.List.Induction
/-!
# Profiles on their way at the same time

A profile that is applied puts its credentials into the session before the host is asked, and
keeps what it found there until the host has answered. Other profiles may be begun in the meantime,
and the host may answer in any order, so that an attempt may have found the credentials of another
one that is still without an answer.

This module lets attempts overlap in every way (`Traffic.run`) and says whose credentials the
session holds once no attempt is underway (`credentials_at_rest`). They can be those of a refused
attempt in one case only, which is that a later attempt began before the refusal and was refused
after it. In this case they may indeed come back (`refused_credentials_come_back`).

Every attempt underway remembers credentials, so the invariant (`Traced`) is about these as much as
about those in the session: whatever was found is settled, or can be traced to an earlier attempt.
-/

namespace ProxyProfiles

open Switch
open scoped List

variable {ω : Type}

/-! ## Attempts -/

/-- What may happen to a switch and around it. -/
inductive Move (ω : Type) where
  /-- An attempt to apply a profile begins. -/
  | begin (p : Profile)
  /-- The attempt of a number goes on to its end, if it is underway. -/
  | finish (n : Nat)
  /-- A profile is applied in one go. -/
  | apply (p : Profile)
  /-- Direct connections are asked for. -/
  | clear
  /-- The world changes. -/
  | meanwhile (w : ω)

/-- What has become of the attempts. They have numbers, in the order in which they begin. -/
inductive Event where
  /-- An attempt to apply a profile has begun. -/
  | begun (n : Nat) (p : Profile)
  /-- The host has accepted the profile of an attempt. -/
  | accepted (n : Nat)
  /-- The host has refused the profile of an attempt. -/
  | refused (n : Nat)
deriving DecidableEq, Repr

/-- The event in which an attempt ends. -/
def Event.ofAnswer {α : Type} (n : Nat) : Except Error α → Event
  | .ok _ => accepted n
  | .error _ => refused n

/-- An attempt to which the host has not answered. -/
structure Attempt where
  /-- Its number. -/
  number : Nat
  /-- The profile on its way, with what it found in the session. -/
  pending : Pending
deriving DecidableEq, Repr

/-- The credentials that an attempt puts into the session. -/
def Attempt.credentials (a : Attempt) : Option Credentials :=
  a.pending.profile.credentials

/-- The event in which an attempt has begun. -/
def Attempt.event (a : Attempt) : Event :=
  .begun a.number a.pending.profile

/-- A switch with attempts underway. -/
structure Traffic (ω : Type) where
  /-- The state of the switch. -/
  state : State ω
  /-- How many attempts have begun. -/
  begun : Nat := 0
  /-- The attempts without an answer. -/
  underway : List Attempt := []
  /-- What has become of the attempts, oldest first. -/
  events : List Event := []

namespace Traffic

/-- One move. -/
def step (host : Host ω) (t : Traffic ω) : Move ω → Traffic ω
  | .begin p =>
    match start p t.state with
    | (.ok q, s) =>
      { state := s
        begun := t.begun + 1
        underway := t.underway ++ [⟨t.begun, q⟩]
        events := t.events ++ [.begun t.begun p] }
    | (.error _, s) => { t with state := s }
  | .finish n =>
    match t.underway.find? (·.number == n) with
    | none => t
    | some a =>
      let o := finish host a.pending t.state
      { t with
        state := o.2
        underway := t.underway.filter (·.number != n)
        events := t.events ++ [.ofAnswer n o.1] }
  | .apply p =>
    let o := apply host p t.state
    { t with
      state := o.2
      begun := t.begun + 1
      events := t.events ++ [.begun t.begun p, .ofAnswer t.begun o.1] }
  | .clear => { t with state := (clear host t.state).2 }
  | .meanwhile w => { t with state := { t.state with world := w } }

/-- Moves one after another. -/
def run (host : Host ω) (ms : List (Move ω)) (t : Traffic ω) : Traffic ω :=
  ms.foldl (step host) t

/-- The credentials in the session. -/
def credentials (t : Traffic ω) : Option Credentials :=
  t.state.session.credentials

lemma run_append_singleton (host : Host ω) (ms : List (Move ω)) (m : Move ω) (t : Traffic ω) :
    run host (ms ++ [m]) t = (run host ms t).step host m := by
  simp [run]

end Traffic

/-! ## What happens to the credentials -/

section Credentials

variable (host : Host ω) (s : State ω)

/-- If the host accepts, the session keeps its credentials. If it refuses, the session gets those
that the attempt found. -/
lemma finish_cases (q : Pending) :
    (finish host q s).1 = .ok q.payload ∧
      (finish host q s).2.session.credentials = s.session.credentials ∨
    ∃ e, (finish host q s).1 = .error e ∧
      (finish host q s).2.session.credentials = q.previous := by
  rcases h : (host.apply q.payload s.world).result with e | ⟨⟩ <;>
    simp [finish, Task.bind_apply, Task.map_apply, h]

lemma apply_cases (p : Profile) :
    (apply host p s).1 = .ok p.compile ∧
      (apply host p s).2.session.credentials = p.credentials ∨
    ∃ e, (apply host p s).1 = .error e ∧
      (apply host p s).2.session.credentials = s.session.credentials := by
  rcases h : (host.apply p.compile s.world).result with e | ⟨⟩
  · rw [apply_of_error h]
    exact .inr ⟨e, rfl, rfl⟩
  · rw [apply_of_ok h]
    exact .inl ⟨rfl, rfl⟩

lemma clear_credentials :
    (clear host s).2.session.credentials = none ∨
      (clear host s).2.session.credentials = s.session.credentials := by
  rcases h : (host.clear s.world).result with e | ⟨⟩
  · rw [clear_of_error h]
    exact .inr rfl
  · rw [clear_of_ok h]
    exact .inl rfl

end Credentials

/-! ## Where credentials come from -/

/-- The host has accepted a profile with these credentials. -/
def Accepted (es : List Event) (c : Option Credentials) : Prop :=
  ∃ n p, .begun n p ∈ es ∧ .accepted n ∈ es ∧ c = p.credentials

/-- The host has refused a profile with these credentials, but while it was underway another
attempt had begun, and this was refused after it. -/
def Revived (es : List Event) (c : Option Credentials) : Prop :=
  ∃ n m p q, n < m ∧ [.begun n p, .begun m q, .refused n, .refused m] <+ es ∧ c = p.credentials

/-- Credentials that the session may hold when no attempt is underway: none, those it held at
first, accepted ones, and refused ones in the one case in which they come back. -/
def Settled (c₀ : Option Credentials) (es : List Event) (c : Option Credentials) : Prop :=
  c = none ∨ c = c₀ ∨ Accepted es c ∨ Revived es c

section Settled

variable {c₀ c : Option Credentials} {es es' : List Event} {n m : Nat} {p q : Profile}

lemma Settled.mono (h : Settled c₀ es c) (hes : es <+ es') : Settled c₀ es' c := by
  rcases h with hnone | hfirst | ⟨n, p, hn, hn', hc⟩ | ⟨n, m, p, q, hnm, hsub, hc⟩
  · exact .inl hnone
  · exact .inr (.inl hfirst)
  · exact .inr (.inr (.inl ⟨n, p, hes.mem hn, hes.mem hn', hc⟩))
  · exact .inr (.inr (.inr ⟨n, m, p, q, hnm, hsub.trans hes, hc⟩))

lemma Settled.append (h : Settled c₀ es c) (new : List Event) : Settled c₀ (es ++ new) c :=
  h.mono (List.sublist_append_left es new)

lemma settled_of_accepted (h : .begun n p ∈ es) (h' : .accepted n ∈ es) :
    Settled c₀ es p.credentials :=
  .inr (.inr (.inl ⟨n, p, h, h', rfl⟩))

lemma settled_of_refused (hnm : n < m) (h : [.begun n p, .begun m q, .refused n] <+ es) :
    Settled c₀ (es ++ [.refused m]) p.credentials :=
  .inr (.inr (.inr ⟨n, m, p, q, hnm, h.append (List.Sublist.refl [_]), rfl⟩))

end Settled

/-! ## The invariant -/

namespace Traffic

/-- What an attempt found in the session is settled, or it belongs to an earlier attempt, and that
one is still underway or was refused after this one had begun. -/
def Explained (c₀ : Option Credentials) (t : Traffic ω) (b : Attempt) : Prop :=
  Settled c₀ t.events b.pending.previous ∨
  (∃ a ∈ t.underway, a.number < b.number ∧ [a.event, b.event] <+ t.events ∧
    b.pending.previous = a.credentials) ∨
  ∃ n p, n < b.number ∧ [.begun n p, b.event, .refused n] <+ t.events ∧
    b.pending.previous = p.credentials

lemma Explained.mono {c₀ : Option Credentials} {t t' : Traffic ω} {b : Attempt}
    (h : Explained c₀ t b) (hevents : t.events <+ t'.events)
    (hunderway : ∀ a ∈ t.underway, a ∈ t'.underway) : Explained c₀ t' b := by
  rcases h with hsettled | ⟨a, ha, hlt, hbegun, hc⟩ | ⟨n, p, hlt, hbegun, hc⟩
  · exact .inl (hsettled.mono hevents)
  · exact .inr (.inl ⟨a, hunderway a ha, hlt, hbegun.trans hevents, hc⟩)
  · exact .inr (.inr ⟨n, p, hlt, hbegun.trans hevents, hc⟩)

/-- All credentials in sight, those in the session and those that attempts have found there, can be
traced back. -/
structure Traced (c₀ : Option Credentials) (t : Traffic ω) : Prop where
  /-- Numbers are given in order. -/
  number_lt : ∀ a ∈ t.underway, a.number < t.begun
  /-- No number is given twice. -/
  number_inj : ∀ a ∈ t.underway, ∀ b ∈ t.underway, a.number = b.number → a = b
  /-- What is underway has begun. -/
  event_mem : ∀ a ∈ t.underway, a.event ∈ t.events
  /-- The session holds settled credentials, or those of an attempt underway. -/
  session : Settled c₀ t.events t.credentials ∨ ∃ a ∈ t.underway, t.credentials = a.credentials
  /-- What an attempt underway has found can be explained. -/
  explained : ∀ b ∈ t.underway, Explained c₀ t b

namespace Traced

variable {c₀ : Option Credentials} {t : Traffic ω} {s : State ω} {a : Attempt} {p : Profile}

lemma idle (s : State ω) : Traced s.session.credentials { state := s } where
  number_lt := by simp
  number_inj := by simp
  event_mem := by simp
  session := .inl (.inr (.inl rfl))
  explained := by simp

/-- The attempts underway stay underway, while others may begin and end. -/
lemma extend (h : Traced c₀ t) {k : Nat} (hk : t.begun ≤ k) (new : List Event)
    (hs : Settled c₀ (t.events ++ new) s.session.credentials ∨
      s.session.credentials = t.credentials) :
    Traced c₀ { t with state := s, begun := k, events := t.events ++ new } where
  number_lt a ha := Nat.lt_of_lt_of_le (h.number_lt a ha) hk
  number_inj := h.number_inj
  event_mem a ha := List.mem_append_left _ (h.event_mem a ha)
  session := by
    rcases hs with hsettled | hsame
    · exact .inl hsettled
    · rcases h.session with hsettled | ⟨a, ha, hc⟩
      · rw [← hsame] at hsettled
        exact .inl (hsettled.append new)
      · exact .inr ⟨a, ha, hsame.trans hc⟩
  explained b hb := (h.explained b hb).mono (List.sublist_append_left t.events new) fun _ => id

/-- The session is the only thing that changes, and it keeps its credentials or loses them. -/
lemma with_state (h : Traced c₀ t)
    (hs : s.session.credentials = none ∨ s.session.credentials = t.credentials) :
    Traced c₀ { t with state := s } := by
  have hsame := h.extend (s := s) (Nat.le_refl _) [] (hs.imp_left .inl)
  simpa using hsame

/-- An attempt begins. It finds what the session holds, which is settled or belongs to an attempt
underway. -/
lemma begin {b : Attempt} (h : Traced c₀ t) (hnumber : b.number = t.begun)
    (hprevious : b.pending.previous = t.credentials)
    (hs : s.session.credentials = b.credentials) :
    Traced c₀ {
      state := s
      begun := t.begun + 1
      underway := t.underway ++ [b]
      events := t.events ++ [b.event] } := by
  have hmem {a : Attempt} (ha : a ∈ t.underway ++ [b]) : a ∈ t.underway ∨ a = b := by
    simpa using ha
  have hlt {a : Attempt} (ha : a ∈ t.underway) : a.number < b.number := by
    rw [hnumber]
    exact h.number_lt a ha
  constructor
  case number_lt =>
    intro a ha
    rcases hmem ha with hold | rfl
    · exact Nat.lt_succ_of_lt (h.number_lt a hold)
    · exact Nat.lt_succ_of_le (Nat.le_of_eq hnumber)
  case number_inj =>
    intro a ha a' ha' hsame
    rcases hmem ha with hold | rfl <;> rcases hmem ha' with hold' | rfl
    · exact h.number_inj a hold a' hold' hsame
    · exact absurd hsame (Nat.ne_of_lt (hlt hold))
    · exact absurd hsame.symm (Nat.ne_of_lt (hlt hold'))
    · rfl
  case event_mem =>
    intro a ha
    rcases hmem ha with hold | rfl
    · exact List.mem_append_left _ (h.event_mem a hold)
    · exact List.mem_append_right _ (List.mem_singleton.2 rfl)
  case session => exact .inr ⟨b, by simp, hs⟩
  case explained =>
    intro a ha
    rcases hmem ha with hold | rfl
    · exact (h.explained a hold).mono (List.sublist_append_left t.events [b.event])
        fun _ => List.mem_append_left [b]
    · rw [Explained, hprevious]
      rcases h.session with hsettled | ⟨x, hx, hc⟩
      · exact .inl (hsettled.append _)
      · refine .inr (.inl ⟨x, List.mem_append_left _ hx, hlt hx, ?_, hc⟩)
        exact (List.singleton_sublist.2 (h.event_mem x hx)).append (List.Sublist.refl [a.event])

/-- An attempt underway ends. What it put into the session is settled then, or it may come back from
a later attempt that found it; what the session gets is settled, or belongs to another attempt
underway. -/
lemma leave {a : Attempt} {e : Event} (h : Traced c₀ t) (ha : a ∈ t.underway)
    (hs : Settled c₀ (t.events ++ [e]) s.session.credentials ∨
      ∃ b ∈ t.underway, b.number ≠ a.number ∧ s.session.credentials = b.credentials)
    (he : e = .refused a.number ∨ Settled c₀ (t.events ++ [e]) a.credentials) :
    Traced c₀ { t with
      state := s
      underway := t.underway.filter (·.number != a.number)
      events := t.events ++ [e] } := by
  have hsub := List.sublist_append_left t.events [e]
  have hmem {b : Attempt} :
      b ∈ t.underway.filter (·.number != a.number) ↔ b ∈ t.underway ∧ b.number ≠ a.number := by
    simp
  constructor
  case number_lt => exact fun b hb => h.number_lt b (hmem.1 hb).1
  case number_inj => exact fun b hb b' hb' => h.number_inj b (hmem.1 hb).1 b' (hmem.1 hb').1
  case event_mem => exact fun b hb => List.mem_append_left _ (h.event_mem b (hmem.1 hb).1)
  case session => exact hs.imp_right fun ⟨b, hb, hne, hc⟩ => ⟨b, hmem.2 ⟨hb, hne⟩, hc⟩
  case explained =>
    intro b hb
    rcases h.explained b (hmem.1 hb).1 with
      hsettled | ⟨x, hx, hlt, hbegun, hc⟩ | ⟨n, p, hlt, hbegun, hc⟩
    · exact .inl (hsettled.append _)
    · by_cases hxa : x.number = a.number
      · -- what was found belongs to the very attempt that ends
        obtain rfl := h.number_inj x hx a ha hxa
        rcases he with rfl | hsettled
        · exact .inr (.inr ⟨x.number, x.pending.profile, hlt,
            hbegun.append (List.Sublist.refl [_]), hc⟩)
        · exact .inl (hc ▸ hsettled)
      · exact .inr (.inl ⟨x, hmem.2 ⟨hx, hxa⟩, hlt, hbegun.trans hsub, hc⟩)
    · exact .inr (.inr ⟨n, p, hlt, hbegun.trans hsub, hc⟩)

/-- The host accepts an attempt underway. -/
lemma accept {a : Attempt} (h : Traced c₀ t) (ha : a ∈ t.underway)
    (hs : s.session.credentials = t.credentials) :
    Traced c₀ { t with
      state := s
      underway := t.underway.filter (·.number != a.number)
      events := t.events ++ [.accepted a.number] } := by
  have hsettled : Settled c₀ (t.events ++ [.accepted a.number]) a.credentials :=
    settled_of_accepted (List.mem_append_left _ (h.event_mem a ha)) (by simp)
  refine h.leave ha ?_ (.inr hsettled)
  rw [hs]
  rcases h.session with hsettled' | ⟨b, hb, hc⟩
  · exact .inl (hsettled'.append _)
  · -- the session holds what an attempt underway has put there, maybe this one
    by_cases hba : b.number = a.number
    · obtain rfl := h.number_inj b hb a ha hba
      exact .inl (hc ▸ hsettled)
    · exact .inr ⟨b, hb, hba, hc⟩

/-- The host refuses an attempt underway, and the session gets what that attempt found. -/
lemma refuse {a : Attempt} (h : Traced c₀ t) (ha : a ∈ t.underway)
    (hs : s.session.credentials = a.pending.previous) :
    Traced c₀ { t with
      state := s
      underway := t.underway.filter (·.number != a.number)
      events := t.events ++ [.refused a.number] } := by
  refine h.leave ha ?_ (.inl rfl)
  rw [hs]
  rcases h.explained a ha with hsettled | ⟨b, hb, hlt, -, hc⟩ | ⟨n, p, hlt, hbegun, hc⟩
  · exact .inl (hsettled.append _)
  · exact .inr ⟨b, hb, Nat.ne_of_lt hlt, hc⟩
  · rw [hc]
    exact .inl (settled_of_refused hlt hbegun)

/-- Every move keeps all credentials traced. -/
lemma step (h : Traced c₀ t) (host : Host ω) (m : Move ω) : Traced c₀ (t.step host m) := by
  cases m with
  | begin p => exact h.begin (b := ⟨t.begun, ⟨p, p.compile, t.credentials⟩⟩) rfl rfl rfl
  | finish n =>
    rw [Traffic.step]
    split
    · exact h
    · next a hfind =>
      have ha := List.mem_of_find?_eq_some hfind
      obtain rfl : a.number = n := by simpa using List.find?_some hfind
      rcases finish_cases host t.state a.pending with ⟨hanswer, hs⟩ | ⟨e, hanswer, hs⟩ <;>
        simp only [hanswer, Event.ofAnswer]
      · exact h.accept ha hs
      · exact h.refuse ha hs
  | apply p =>
    rw [Traffic.step]
    refine h.extend (Nat.le_succ _) _ ?_
    rcases apply_cases host t.state p with ⟨hanswer, hs⟩ | ⟨e, hanswer, hs⟩
    · rw [hs, hanswer]
      exact .inl (settled_of_accepted (n := t.begun) (by simp) (by simp [Event.ofAnswer]))
    · exact .inr hs
  | clear => exact h.with_state (clear_credentials host t.state)
  | meanwhile w => exact h.with_state (.inr rfl)

/-- Every run keeps all credentials traced. -/
lemma run (h : Traced c₀ t) (host : Host ω) (ms : List (Move ω)) : Traced c₀ (t.run host ms) := by
  induction ms using List.reverseRecOn with
  | nil => exact h
  | append_singleton ms m ih =>
    rw [run_append_singleton]
    exact ih.step host m

end Traced

/-- However attempts overlap, once none is underway the session holds no credentials, or those it
held at first, or those of an accepted profile, or those of a refused attempt in the one case that a
later attempt had begun before the refusal and was refused after it. -/
theorem credentials_at_rest (host : Host ω) (ms : List (Move ω)) (s : State ω)
    (h : (run host ms { state := s }).underway = []) :
    Settled s.session.credentials (run host ms { state := s }).events
      (run host ms { state := s }).credentials := by
  rcases ((Traced.idle s).run host ms).session with hsettled | ⟨a, ha, -⟩
  · exact hsettled
  · rw [h] at ha
    exact absurd ha (List.not_mem_nil)

/-- A profile with a user. -/
def userSample (username : String) : Profile :=
  .ofDraft "1" ((Draft.new "P" .http "10.0.0.1" 8080).withCredentials username "pw")

/-- Two attempts overlap, the first is accepted and then the second is refused: the session holds
the credentials of the first. -/
theorem credentials_at_rest_sample :
    let t := run .recording [.begin (userSample "alice"), .begin (userSample "bob"), .finish 0,
      .meanwhile { rejectApply := true }, .finish 1] { state := { world := {} } }
    t.underway = [] ∧ t.credentials = (userSample "alice").credentials ∧
      Settled none t.events t.credentials := by
  intro t
  have hrest : t.underway = [] := by decide
  exact ⟨hrest, by decide, credentials_at_rest .recording _ _ hrest⟩

/-- Two attempts overlap, and both are refused in the order in which they began: the credentials of
the first come back, although nothing was ever accepted. -/
theorem refused_credentials_come_back :
    let s : State Recording := { world := { rejectApply := true } }
    let t := run .recording [.begin (userSample "alice"), .begin (userSample "bob"), .finish 0,
      .finish 1] { state := s }
    t.underway = [] ∧ t.credentials = some ⟨"alice", "pw"⟩ ∧
      ¬ (t.credentials = none ∨ t.credentials = s.session.credentials ∨
        Accepted t.events t.credentials) := by
  intro s t
  have hcredentials : t.credentials = some ⟨"alice", "pw"⟩ := by decide
  have hevents : t.events = [.begun 0 (userSample "alice"), .begun 1 (userSample "bob"),
    .refused 0, .refused 1] := by decide
  refine ⟨by decide, hcredentials, ?_⟩
  rw [hcredentials, hevents]
  rintro (hnone | hfirst | ⟨n, p, -, haccepted, -⟩)
  · simp at hnone
  · exact absurd hfirst (by decide)
  · simp at haccepted

end Traffic

end ProxyProfiles

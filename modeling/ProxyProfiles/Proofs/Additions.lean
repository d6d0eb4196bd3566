import ProxyProfiles.Proofs.ProfileMap
import ProxyProfiles.Proofs.StoreLaws
/-!
# Profiles that are added at the same time

To add a profile the stored profiles are read, an id that none of them has is chosen, and then the
list is saved with the new profile at its end. What others have saved in between is not in that
list.

This module lets additions go on side by side (`Additions.run`): each reads in one step and saves
in a later one, with any steps of others in between and any times for the ids. It says what a
lawful store holds afterwards (`stored_after_additions`). The profiles that were stored before are
still there, and no id was given twice. An addition is lost exactly when another one, which is not
lost itself, overtook it, that is, had read before it saved and saved after it. So nothing is lost
as long as no addition overtakes another one, but it may be in other runs
(`addition_lost_when_overtaken`).

What an addition underway has read is a snapshot of what was stored when it began, and what is
stored is a snapshot of now. The invariant (`Sound`) is about all these snapshots.
-/

namespace ProxyProfiles

open Switch
open scoped List

variable {ω : Type}

/-! ## Additions side by side -/

/-- A step of one of the additions. -/
inductive AddStep where
  /-- An addition begins: it reads what is stored and chooses an id at the given time. -/
  | begin (milliseconds : Nat) (d : Draft)
  /-- The addition that began in the step of a number saves and returns, if it is underway. -/
  | finish (n : Nat)
deriving DecidableEq, Repr

/-- An addition underway. -/
structure Adding where
  /-- The number of the step in which it began. -/
  begun : Nat
  /-- What it will save. -/
  addition : Addition
deriving DecidableEq, Repr

/-- An addition that has returned. -/
structure Added where
  /-- The profile that it returned. -/
  profile : Profile
  /-- The number of the step in which it began. -/
  begun : Nat
  /-- The number of the step in which it saved and returned. -/
  returned : Nat
deriving DecidableEq, Repr

/-- One addition overtakes another if it began before the other one returned, and returned after
it. -/
def Added.Overtakes (y x : Added) : Prop :=
  y.begun < x.returned ∧ x.returned < y.returned

/-- A registry with additions underway. -/
structure Additions (ω : Type) where
  /-- The state of the registry. -/
  state : State ω
  /-- How many steps were done. -/
  steps : Nat := 0
  /-- The additions that have not returned. -/
  underway : List Adding := []
  /-- The additions that have returned a profile, in the order in which they returned. -/
  added : List Added := []
  /-- The errors of the others. -/
  faults : List Error := []

namespace Additions

/-- One step. -/
def step (r : Registry ω) (t : Additions ω) : AddStep → Additions ω
  | .begin milliseconds d =>
    match r.startAdd milliseconds d t.state with
    | (.ok a, s) =>
      { t with state := s, steps := t.steps + 1, underway := t.underway ++ [⟨t.steps, a⟩] }
    | (.error e, s) => { t with state := s, steps := t.steps + 1, faults := t.faults ++ [e] }
  | .finish n =>
    match t.underway.find? (·.begun == n) with
    | none => { t with steps := t.steps + 1 }
    | some a =>
      let underway := t.underway.filter (·.begun != n)
      match r.finishAdd a.addition t.state with
      | (.ok p, s) =>
        { t with
          state := s
          steps := t.steps + 1
          underway
          added := t.added ++ [⟨p, a.begun, t.steps⟩] }
      | (.error e, s) =>
        { t with state := s, steps := t.steps + 1, underway, faults := t.faults ++ [e] }

/-- Steps one after another. -/
def run (r : Registry ω) (xs : List AddStep) (t : Additions ω) : Additions ω :=
  xs.foldl (step r) t

lemma run_append_singleton (r : Registry ω) (xs : List AddStep) (x : AddStep) (t : Additions ω) :
    run r (xs ++ [x]) t = (run r xs t).step r x := by
  simp [run]

/-- Errors are not forgotten. -/
lemma faults_of_step {r : Registry ω} {t : Additions ω} {x : AddStep}
    (h : (t.step r x).faults = []) : t.faults = [] := by
  cases x with
  | begin milliseconds d =>
    rw [step] at h
    split at h
    · exact h
    · simp at h
  | finish n =>
    rw [step] at h
    split at h
    · exact h
    · dsimp only at h
      split at h
      · exact h
      · simp at h

end Additions

/-! ## What the two steps of an addition do -/

namespace Registry

variable {r : Registry ω} {s s' : State ω} {ro : Roster} {a : Addition} {p : Profile}

lemma of_startAdd (hstore : r.store.Lawful) (hload : (r.store.load s.world).result = .ok ro)
    {milliseconds : Nat} {d : Draft} (h : r.startAdd milliseconds d s = (.ok a, s')) :
    a = ⟨.ofDraft (ro.freshId milliseconds) d, ro.profiles⟩ ∧ s'.world = s.world := by
  obtain ⟨⟨⟩, s₁, hcheck, hrest⟩ := Task.bind_eq_ok.1 h
  obtain ⟨-, rfl⟩ := of_check hcheck
  rw [Task.bind_of_ok (load_of_ok hload)] at hrest
  cases hrest
  exact ⟨rfl, hstore.world_load _⟩

lemma of_finishAdd (h : r.finishAdd a s = (.ok p, s')) :
    p = a.profile ∧ (r.store.saveProfiles (a.found ++ [a.profile]) s.world).result = .ok () ∧
      s'.world = (r.store.saveProfiles (a.found ++ [a.profile]) s.world).world := by
  obtain ⟨⟨⟩, s₁, hsave, hrest⟩ := Task.bind_eq_ok.1 h
  rw [outside_apply, Prod.mk.injEq] at hsave
  obtain ⟨hresult, rfl⟩ := hsave
  rw [Task.bind_of_ok (report_apply _ _)] at hrest
  cases hrest
  exact ⟨rfl, hresult, rfl⟩

end Registry

/-! ## Snapshots -/

/-- The profiles stored at a time: those of before, and those that were added and are kept. Of the
additions that had returned by then a kept one is not overtaken by a kept one, and the others are.
-/
structure Snapshot (before : List Profile) (time : Nat) (added kept : List Added) : Prop where
  sublist : kept <+ added
  mem_iff : ∀ x ∈ added, x ∈ kept ↔ x.returned ≤ time ∧ ∀ y ∈ kept, ¬ y.Overtakes x
  fresh : ∀ x ∈ kept, x.profile.id ∉ ids before
  nodup : (ids (kept.map Added.profile)).Nodup

namespace Snapshot

variable {before : List Profile} {time : Nat} {added kept : List Added} {x z : Added}

lemma nil (before : List Profile) : Snapshot before 0 [] [] where
  sublist := .refl _
  mem_iff := by simp
  fresh := by simp
  nodup := List.nodup_nil

/-- Time goes on. -/
lemma wait (h : Snapshot before time added kept) (hadded : ∀ x ∈ added, x.returned < time) :
    Snapshot before (time + 1) added kept where
  sublist := h.sublist
  mem_iff x hx := by
    have hlt := hadded x hx
    rw [h.mem_iff x hx]
    exact and_congr_left fun _ => ⟨fun _ => by omega, fun _ => by omega⟩
  fresh := h.fresh
  nodup := h.nodup

/-- What returns later is not in the snapshot. -/
lemma append (h : Snapshot before time added kept) (hz : time < z.returned) :
    Snapshot before time (added ++ [z]) kept where
  sublist := h.sublist.trans (List.sublist_append_left _ _)
  mem_iff := by
    refine List.forall_mem_append.2 ⟨h.mem_iff, List.forall_mem_singleton.2 ?_⟩
    refine ⟨fun hmem => (h.mem_iff z (h.sublist.mem hmem)).1 hmem, fun hle => ?_⟩
    exact absurd hle.1 (by omega)
  fresh := h.fresh
  nodup := h.nodup

/-- An addition saves the snapshot of its beginning and its own profile: of what has returned since,
nothing is kept. -/
lemma save (h : Snapshot before z.begun added kept) (hz : z.begun < z.returned)
    (hadded : ∀ x ∈ added, x.returned < z.returned)
    (hid : z.profile.id ∉ ids (before ++ kept.map Added.profile)) :
    Snapshot before (z.returned + 1) (added ++ [z]) (kept ++ [z]) := by
  have hkept {y : Added} (hy : y ∈ kept) : y.returned < z.returned := hadded y (h.sublist.mem hy)
  rw [ids, List.map_append, List.mem_append, not_or] at hid
  constructor
  case sublist => exact h.sublist.append (List.Sublist.refl [z])
  case mem_iff =>
    refine List.forall_mem_append.2 ⟨fun x hold => ?_, List.forall_mem_singleton.2 ?_⟩
    · -- it is kept if it was when the addition began, and had returned by then
      have hlt := hadded x hold
      have hne : x ≠ z := by
        rintro rfl
        exact absurd hlt (lt_irrefl _)
      have hovertakes : ¬ z.Overtakes x ↔ x.returned ≤ z.begun := by
        rw [Added.Overtakes]
        omega
      simp only [List.mem_append, List.mem_singleton, hne, or_false, or_imp, forall_and,
        forall_eq, hovertakes, h.mem_iff x hold]
      constructor
      · rintro ⟨hle, hall⟩
        exact ⟨by omega, hall, hle⟩
      · rintro ⟨-, hall, hle⟩
        exact ⟨hle, hall⟩
    · -- it is the last to have returned
      have hlast : ∀ y ∈ kept ++ [z], y.returned ≤ z.returned :=
        List.forall_mem_append.2 ⟨fun y hy => (hkept hy).le, List.forall_mem_singleton.2 le_rfl⟩
      refine ⟨fun _ => ⟨by omega, fun y hy hovertakes => ?_⟩, fun _ => by simp⟩
      exact absurd hovertakes.2 (hlast y hy).not_gt
  case fresh => exact List.forall_mem_append.2 ⟨h.fresh, List.forall_mem_singleton.2 hid.1⟩
  case nodup =>
    rw [List.map_append]
    exact nodup_ids_append_singleton h.nodup hid.2

lemma count_eq_one (h : Snapshot before time added kept) (hx : x ∈ kept) :
    (before ++ kept.map Added.profile).count x.profile = 1 := by
  have hbefore : x.profile ∉ before := fun hmem => h.fresh x hx (List.mem_map_of_mem hmem)
  have hnodup : (kept.map Added.profile).Nodup := h.nodup.of_map
  rw [List.count_append, List.count_eq_zero_of_not_mem hbefore,
    List.count_eq_one_of_mem hnodup (List.mem_map_of_mem hx)]

lemma nodup_ids (h : Snapshot before time added kept) (hbefore : (ids before).Nodup) :
    (ids (before ++ kept.map Added.profile)).Nodup := by
  rw [ids, List.map_append]
  refine List.nodup_append.2 ⟨hbefore, h.nodup, ?_⟩
  rintro id hold id' hnew rfl
  simp only [List.map_map, List.mem_map, Function.comp_apply] at hnew
  obtain ⟨x, hx, rfl⟩ := hnew
  exact h.fresh x hx hold

/-- If nothing is overtaken, everything is kept. -/
lemma kept_eq (h : Snapshot before time added kept) (hadded : ∀ x ∈ added, x.returned ≤ time)
    (hnodup : added.Nodup) (hnone : ∀ x ∈ added, ∀ y ∈ added, ¬ y.Overtakes x) : kept = added := by
  have hsub : added ⊆ kept := fun x hx =>
    (h.mem_iff x hx).2 ⟨hadded x hx, fun y hy => hnone x hx y (h.sublist.mem hy)⟩
  exact h.sublist.eq_of_length_le (hnodup.subperm hsub).length_le

end Snapshot

/-! ## Runs -/

/-- Every addition underway has read a snapshot of what was stored when it began, and has an id that
is not in it; and what is stored is a snapshot. -/
structure Sound (r : Registry ω) (ro : Roster) (t : Additions ω) : Prop where
  begun_lt : ∀ a ∈ t.underway, a.begun < t.steps
  returned_lt : ∀ x ∈ t.added, x.returned < t.steps
  /-- Additions return one after another. -/
  sorted : t.added.Pairwise fun x y => x.returned < y.returned
  found : ∀ a ∈ t.underway, ∃ kept, Snapshot ro.profiles a.begun t.added kept ∧
    a.addition.found = ro.profiles ++ kept.map Added.profile ∧
    a.addition.profile.id ∉ ids a.addition.found
  stored : ∃ kept, Snapshot ro.profiles t.steps t.added kept ∧
    (r.store.load t.state.world).result =
      .ok { ro with profiles := ro.profiles ++ kept.map Added.profile }

namespace Sound

variable {r : Registry ω} {ro : Roster} {t : Additions ω} {s : State ω} {a : Adding}

lemma start (hload : (r.store.load s.world).result = .ok ro) : Sound r ro { state := s } where
  begun_lt := by simp
  returned_lt := by simp
  sorted := .nil
  found := by simp
  stored := ⟨[], .nil _, by simpa using hload⟩

/-- A step in which nothing happens. -/
lemma wait (h : Sound r ro t) (hs : s.world = t.state.world) :
    Sound r ro { t with state := s, steps := t.steps + 1 } where
  begun_lt a ha := Nat.lt_succ_of_lt (h.begun_lt a ha)
  returned_lt x hx := Nat.lt_succ_of_lt (h.returned_lt x hx)
  sorted := h.sorted
  found := h.found
  stored := by
    obtain ⟨kept, hsnapshot, hload⟩ := h.stored
    exact ⟨kept, hsnapshot.wait h.returned_lt, by rw [hs, hload]⟩

lemma begin (h : Sound r ro t) (hstore : r.store.Lawful) {milliseconds : Nat} {d : Draft}
    {a : Addition} (hstart : r.startAdd milliseconds d t.state = (.ok a, s)) :
    Sound r ro
      { t with state := s, steps := t.steps + 1, underway := t.underway ++ [⟨t.steps, a⟩] } := by
  obtain ⟨kept, hsnapshot, hload⟩ := h.stored
  obtain ⟨ha, hworld⟩ := Registry.of_startAdd hstore hload hstart
  refine { h.wait hworld with begun_lt := ?begun, found := ?found }
  case begun =>
    exact List.forall_mem_append.2 ⟨fun b hb => Nat.lt_succ_of_lt (h.begun_lt b hb),
      List.forall_mem_singleton.2 (Nat.lt_succ_self _)⟩
  case found =>
    -- what is stored now is what the new addition has read
    refine List.forall_mem_append.2 ⟨h.found, List.forall_mem_singleton.2 ?_⟩
    rw [ha]
    exact ⟨kept, hsnapshot, rfl, Roster.freshId_not_mem _ _⟩

lemma finish (h : Sound r ro t) (hstore : r.store.Lawful) (ha : a ∈ t.underway) {p : Profile}
    (hfinish : r.finishAdd a.addition t.state = (.ok p, s)) :
    Sound r ro { t with
      state := s
      steps := t.steps + 1
      underway := t.underway.filter (·.begun != a.begun)
      added := t.added ++ [⟨p, a.begun, t.steps⟩] } := by
  obtain ⟨_, -, hload⟩ := h.stored
  obtain ⟨rfl, hsave, hworld⟩ := Registry.of_finishAdd hfinish
  have hmem {b : Adding} (hb : b ∈ t.underway.filter (·.begun != a.begun)) : b ∈ t.underway :=
    (List.mem_filter.1 hb).1
  constructor
  case begun_lt => exact fun b hb => Nat.lt_succ_of_lt (h.begun_lt b (hmem hb))
  case returned_lt =>
    exact List.forall_mem_append.2 ⟨fun x hx => Nat.lt_succ_of_lt (h.returned_lt x hx),
      List.forall_mem_singleton.2 (Nat.lt_succ_self _)⟩
  case sorted =>
    refine List.pairwise_append.2 ⟨h.sorted, List.pairwise_singleton _ _, fun x hx z hz => ?_⟩
    rw [List.mem_singleton.1 hz]
    exact h.returned_lt x hx
  case found =>
    -- what the others have read is older than this return
    intro b hb
    obtain ⟨kept, hsnapshot, hrest⟩ := h.found b (hmem hb)
    exact ⟨kept, hsnapshot.append (h.begun_lt b (hmem hb)), hrest⟩
  case stored =>
    -- what is stored now is what this addition has read, and its own profile
    obtain ⟨kept, hsnapshot, hfound, hid⟩ := h.found a ha
    rw [hfound] at hid
    refine ⟨kept ++ [⟨a.addition.profile, a.begun, t.steps⟩],
      Snapshot.save (z := ⟨a.addition.profile, a.begun, t.steps⟩) hsnapshot (h.begun_lt a ha)
        h.returned_lt hid, ?_⟩
    have hstored := hstore.load_saveProfiles _ hload hsave
    rw [hworld, hstored, hfound]
    simp

lemma step (h : Sound r ro t) (hstore : r.store.Lawful) {x : AddStep}
    (hok : (t.step r x).faults = []) : Sound r ro (t.step r x) := by
  cases x with
  | begin milliseconds d =>
    rw [Additions.step] at hok ⊢
    split at hok
    · next a s hstart => exact h.begin hstore hstart
    · simp at hok
  | finish n =>
    rw [Additions.step] at hok ⊢
    split at hok
    · exact h.wait rfl
    · next a hfind =>
      have ha := List.mem_of_find?_eq_some hfind
      obtain rfl : a.begun = n := by simpa using List.find?_some hfind
      dsimp only at hok
      split at hok
      · next p s hfinish => exact h.finish hstore ha hfinish
      · simp at hok

lemma run (h : Sound r ro t) (hstore : r.store.Lawful) {xs : List AddStep}
    (hok : (t.run r xs).faults = []) : Sound r ro (t.run r xs) := by
  induction xs using List.reverseRecOn with
  | nil => exact h
  | append_singleton xs x ih =>
    rw [Additions.run_append_singleton] at hok ⊢
    exact (ih (Additions.faults_of_step hok)).step hstore hok

end Sound

/-- However additions to a lawful store go on side by side, and whatever times they choose their
ids for, as long as none of them fails the store holds the profiles of before, and behind them
those of the additions that are kept, in the order in which they returned. These are stored exactly
once, and ids that were distinct are distinct still. An addition is kept exactly if no kept one
overtook it; so all are if none overtook another. -/
theorem stored_after_additions (r : Registry ω) (hstore : r.store.Lawful) (s : State ω)
    (ro : Roster) (hload : (r.store.load s.world).result = .ok ro) (xs : List AddStep)
    (hok : (Additions.run r xs { state := s }).faults = []) :
    let t := Additions.run r xs { state := s }
    ∃ kept, kept <+ t.added ∧
      (r.store.load t.state.world).result =
        .ok { ro with profiles := ro.profiles ++ kept.map Added.profile } ∧
      (∀ x ∈ kept, (ro.profiles ++ kept.map Added.profile).count x.profile = 1) ∧
      ((ids ro.profiles).Nodup → (ids (ro.profiles ++ kept.map Added.profile)).Nodup) ∧
      (∀ x ∈ t.added, x ∈ kept ↔ ∀ y ∈ kept, ¬ y.Overtakes x) ∧
      ((∀ x ∈ t.added, ∀ y ∈ t.added, ¬ y.Overtakes x) → kept = t.added) := by
  intro t
  have hsound : Sound r ro t := (Sound.start hload).run hstore hok
  obtain ⟨kept, hsnapshot, hstored⟩ := hsound.stored
  -- by now all of them have returned, so time does not matter any more
  have hreturned : ∀ x ∈ t.added, x.returned ≤ t.steps := fun x hx => (hsound.returned_lt x hx).le
  have hnodup : t.added.Nodup := by
    refine hsound.sorted.imp fun hlt => ?_
    rintro rfl
    exact lt_irrefl _ hlt
  refine ⟨kept, hsnapshot.sublist, hstored, fun x => hsnapshot.count_eq_one, hsnapshot.nodup_ids,
    fun x hx => ?_, hsnapshot.kept_eq hreturned hnodup⟩
  rw [hsnapshot.mem_iff x hx]
  exact and_iff_right (hreturned x hx)

/-- The draft of a profile with a name. -/
def Draft.sample (name : String) : Draft :=
  .new name .http "10.0.0.1" 8080

/-- One addition overtakes another, and a third one begins afterwards: all return, but of the first
two only the one that returned last is kept. -/
theorem stored_after_additions_sample :
    let xs : List AddStep := [.begin 5 (.sample "P"), .begin 7 (.sample "Q"), .finish 0, .finish 1,
      .begin 7 (.sample "R"), .finish 4]
    let t := Additions.run .inMemory xs { state := .fresh {} }
    t.faults = [] ∧ t.underway = [] ∧
      (t.added.map fun x => (x.profile.id, x.profile.name)) = [("5", "P"), ("7", "Q"), ("8", "R")] ∧
      ∃ kept, kept <+ t.added ∧
        (World.memoryStore.load t.state.world).result =
          .ok ⟨kept.map Added.profile, none⟩ ∧
        (kept.map fun x => x.profile.name) = ["Q", "R"] ∧
        ∀ x ∈ t.added, x ∈ kept ↔ ∀ y ∈ kept, ¬ y.Overtakes x := by
  intro xs t
  have hok : t.faults = [] := by decide
  have hnames : (t.state.world.roster.profiles.map Profile.name) = ["Q", "R"] := by decide
  obtain ⟨kept, hsub, hload, -, -, hkept, -⟩ := stored_after_additions .inMemory
    Store.lawful_memoryStore (.fresh {}) {} rfl xs hok
  refine ⟨hok, by decide, by decide, kept, hsub, hload, ?_, hkept⟩
  have hstored : t.state.world.roster = ⟨kept.map Added.profile, none⟩ := Except.ok.inj hload
  rw [hstored, List.map_map] at hnames
  exact hnames

/-- Two additions overlap and choose their ids at the same time. Both return a profile, but the two
profiles have one id, and the first is not stored. -/
theorem addition_lost_when_overtaken :
    let p : Profile := .ofDraft "5" (.sample "P")
    let q : Profile := .ofDraft "5" (.sample "Q")
    let t := Additions.run .inMemory [.begin 5 (.sample "P"), .begin 5 (.sample "Q"), .finish 0,
      .finish 1] { state := .fresh {} }
    t.faults = [] ∧ t.underway = [] ∧ t.added.map Added.profile = [p, q] ∧ p.id = q.id ∧
      (World.memoryStore.load t.state.world).result = .ok ⟨[q], none⟩ ∧ p ∉ [q] := by
  decide

end ProxyProfiles

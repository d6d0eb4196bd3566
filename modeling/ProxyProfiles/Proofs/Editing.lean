import ProxyProfiles.Proofs.ProfileMap
import ProxyProfiles.Proofs.Separation
/-!
# Editing a profile

To edit a profile its options are put together with what is stored (`EditFields.draft`), and the
draft replaces the stored profile, with the stored credentials if it has none (`Registry.update`).
A field that was given is meant to get its value, and every other one to stay as it is.

That is so for every field but the password (`edit_sets_given_fields`). A password that is given
without a user name is dropped on the way, as the draft then has no credentials, so the stored one
stays, although the command succeeds (`edit_drops_password`).
-/

namespace ProxyProfiles

open Switch Text FileTree

/-! ## The profile that replaces another -/

namespace CommandLine

/-- But for the password, one profile is the other with the fields that were given. -/
structure EditFields.Sets (f : EditFields) (p q : Profile) : Prop where
  id : q.id = p.id
  name : q.name = (f.name.map trimmed).getD p.name
  protocol : q.protocol = f.protocol.getD p.protocol
  host : q.host = (f.host.map trimmed).getD p.host
  port : q.port = f.port.getD p.port
  policyMode : q.policyMode = f.mode.getD p.policyMode
  domainList : q.domainList = (f.domains.map parseDomainList).getD p.domainList
  username : q.username = (f.username <|> p.username)

variable {f : EditFields} {p : Profile}

lemma EditFields.sets_revised (hname : trimmed p.name = p.name) (hhost : trimmed p.host = p.host) :
    f.Sets p (p.revised p.id (f.draft p)) := by
  have hname' : trimmed (f.name.getD p.name) = (f.name.map trimmed).getD p.name := by
    cases f.name <;> simp [hname]
  have hhost' : trimmed (f.host.getD p.host) = (f.host.map trimmed).getD p.host := by
    cases f.host <;> simp [hhost]
  rcases huser : f.username with _ | user <;> constructor <;>
    simp [Profile.revised, EditFields.draft, huser, Draft.new, Draft.withPolicy,
      Draft.withCredentials, Profile.ofDraft, hname', hhost']

/-- The password is only looked at beside a user name. -/
lemma EditFields.password_revised :
    ((p.revised p.id (f.draft p)).password.getD "" = (f.password <|> p.password).getD "") ↔
      (f.username = none → ∀ password ∈ f.password, password = p.password.getD "") := by
  rcases huser : f.username with _ | user <;> rcases hpassword : f.password with _ | password <;>
    simp [Profile.revised, EditFields.draft, huser, hpassword, Draft.new, Draft.withPolicy,
      Draft.withCredentials, Profile.ofDraft, eq_comm]

end CommandLine

/-! ## What the tasks of an edit do -/

namespace Registry

variable {ω : Type} {r : Registry ω} {s s' : State ω} {ro : Roster} {id : String} {p q : Profile}

lemma of_get (hload : (r.store.load s.world).result = .ok ro) (h : r.get id s = (.ok p, s')) :
    ro.find? id = some p ∧ s'.world = (r.store.load s.world).world := by
  rw [get, Task.bind_of_ok (load_of_ok hload)] at h
  rcases hp : ro.find? id with _ | p' <;> simp only [hp] at h <;> cases h
  exact ⟨rfl, rfl⟩

lemma get_of_ok (hload : (r.store.load s.world).result = .ok ro) (hp : ro.find? id = some p) :
    r.get id s = (.ok p, { s with
      world := (r.store.load s.world).world, log := s.log ++ (r.store.load s.world).log }) := by
  rw [get, Task.bind_of_ok (load_of_ok hload), hp]
  rfl

/-- A profile that was changed is stored in place of the one before; after that the host is asked,
if it is the active one. -/
lemma of_update (hstore : r.store.Lawful) (hload : (r.store.load s.world).result = .ok ro)
    {d : Draft} (h : r.update id d s = (.ok q, s')) :
    ∃ p w, ro.find? id = some p ∧ q = p.revised id d ∧
      (r.store.load w).result = .ok { ro with profiles := Roster.replace id q ro.profiles } ∧
      s'.world = if ro.activeId = some id then (r.host.apply q.compile w).world else w := by
  obtain ⟨⟨⟩, s₁, hcheck, hrest⟩ := Task.bind_eq_ok.1 h
  obtain ⟨-, rfl⟩ := of_check hcheck
  rw [Task.bind_of_ok (load_of_ok hload)] at hrest
  rcases hp : ro.find? id with _ | p <;> simp only [hp] at hrest
  · cases hrest
  · obtain ⟨⟨⟩, s₂, hsave, hrest⟩ := Task.bind_eq_ok.1 hrest
    rw [outside_apply, Prod.mk.injEq, hstore.world_load] at hsave
    obtain ⟨hresult, rfl⟩ := hsave
    rw [Task.bind_of_ok (report_apply _ _)] at hrest
    have hstored := hstore.load_saveProfiles _ hload hresult
    split at hrest
    · next hactive =>
      obtain ⟨payload, s₃, happly, hpure⟩ := Task.bind_eq_ok.1 hrest
      cases hpure
      refine ⟨p, _, rfl, rfl, hstored, ?_⟩
      have hworld := congrArg (fun o => o.2.world) happly
      rw [if_pos hactive, ← hworld, apply_world]
    · next hactive =>
      cases hrest
      exact ⟨p, _, rfl, rfl, hstored, by rw [if_neg hactive]⟩

/-- If the new profiles are saved, and the host is not asked, the change succeeds. -/
lemma update_of_ok (hload : (r.store.load s.world).result = .ok ro)
    (hworld : (r.store.load s.world).world = s.world) {d : Draft} (hd : d.check = .ok ())
    (hp : ro.find? id = some p) (hactive : ro.activeId ≠ some id)
    (hsave : (r.store.saveProfiles (Roster.replace id (p.revised id d) ro.profiles)
      s.world).result = .ok ()) :
    (r.update id d s).1 = .ok (p.revised id d) := by
  rw [update, Task.bind_of_ok (check_of_ok hd), Task.bind_of_ok (load_of_ok hload), hp]
  simp only [Task.bind_apply, outside_apply, report_apply, hworld, hsave, if_neg hactive]
  rfl

end Registry

/-! ## The command -/

namespace CommandLine

lemma carryOut_result_eq_ok {c : Config} {milliseconds : Nat} {command : Command} {t : FileTree}
    {line : String} : (carryOut c milliseconds command t).result = .ok line ↔
      (perform (registry c) milliseconds command { world := t }).1 = .ok (.ok line) := by
  rcases hperform : perform (registry c) milliseconds command { world := t } with ⟨e | answer, s⟩
  all_goals
    have hrun : (perform (registry c) milliseconds command).run { world := t } = (_, s) := hperform
    simp [carryOut, hrun]

/-- Saved profiles stay as the host is asked to apply one of them, if the host and the store are
apart. -/
lemma load_apply {c : Config} (hapart : c.Apart) {t : FileTree} {ro : Roster}
    (hload : (Store.File.load c.storePath t).result = .ok ro) (hne : ro.profiles ≠ [])
    (payload : Payload) :
    (Store.File.load c.storePath ((registry c).host.apply payload t).world).result = .ok ro :=
  Store.File.load_of_retains (Host.Publishing.apply_retains hapart payload t) hload hne

variable {c : Config} {t : FileTree} {ro : Roster} {p : Profile} {f : EditFields}
  {milliseconds : Nat} {line : String}

/-- What an edit leaves in the store if it succeeds. -/
lemma load_edit (hload : (Store.File.load c.storePath t).result = .ok ro)
    (hids : (ids ro.profiles).Nodup) (hp : p ∈ ro.profiles)
    (hapart : ro.activeId = some p.id → c.Apart)
    (hrun : (carryOut c milliseconds (.edit p.id f) t).result = .ok line) :
    (Store.File.load c.storePath (carryOut c milliseconds (.edit p.id f) t).files).result =
      .ok { ro with profiles := ro.profiles.map fun x =>
        if x.id = p.id then p.revised p.id (f.draft p) else x } := by
  have hperform : perform (registry c) milliseconds (.edit p.id f) { world := t } =
      (.ok (.ok line), _) := Prod.ext (carryOut_result_eq_ok.1 hrun) rfl
  obtain ⟨p', s₁, hget, hrest⟩ := Task.bind_eq_ok.1 hperform
  obtain ⟨q, s₂, hupdate, hpure⟩ := Task.bind_eq_ok.1 hrest
  cases hpure
  have hfind := Roster.find?_of_mem hids hp
  -- the profile is looked up twice, and it is the same one both times
  obtain ⟨hfound, hworld⟩ := Registry.of_get hload hget
  obtain rfl : p = p' := Option.some.inj (hfind.symm.trans hfound)
  have hworld₁ : s₁.world = t := hworld.trans (Store.File.world_load c.storePath t)
  have hload₁ : (Store.File.load c.storePath s₁.world).result = .ok ro := by rw [hworld₁, hload]
  obtain ⟨p', w, hfound', rfl, hstored, hworld₂⟩ :=
    Registry.of_update (Store.lawful_file c.storePath) hload₁ hupdate
  obtain rfl : p = p' := Option.some.inj (hfind.symm.trans hfound')
  rw [replace_eq_map (fun _ => p.revised p.id (f.draft p)) hids hfind] at hstored
  rw [carryOut_files, hperform, hworld₂]
  split
  · -- the host is asked after the profiles were saved
    next hactive =>
    refine load_apply (hapart hactive) hstored (fun hnone => ?_) _
    rw [List.map_eq_nil_iff.1 hnone] at hp
    exact List.not_mem_nil hp
  · exact hstored

/-- An edit that succeeds leaves the other profiles and the active id. In the edited profile every
field that was given has its value, and every other one is as it was, but for one case: a password
that is given without a user name, and is not the stored one, is dropped. If the profile is the
active one, the store has to be apart from the published files. -/
theorem edit_sets_given_fields
    (hload : (Store.File.load c.storePath t).result = .ok ro) (hids : (ids ro.profiles).Nodup)
    (hp : p ∈ ro.profiles) (hname : trimmed p.name = p.name) (hhost : trimmed p.host = p.host)
    (hapart : ro.activeId = some p.id → c.Apart)
    (hrun : (carryOut c milliseconds (.edit p.id f) t).result = .ok line) :
    ∃ q, f.Sets p q ∧
      (q.password.getD "" = (f.password <|> p.password).getD "" ↔
        (f.username = none → ∀ password ∈ f.password, password = p.password.getD "")) ∧
      (Store.File.load c.storePath (carryOut c milliseconds (.edit p.id f) t).files).result =
        .ok { ro with profiles := ro.profiles.map fun x => if x.id = p.id then q else x } :=
  ⟨_, EditFields.sets_revised hname hhost, EditFields.password_revised,
    load_edit hload hids hp hapart hrun⟩

/-- Where the store can be written, an edit that leaves a valid profile succeeds. The host might
refuse it if it was the active one. -/
lemma edit_succeeds (milliseconds : Nat) (id : String) (hpath : PlainPath c.storePath)
    (hkeeps : FileStore.Keeps c.storePath ro t) (hp : ro.find? id = some p)
    (hactive : ro.activeId ≠ some id) (hd : (f.draft p).check = .ok ()) :
    (carryOut c milliseconds (.edit id f) t).result =
      .ok ("Updated " ++ (p.revised id (f.draft p)).name ++ " (" ++ id ++ ")\n") := by
  obtain ⟨hload, hworld⟩ := FileStore.load_of_holds hpath hkeeps.clear hkeeps.holds
  have hupdate {s : State FileTree} (hs : s.world = t) :
      ((registry c).update id (f.draft p) s).1 = .ok (p.revised id (f.draft p)) := by
    subst hs
    exact Registry.update_of_ok hload hworld hd hp hactive
      (FileStore.change_keeps hpath hkeeps _ [Store.File.saved c.storePath _]).1
  rw [carryOut_result_eq_ok, perform, Task.bind_of_ok (Registry.get_of_ok hload hp),
    Task.bind_of_ok (Prod.ext (hupdate hworld) rfl), Task.pure_apply, Profile.revised_id]

/-- A profile with a user and a password. -/
def editedSample : Profile :=
  .ofDraft "1" ((Draft.new "P" .http "10.0.0.1" 8080).withCredentials "alice" "pw")

/-- The file of a store that holds this profile. -/
def filesSample : FileTree :=
  ⟨[(["profiles.json"], .text (Roster.text ⟨[editedSample], none⟩))]⟩

lemma filesSample_keeps :
    PlainPath "profiles.json" ∧
      FileStore.Keeps "profiles.json" ⟨[editedSample], none⟩ filesSample := by
  have hpath : PlainPath "profiles.json" := by decide +kernel
  have hlocation : locationOf "profiles.json" = ["profiles.json"] := by decide +kernel
  have hget : filesSample.get? ["profiles.json"] =
      some (.text (Roster.text ⟨[editedSample], none⟩)) := by
    simp [filesSample, get?]
  refine ⟨hpath, ?_, ?_, ?_⟩ <;> rw [hlocation]
  · exact .of_reach? rfl
  · simp [hget]
  · rw [reach?_cons rfl, hget]
    exact .roster (Roster.ofText_text _)

/-- The port is changed, and a password is given beside the user name. -/
theorem edit_sets_given_fields_sample :
    let f : EditFields := { port := some 3128, username := some "alice", password := some "new" }
    (∃ line, (carryOut {} 0 (.edit "1" f) filesSample).result = .ok line) ∧
      ∃ q, f.Sets editedSample q ∧ q.password.getD "" = "new" ∧
        (Store.File.load "profiles.json" (carryOut {} 0 (.edit "1" f) filesSample).files).result =
          .ok ⟨[q], none⟩ := by
  intro f
  obtain ⟨hpath, hkeeps⟩ := filesSample_keeps
  have hload := (FileStore.load_of_holds hpath hkeeps.clear hkeeps.holds).1
  have hrun := edit_succeeds 0 "1" (c := {}) (p := editedSample) (f := f) hpath hkeeps rfl nofun
    (by decide)
  obtain ⟨q, hsets, hpassword, hedited⟩ := edit_sets_given_fields (c := {}) (p := editedSample)
    hload (by decide) (by decide) (by decide) (by decide) nofun hrun
  have hprofiles : ([editedSample].map fun x => if x.id = editedSample.id then q else x) = [q] := by
    simp
  rw [hprofiles] at hedited
  exact ⟨⟨_, hrun⟩, q, hsets, hpassword.2 nofun, hedited⟩

/-- A password is given without a user name: the command succeeds, and the stored password stays. -/
theorem edit_drops_password :
    let f : EditFields := { password := some "new" }
    (∃ line, (carryOut {} 0 (.edit "1" f) filesSample).result = .ok line) ∧
      editedSample.password = some "pw" ∧
      (Store.File.load "profiles.json" (carryOut {} 0 (.edit "1" f) filesSample).files).result =
        .ok ⟨[editedSample], none⟩ := by
  intro f
  obtain ⟨hpath, hkeeps⟩ := filesSample_keeps
  have hload := (FileStore.load_of_holds hpath hkeeps.clear hkeeps.holds).1
  have hrun := edit_succeeds 0 "1" (c := {}) (p := editedSample) (f := f) hpath hkeeps rfl nofun
    (by decide)
  have hedited := load_edit (c := {}) (p := editedSample) hload (by decide) (by decide) nofun hrun
  have hprofiles : ([editedSample].map fun x =>
      if x.id = editedSample.id then editedSample.revised editedSample.id (f.draft editedSample)
      else x) = [editedSample] := by
    decide
  rw [hprofiles] at hedited
  exact ⟨⟨_, hrun⟩, rfl, hedited⟩

end CommandLine

end ProxyProfiles

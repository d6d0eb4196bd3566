import ProxyProfiles.CommandLine.Run
import ProxyProfiles.Proofs.Operation
import ProxyProfiles.Proofs.Publication
import ProxyProfiles.Proofs.StoreLaws
/-!
# Switching and the stored profiles

To switch is to make a profile active or none, or to put the active one in force again. The host
then writes and removes files in its directory, and the active id is saved in the file of the
store. The stored profiles are not meant to change, and they do not as long as the file of the
store is none of those that the host publishes (`Config.Apart`): whether a command succeeds or
fails, the profiles are loaded as before (`switching_keeps_profiles`). Nothing in a configuration
forbids the two from being one file, and then the profiles are lost (`switching_loses_profiles`).

Two things could go wrong even so, and the invariant (`Stored`) is about them. A store file that is
missing is only looked for again along the same way if its path is plain; and the host makes
directories, which might take the place of a missing file, but only when there is a profile to
apply.
-/

namespace ProxyProfiles

open Switch FileTree

variable {ω α β : Type}

/-! ## Properties of the world that tasks keep -/

namespace Task

/-- However the task ends, the world has a property that it had before. -/
def Keeps (I : ω → Prop) (t : Task ω α) : Prop :=
  ∀ s, I s.world → I (t s).2.world

namespace Keeps

variable {I : ω → Prop} {t : Task ω α}

lemma of_same (h : ∀ s, (t s).2.world = s.world) : Keeps I t := by
  intro s hs
  rwa [h]

lemma pure (a : α) : Keeps I (pure a : Task ω α) := of_same fun _ => rfl

lemma report (x : Record) : Keeps I (report x : Task ω Unit) := of_same fun _ => rfl

lemma markInactive : Keeps I (markInactive : Task ω Unit) := of_same fun _ => rfl

lemma outside {op : ω → Outcome ω α} (h : ∀ w, I w → I (op w).world) : Keeps I (outside op) :=
  fun s hs => h s.world hs

lemma bind {f : α → Task ω β} (ht : Keeps I t) (hf : ∀ a, Keeps I (f a)) : Keeps I (t >>= f) :=
  bind_related (R := fun s s' : State ω => I s.world → I s'.world) (fun h h' => h' ∘ h) ht hf

variable {host : Host ω}

lemma apply {p : Profile} (h : ∀ w, I w → I (host.apply p.compile w).world) :
    Keeps I (Switch.apply host p) := by
  intro s hs
  rw [apply_world]
  exact h s.world hs

lemma clear (h : ∀ w, I w → I (host.clear w).world) : Keeps I (Switch.clear host) := by
  intro s hs
  rw [clear_world]
  exact h s.world hs

end Keeps

end Task

/-! ## Registries that guard their profiles -/

/-- In worlds with a property, these profiles are stored; and neither saving an active id nor the
host takes the property away. The host need not be safe if there is no profile to apply. -/
structure Registry.Guards (r : Registry ω) (ps : List Profile) (I : ω → Prop) : Prop where
  load : ∀ w, I w → ∃ ro, (r.store.load w).result = .ok ro ∧ ro.profiles = ps
  world_load : ∀ w, (r.store.load w).world = w
  saveActive : ∀ id w, I w → I (r.store.saveActive id w).world
  apply : ps ≠ [] → ∀ p w, I w → I (r.host.apply p w).world
  clear : ∀ w, I w → I (r.host.clear w).world

namespace Registry.Guards

variable {r : Registry ω} {ps : List Profile} {I : ω → Prop}

/-- What is done with a roster is done with one that holds the profiles. -/
lemma load_bind (h : r.Guards ps I) {f : Roster → Task ω α}
    (hf : ∀ ro, ro.profiles = ps → Task.Keeps I (f ro)) : Task.Keeps I (r.load >>= f) := by
  intro s hs
  obtain ⟨ro, hload, hro⟩ := h.load s.world hs
  rw [Task.bind_of_ok (load_of_ok hload)]
  exact hf ro hro _ (by rwa [h.world_load])

/-- A profile that is found is there to apply. -/
lemma apply_found (h : r.Guards ps I) {ro : Roster} (hro : ro.profiles = ps) {id : String}
    {p : Profile} (hp : ro.find? id = some p) : Task.Keeps I (Switch.apply r.host p) := by
  refine .apply fun w hw => h.apply ?_ p.compile w hw
  rintro rfl
  simp [Roster.find?, hro] at hp

lemma status (h : r.Guards ps I) : Task.Keeps I r.status :=
  h.load_bind fun _ _ => .pure _

lemma deactivate (h : r.Guards ps I) : Task.Keeps I r.deactivate :=
  .bind (.clear h.clear) fun _ => .outside (h.saveActive none)

lemma activate (h : r.Guards ps I) (id : String) : Task.Keeps I (r.activate id) := by
  refine h.load_bind fun ro hro => ?_
  rcases hp : ro.find? id with _ | p
  · exact .bind (.report _) fun _ => .pure _
  · exact .bind (h.apply_found hro hp) fun _ =>
      .bind (.outside (h.saveActive (some id))) fun _ => .pure _

lemma restore (h : r.Guards ps I) : Task.Keeps I r.restore := by
  refine h.load_bind fun ro hro => ?_
  rcases ro.activeId with _ | id
  · exact .bind .markInactive fun _ => .pure _
  · rcases hp : ro.find? id with _ | p <;> simp only [hp]
    · exact .bind (.report _) fun _ => .bind .markInactive fun _ => .pure _
    · exact .bind (h.apply_found hro hp) fun _ => .bind (.report _) fun _ => .pure _

end Registry.Guards

/-! ## The file of the store -/

namespace FileStore

variable {path : String} {ro : Roster} {t : FileTree}

/-- A file is removed that is not the one of the store. -/
lemma Keeps.erase (h : Keeps path ro t) {m : Location} (hne : m ≠ locationOf path) {e : Entry}
    (he : t.get? m = some e) (hdirectory : e ≠ .directory) : Keeps path ro (t.erase m) := by
  -- it does not stand on the way either, where there are only directories
  have hkept : ∀ k, k <:+ locationOf path → (t.erase m).get? k = t.get? k := by
    intro k hk
    refine get?_erase_of_ne t ?_
    rintro rfl
    rcases hl : locationOf path with _ | ⟨name, l⟩ <;> rw [hl] at hk hne
    · exact hne (List.suffix_nil.1 hk)
    · rcases List.suffix_cons_iff.1 hk with hself | habove
      · exact hne hself
      · rcases h.clear k (by rwa [hl, List.tail_cons]) with hnone | hdir
        · simp [hnone] at he
        · rw [hdir] at he
          exact hdirectory (Option.some.inj he).symm
  constructor
  case clear =>
    intro k hk
    rw [hkept k (hk.trans (List.tail_suffix _))]
    exact h.clear k hk
  case file =>
    rw [hkept _ List.suffix_rfl]
    exact h.file
  case holds =>
    rw [reach?_congr hkept]
    exact h.holds

/-- The file is there, or its path is plain and only directories are in its way. -/
def Found (path : String) (t : FileTree) : Prop :=
  (∃ s, t.readText path = .ok s) ∨
    PlainPath path ∧ t.Clear (locationOf path).tail ∧ t.get? (locationOf path) ≠ some .directory

/-- A roster with these profiles is loaded, and the file is found. -/
def Stored (path : String) (ps : List Profile) (t : FileTree) : Prop :=
  ∃ ro, (Store.File.load path t).result = .ok ro ∧ ro.profiles = ps ∧ Found path t

/-- Where the file is found at a plain path, or is missing there, what is loaded is kept there. -/
lemma keeps_of_load (hpath : PlainPath path) (hclear : t.Clear (locationOf path).tail)
    (hfile : t.get? (locationOf path) ≠ some .directory)
    (hload : (Store.File.load path t).result = .ok ro) : Keeps path ro t := by
  have hreach : t.reach? (locationOf path) ≠ some .directory :=
    fun hdirectory => hfile (get?_of_reach? hdirectory)
  obtain ⟨c, hc⟩ := exists_holds hreach
  rw [(load_of_holds hpath hclear hc).1] at hload
  exact ⟨hclear, hfile, hload ▸ hc⟩

variable {ps : List Profile} {t' : FileTree}

lemma stored_of_keeps (hpath : PlainPath path) (h : Keeps path ro t) (hps : ro.profiles = ps) :
    Stored path ps t :=
  ⟨ro, (load_of_holds hpath h.clear h.holds).1, hps, .inr ⟨hpath, h.clear, h.file⟩⟩

lemma stored_of_text (h : t.readText path = .ok ro.text) (hps : ro.profiles = ps) :
    Stored path ps t :=
  ⟨ro, Store.File.result_load_text h, hps, .inl ⟨_, h⟩⟩

/-- A file that is there stays there. -/
lemma Stored.of_retains (h : Stored path ps t) {s : String} (hs : t.readText path = .ok s)
    (hretains : Retains (locationOf path) t t') : Stored path ps t' := by
  obtain ⟨ro, hload, hps, -⟩ := h
  refine ⟨ro, ?_, hps, .inl ⟨s, readText_of_retains hretains hs⟩⟩
  rw [Store.File.result_load_of_retains hretains hs, hload]

/-- Saving an active id leaves the profiles, also if it fails. -/
lemma Stored.saveActive (h : Stored path ps t) (id : Option String) :
    Stored path ps ((Store.file path).saveActive id t).world := by
  have hstored := h
  obtain ⟨ro, hload, rfl, ⟨s, hs⟩ | ⟨hpath, hclear, hfile⟩⟩ := h
  · -- the file is there: it has the new text, or was not touched
    rcases Store.File.change_cases hload (fun r => { r with activeId := id }) [] with
      ⟨-, htext⟩ | ⟨-, hretains⟩
    · exact stored_of_text htext rfl
    · exact hstored.of_retains hs hretains
  · -- it may be missing, but then it can be made, and the way to it stays the same
    have hkeeps := keeps_of_load hpath hclear hfile hload
    obtain ⟨-, hkeeps', -⟩ := change_keeps hpath hkeeps (fun r => { r with activeId := id }) []
    exact stored_of_keeps hpath hkeeps' rfl

/-- Only a roster without profiles is loaded from a missing file. -/
lemma Stored.apply (h : Stored path ps t) (hps : ps ≠ []) {directory : String}
    (havoids : Host.Publishing.Avoids directory (locationOf path)) (p : Payload) :
    Stored path ps ((Host.publishing directory).apply p t).world := by
  have hstored := h
  obtain ⟨ro, hload, rfl, -⟩ := h
  -- so the file is there, and no directory that the host makes can take its place
  obtain ⟨s, hs⟩ := Store.File.exists_text_of_load hload hps
  exact hstored.of_retains hs (Host.Publishing.apply_retains havoids p t)

lemma Stored.clear (h : Stored path ps t) {directory : String}
    (havoids : Host.Publishing.Avoids directory (locationOf path)) :
    Stored path ps ((Host.publishing directory).clear t).world := by
  have hstored := h
  obtain ⟨ro, hload, rfl, ⟨s, hs⟩ | ⟨hpath, hclear, hfile⟩⟩ := h
  · exact hstored.of_retains hs (Host.Publishing.clear_retains havoids t)
  · have hkeeps := keeps_of_load hpath hclear hfile hload
    refine stored_of_keeps hpath (Host.Publishing.clear_keeps (I := Keeps path ro)
      (fun removed hremoved t' ht' => ?_) hkeeps) rfl
    rcases FileAction.removeIfPresent_cases removed t' with hsame | ⟨e, he, hdirectory, herase⟩
    · rwa [hsame]
    · rw [herase]
      exact ht'.erase (havoids.ne_of_mem hremoved).symm he hdirectory

end FileStore

/-! ## Commands -/

/-- The file of the store is none of those that the host publishes. All paths are taken from the
working directory, with or without a slash in front (`locationOf`). -/
def Config.Apart (c : Config) : Prop :=
  Host.Publishing.Avoids c.outputDirectory (locationOf c.storePath)

instance (c : Config) : Decidable c.Apart :=
  inferInstanceAs (Decidable (Host.Publishing.Avoids _ _))

namespace CommandLine

variable {c : Config} {ps : List Profile}

lemma guards_registry (hapart : c.Apart) (ps : List Profile) :
    (registry c).Guards ps (FileStore.Stored c.storePath ps) where
  load t h := by
    obtain ⟨ro, hload, hps, -⟩ := h
    exact ⟨ro, hload, hps⟩
  world_load := Store.File.world_load c.storePath
  saveActive id t h := h.saveActive id
  apply hps p t h := h.apply hps hapart p
  clear t h := h.clear hapart

lemma carryOut_files (c : Config) (milliseconds : Nat) (command : Command) (t : FileTree) :
    (carryOut c milliseconds command t).files =
      (perform (registry c) milliseconds command { world := t }).2.world := rfl

/-- The commands that switch. -/
def Command.Switches : Command → Prop
  | .use _ | .off | .restore => True
  | _ => False

lemma perform_keeps {r : Registry FileTree} {I : FileTree → Prop} (h : r.Guards ps I)
    {command : Command} (hcommand : command.Switches) (milliseconds : Nat) :
    Task.Keeps I (perform r milliseconds command) := by
  cases command with
  | use id =>
    refine .bind (h.activate id) fun o => ?_
    rcases o with _ | payload
    · exact .pure _
    · exact .bind h.status fun _ => .pure _
  | off => exact .bind h.deactivate fun _ => .pure _
  | restore => exact .bind h.restore fun x => by cases x <;> exact .pure _
  | list | status | add | edit | remove | compile => exact absurd hcommand id

/-- Whatever becomes of switching, the stored profiles are loaded as before, if the file of the
store is none of those that the host publishes. If there are no profiles, the file is there or
could at least be written where its path leads. -/
theorem switching_keeps_profiles {c : Config} (hapart : c.Apart) {t : FileTree} {ro : Roster}
    (hload : (Store.File.load c.storePath t).result = .ok ro)
    (hfound : ro.profiles = [] → FileStore.Found c.storePath t) (command : Command)
    (hcommand : command.Switches) (milliseconds : Nat) :
    (Store.File.load c.storePath (carryOut c milliseconds command t).files).result.map
      Roster.profiles = .ok ro.profiles := by
  have hfound' : FileStore.Found c.storePath t := by
    by_cases hnone : ro.profiles = []
    · exact hfound hnone
    · exact .inl (Store.File.exists_text_of_load hload hnone)
  have hstored : FileStore.Stored c.storePath ro.profiles t := ⟨ro, hload, rfl, hfound'⟩
  obtain ⟨ro', hload', hps, -⟩ := perform_keeps (guards_registry hapart ro.profiles) hcommand
    milliseconds { world := t } hstored
  rw [carryOut_files, hload', ← hps]
  rfl

/-- A roster with one profile, which is active. -/
def rosterSample : Roster :=
  ⟨[.ofDraft "1" (Draft.new "P" .http "10.0.0.1" 8080)], some "1"⟩

/-- The paths of the configuration without settings are apart, so going back to direct connections
leaves the profiles. -/
theorem switching_keeps_profiles_sample :
    let c : Config := {}
    let t : FileTree := ⟨[(["profiles.json"], .text rosterSample.text),
      (["proxy.pac", "proxy"], .text ""), (["proxy"], .directory)]⟩
    c.Apart ∧ (Store.File.load c.storePath t).result = .ok rosterSample ∧
      (Store.File.load c.storePath (carryOut c 0 .off t).files).result.map Roster.profiles =
        .ok rosterSample.profiles := by
  intro c t
  have hapart : c.Apart := by decide +kernel
  have htext : t.readText c.storePath = .ok rosterSample.text :=
    readText_eq_ok_iff.2 ⟨[], ⟨[], "profiles.json", false⟩, ⟨by decide +kernel, rfl⟩, rfl,
      by simp [t, get?]⟩
  have hload : (Store.File.load c.storePath t).result = .ok rosterSample :=
    Store.File.result_load_text htext
  have hsome : rosterSample.profiles ≠ [] := List.cons_ne_nil _ _
  exact ⟨hapart, hload,
    switching_keeps_profiles hapart hload (fun hnone => absurd hnone hsome) .off trivial 0⟩

/-- Going back to direct connections removes the file of the store, if it is the one that a rule
table would be published in. -/
theorem switching_loses_profiles :
    let c : Config := { storePath := "proxy/rules.json", outputDirectory := "proxy" }
    let t : FileTree := ⟨[(["rules.json", "proxy"], .text rosterSample.text),
      (["proxy"], .directory)]⟩
    c.check = .ok () ∧ (Store.File.load c.storePath t).result = .ok rosterSample ∧
      (carryOut c 0 .off t).result = .ok "Direct connection\n" ∧
      (Store.File.load c.storePath (carryOut c 0 .off t).files).result = .ok ⟨[], none⟩ := by
  intro c t
  have htext : t.readText c.storePath = .ok rosterSample.text :=
    readText_eq_ok_iff.2 ⟨["proxy"], ⟨["proxy"], "rules.json", false⟩, ⟨by decide +kernel, rfl⟩,
      rfl, by simp [t, get?]⟩
  exact ⟨by decide, Store.File.result_load_text htext, by decide +kernel, by decide +kernel⟩

end CommandLine

end ProxyProfiles

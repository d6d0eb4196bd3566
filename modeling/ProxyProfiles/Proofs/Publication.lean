import ProxyProfiles.Host.Publishing
import ProxyProfiles.Proofs.BlacklistRouting
import ProxyProfiles.Proofs.FileTree.Folder
/-!
# What the publishing host does to the files

The host writes a payload to a file in its directory and removes the file of the other kind; to go
back, it removes both. When it has accepted a payload, exactly the file of this payload is there and
holds its text (`Publishes`). When it has gone back, neither file is there (`Unpublishes`). This is
so whatever calls came before, and whether those were accepted or not (`accepted_calls_publish`).

Whether it accepts a call or not, the host leaves all other places as they are, but that it makes
the directories which are missing on the way to its own (`LeavesOthers`). So a path that has led to
one of those places leads there still, and what is read there is the same (`apply_retains`,
`clear_retains`).
-/

namespace ProxyProfiles

open FileTree

/-! ## Removing a file -/

lemma FileAction.removeIfPresent_cases (path : String) (t : FileTree) :
    (FileAction.removeIfPresent path t).2 = t ∨
      ∃ e, t.get? (locationOf path) = some e ∧ e ≠ .directory ∧
        (FileAction.removeIfPresent path t).2 = t.erase (locationOf path) := by
  unfold FileAction.removeIfPresent
  split
  · next t' hremoved =>
    obtain ⟨l, target, e, hfinds, he, hdirectory, rfl⟩ := of_removeFile hremoved
    rw [← hfinds.location] at he ⊢
    exact .inr ⟨e, he, hdirectory, rfl⟩
  · exact .inl rfl
  · exact .inl rfl

lemma FileAction.get?_removeIfPresent_of_ne {path : String} {m : Location}
    (h : m ≠ locationOf path) (t : FileTree) :
    (FileAction.removeIfPresent path t).2.get? m = t.get? m := by
  rcases FileAction.removeIfPresent_cases path t with hsame | ⟨e, -, -, herase⟩
  · rw [hsame]
  · rw [herase, get?_erase_of_ne t h]

lemma FileAction.get?_writeText_of_ne {path : String} {m : Location} (h : m ≠ locationOf path)
    (s : String) (t : FileTree) : (FileAction.writeText path s t).2.get? m = t.get? m := by
  unfold FileAction.writeText FileAction.change
  split
  · next t' hwritten =>
    obtain ⟨l, target, hfinds, -, -, rfl⟩ := of_writeText hwritten
    rw [hfinds.location] at h
    exact get?_set_of_ne t h _
  · rfl

namespace Host

/-! ## Calls -/

section Calls

variable {ω : Type}

/-- Makes a call. -/
def perform (h : Host ω) (c : HostCall) (w : ω) : Outcome ω Unit :=
  match c with
  | .apply p => h.apply p w
  | .clear => h.clear w

/-- The world after calls that a host accepts or not. -/
def run (h : Host ω) (calls : List HostCall) (w : ω) : ω :=
  calls.foldl (fun w c => (h.perform c w).world) w

end Calls

namespace Publishing

variable {directory path name : String} {p : Payload} {t t' t'' : FileTree} {l m : Location}
  {e : FileFault}

/-! ## The two paths -/

lemma leadsInto_scriptPath (directory : String) :
    LeadsInto (scriptPath directory) directory "proxy.pac" :=
  leadsInto_inDirectory ⟨by decide, by decide, by decide, by decide, by decide⟩ directory

lemma leadsInto_rulesPath (directory : String) :
    LeadsInto (rulesPath directory) directory "rules.json" :=
  leadsInto_inDirectory ⟨by decide, by decide, by decide, by decide, by decide⟩ directory

lemma locationOf_scriptPath_ne (directory : String) :
    locationOf (scriptPath directory) ≠ locationOf (rulesPath directory) := by
  rw [(leadsInto_scriptPath directory).location, (leadsInto_rulesPath directory).location]
  intro h
  exact absurd (List.cons.inj h).1 (by decide)

lemma exists_leadsInto_target (directory : String) (p : Payload) :
    ∃ name, LeadsInto (target directory p) directory name := by
  cases p
  · exact ⟨_, leadsInto_scriptPath directory⟩
  · exact ⟨_, leadsInto_rulesPath directory⟩

lemma exists_leadsInto_stale (directory : String) (p : Payload) :
    ∃ name, LeadsInto (stale directory p) directory name := by
  cases p
  · exact ⟨_, leadsInto_rulesPath directory⟩
  · exact ⟨_, leadsInto_scriptPath directory⟩

lemma locationOf_target_ne (directory : String) (p : Payload) :
    locationOf (target directory p) ≠ locationOf (stale directory p) := by
  cases p
  · exact locationOf_scriptPath_ne directory
  · exact (locationOf_scriptPath_ne directory).symm

lemma locationOf_target_ne_nil (directory : String) (p : Payload) :
    locationOf (target directory p) ≠ [] := by
  obtain ⟨name, h⟩ := exists_leadsInto_target directory p
  rw [h.location]
  exact List.cons_ne_nil _ _

/-- A place at which nothing is published. -/
structure Avoids (directory : String) (l : Location) : Prop where
  script : l ≠ locationOf (scriptPath directory)
  rules : l ≠ locationOf (rulesPath directory)

instance (directory : String) (l : Location) : Decidable (Avoids directory l) :=
  decidable_of_iff (l ≠ locationOf (scriptPath directory) ∧ l ≠ locationOf (rulesPath directory))
    ⟨fun ⟨hscript, hrules⟩ => ⟨hscript, hrules⟩, fun h => ⟨h.script, h.rules⟩⟩

lemma Avoids.target (h : Avoids directory l) (p : Payload) :
    l ≠ locationOf (target directory p) := by
  cases p
  · exact h.script
  · exact h.rules

lemma Avoids.stale (h : Avoids directory l) (p : Payload) :
    l ≠ locationOf (stale directory p) := by
  cases p
  · exact h.rules
  · exact h.script

lemma Avoids.ne_of_mem (h : Avoids directory l)
    (hpath : path ∈ [scriptPath directory, rulesPath directory]) : l ≠ locationOf path := by
  rcases List.mem_pair.1 hpath with rfl | rfl
  · exact h.script
  · exact h.rules

/-! ## How a call ends -/

lemma world_apply (directory : String) (p : Payload) (t : FileTree) :
    ((publishing directory).apply p t).world = (write directory p t).2 := by
  simp only [publishing, ExceptT.run]
  rcases write directory p t with ⟨e | ⟨⟩, t'⟩ <;> rfl

lemma world_clear (directory : String) (t : FileTree) :
    ((publishing directory).clear t).world = (unpublish directory t).2 := by
  simp only [publishing, ExceptT.run]
  rcases unpublish directory t with ⟨e | ⟨⟩, t'⟩ <;> rfl

lemma result_apply_eq_ok_iff :
    ((publishing directory).apply p t).result = .ok () ↔ (write directory p t).1 = .ok () := by
  simp only [publishing, ExceptT.run]
  rcases write directory p t with ⟨e | ⟨⟩, t'⟩ <;> simp

lemma result_clear_eq_ok_iff :
    ((publishing directory).clear t).result = .ok () ↔ (unpublish directory t).1 = .ok () := by
  simp only [publishing, ExceptT.run]
  rcases unpublish directory t with ⟨e | ⟨⟩, t'⟩ <;> simp

lemma clear_of_ok (h : unpublish directory t = (.ok (), t')) :
    (publishing directory).clear t = ⟨.ok (), t', []⟩ := by
  simp only [publishing, ExceptT.run, h]

/-- Without its directory, nothing is published. -/
lemma write_of_unmade (h : FileAction.makeDirectories directory t = (.error e, t')) :
    write directory p t = (.error e, t') :=
  Task.bind_of_error h _

/-- In its directory, a payload is published unless a directory stands in one of the two places. One
in the place of the other file is only noticed when the payload has been written. -/
lemma write_of_made (h : FileAction.makeDirectories directory t = (.ok (), t')) :
    write directory p t =
      let t'' := t'.set (locationOf (target directory p)) (.text p.text)
      if t'.get? (locationOf (target directory p)) = some .directory then (.error .isDirectory, t')
      else if t'.get? (locationOf (stale directory p)) = some .directory then
        (.error .isDirectory, t'')
      else (.ok (), t''.withoutFile (locationOf (stale directory p))) := by
  obtain ⟨l, hgo⟩ := FileAction.exists_goTo_of_makeDirectories h
  obtain ⟨name, htarget⟩ := exists_leadsInto_target directory p
  obtain ⟨name', hstale⟩ := exists_leadsInto_stale directory p
  have hwrite := writeText_eq_bind htarget t' p.text
  rw [hgo, Except.bind] at hwrite
  rw [write, Task.bind_of_ok h]
  dsimp only
  split
  · next hdirectory =>
    rw [if_pos hdirectory] at hwrite
    refine Task.bind_of_error ?_ _
    rw [FileAction.writeText, FileAction.change, hwrite]
  · next hfile =>
    rw [if_neg hfile] at hwrite
    have hwritten : FileAction.writeText (target directory p) p.text t' =
        (.ok (), t'.set (locationOf (target directory p)) (.text p.text)) := by
      rw [FileAction.writeText, FileAction.change, hwrite]
    rw [Task.bind_of_ok hwritten, removeIfPresent_of_goTo hstale (goTo_set hgo hfile p.text),
      get?_set_of_ne _ (locationOf_target_ne directory p).symm]

/-- A payload that has been published has been written, and no file of the other kind is left. -/
lemma of_write (h : (write directory p t).1 = .ok ()) :
    ∃ (t' : FileTree) (l : Location), t'.goTo directory = .ok l ∧
      t'.get? (locationOf (target directory p)) ≠ some .directory ∧
      t'.get? (locationOf (stale directory p)) ≠ some .directory ∧
      (write directory p t).2 = (t'.set (locationOf (target directory p)) (.text p.text)).withoutFile
        (locationOf (stale directory p)) := by
  rcases hmade : FileAction.makeDirectories directory t with ⟨e | ⟨⟩, t'⟩
  · simp [write_of_unmade hmade] at h
  obtain ⟨l, hgo⟩ := FileAction.exists_goTo_of_makeDirectories hmade
  rw [write_of_made hmade] at h ⊢
  dsimp only at h ⊢
  split at h
  · simp at h
  next hfile =>
  split at h
  · simp at h
  next hstale =>
  rw [if_neg hfile, if_neg hstale]
  exact ⟨t', l, hgo, hfile, hstale, rfl⟩

lemma remove_eq (path : String) (t : FileTree) :
    remove path t = ((FileAction.removeIfPresent path t).1.mapError (HostFault.unremoved path),
      (FileAction.removeIfPresent path t).2) := by
  simp only [remove, ExceptT.run]
  rcases FileAction.removeIfPresent path t with ⟨e | ⟨⟩, t'⟩ <;> rfl

lemma remove_of_goTo_error (hpath : LeadsInto path directory name)
    (h : t.goTo directory = .error e) :
    remove path t = (if e = .missing then .ok () else .error (.unremoved path e), t) := by
  rw [remove_eq, removeIfPresent_of_goTo_error hpath h]
  split <;> rfl

lemma remove_of_goTo (hpath : LeadsInto path directory name) (h : t.goTo directory = .ok l) :
    remove path t =
      if t.get? (locationOf path) = some .directory then (.error (.unremoved path .isDirectory), t)
      else (.ok (), t.withoutFile (locationOf path)) := by
  rw [remove_eq, removeIfPresent_of_goTo hpath h]
  split <;> rfl

lemma unpublish_of_goTo_error (h : t.goTo directory = .error e) :
    unpublish directory t =
      (if e = .missing then .ok () else .error (.unremoved (scriptPath directory) e), t) := by
  have hscript := remove_of_goTo_error (leadsInto_scriptPath directory) h
  have hrules := remove_of_goTo_error (leadsInto_rulesPath directory) h
  split
  · next hmissing =>
    rw [if_pos hmissing] at hscript hrules
    rw [unpublish, Task.bind_of_ok hscript, hrules]
  · next hother =>
    rw [if_neg hother] at hscript
    exact Task.bind_of_error hscript _

/-- From its directory both files are removed, the script first. A directory in the place of the
rule table is only noticed when the script is gone. -/
lemma unpublish_of_goTo (h : t.goTo directory = .ok l) :
    unpublish directory t =
      let t' := t.withoutFile (locationOf (scriptPath directory))
      if t.get? (locationOf (scriptPath directory)) = some .directory then
        (.error (.unremoved (scriptPath directory) .isDirectory), t)
      else if t.get? (locationOf (rulesPath directory)) = some .directory then
        (.error (.unremoved (rulesPath directory) .isDirectory), t')
      else (.ok (), t'.withoutFile (locationOf (rulesPath directory))) := by
  have hscript := remove_of_goTo (leadsInto_scriptPath directory) h
  dsimp only
  split
  · next hdirectory =>
    rw [if_pos hdirectory] at hscript
    exact Task.bind_of_error hscript _
  · next hfile =>
    rw [if_neg hfile] at hscript
    rw [unpublish, Task.bind_of_ok hscript,
      remove_of_goTo (leadsInto_rulesPath directory) (goTo_withoutFile h hfile),
      get?_withoutFile_of_ne _ (locationOf_scriptPath_ne directory).symm]

/-- What has been taken back has been removed, or the directory is missing. -/
lemma of_unpublish (h : (unpublish directory t).1 = .ok ()) :
    t.goTo directory = .error .missing ∧ (unpublish directory t).2 = t ∨
    ∃ l, t.goTo directory = .ok l ∧
      t.get? (locationOf (scriptPath directory)) ≠ some .directory ∧
      t.get? (locationOf (rulesPath directory)) ≠ some .directory ∧
      (unpublish directory t).2 = (t.withoutFile (locationOf (scriptPath directory))).withoutFile
        (locationOf (rulesPath directory)) := by
  rcases hgo : t.goTo directory with e | l
  · rw [unpublish_of_goTo_error hgo] at h ⊢
    by_cases he : e = .missing
    · rw [he]
      exact .inl ⟨rfl, rfl⟩
    · simp [he] at h
  · rw [unpublish_of_goTo hgo] at h ⊢
    dsimp only at h ⊢
    split at h
    · simp at h
    next hscript =>
    split at h
    · simp at h
    next hrules =>
    rw [if_neg hscript, if_neg hrules]
    exact .inr ⟨l, rfl, hscript, hrules, rfl⟩

/-! ## What is left alone -/

/-- At all places where nothing is published, a tree is the same as another but for directories that
have been made on the way to the directory of the host. -/
def LeavesOthers (directory : String) (t t' : FileTree) : Prop :=
  ∀ m, Avoids directory m → AddsAt (OnWay directory) t t' m

lemma LeavesOthers.trans (h : LeavesOthers directory t t') (h' : LeavesOthers directory t' t'') :
    LeavesOthers directory t t'' :=
  fun m hm => (h m hm).trans (h' m hm)

lemma write_leavesOthers (directory : String) (p : Payload) (t : FileTree) :
    LeavesOthers directory t (write directory p t).2 := by
  refine Task.bind_related (R := LeavesOthers directory) LeavesOthers.trans (fun t m _ => ?_)
    (fun _ => Task.bind_related (R := LeavesOthers directory) LeavesOthers.trans
      (fun t m hm => .inl ?_) fun _ t m hm => .inl ?_) t
  · exact FileAction.makeDirectories_adds directory t m
  · exact FileAction.get?_writeText_of_ne (hm.target p) p.text t
  · exact FileAction.get?_removeIfPresent_of_ne (hm.stale p) t

lemma apply_retains (h : Avoids directory l) (p : Payload) (t : FileTree) :
    Retains l t ((publishing directory).apply p t).world := by
  have hwrite : FileAction.Retains l (write directory p) :=
    .bind (.makeDirectories directory) fun _ =>
      .bind (.writeText (h.target p) p.text) fun _ => .removeIfPresent (h.stale p)
  rw [world_apply]
  exact hwrite t

/-- To go back, files are removed that were published, and that is all. -/
lemma clear_keeps {I : FileTree → Prop}
    (h : ∀ path ∈ [scriptPath directory, rulesPath directory], ∀ t, I t →
      I (FileAction.removeIfPresent path t).2) {t : FileTree} (ht : I t) :
    I ((publishing directory).clear t).world := by
  have hremove {path : String} (hpath : path ∈ [scriptPath directory, rulesPath directory])
      (t : FileTree) (ht : I t) : I (remove path t).2 := by
    rw [remove_eq]
    exact h path hpath t ht
  rw [world_clear]
  exact Task.bind_related (R := fun t t' => I t → I t') (fun h h' => h' ∘ h)
    (hremove (by simp)) (fun _ => hremove (by simp)) t ht

lemma clear_retains (h : Avoids directory l) (t : FileTree) :
    Retains l t ((publishing directory).clear t).world := by
  refine clear_keeps (I := Retains l t) (fun path hpath t' ht' => ?_) (.refl l t)
  exact ht'.trans (FileAction.Retains.removeIfPresent (h.ne_of_mem hpath) t')

lemma get?_clear (h : Avoids directory m) (t : FileTree) :
    ((publishing directory).clear t).world.get? m = t.get? m := by
  refine clear_keeps (I := fun t' => t'.get? m = t.get? m) (fun path hpath t' ht' => ?_) rfl
  rw [FileAction.get?_removeIfPresent_of_ne (h.ne_of_mem hpath), ht']

lemma run_leavesOthers (directory : String) (calls : List HostCall) (t : FileTree) :
    LeavesOthers directory t ((publishing directory).run calls t) := by
  induction calls generalizing t with
  | nil => exact fun _ _ => .inl rfl
  | cons c calls ih =>
    refine LeavesOthers.trans ?_ (ih _)
    cases c with
    | apply p =>
      have hwrite := write_leavesOthers directory p t
      rwa [← world_apply] at hwrite
    | clear => exact fun m hm => .inl (get?_clear hm t)

/-! ## What is published -/

/-- From one tree to the next, a payload has been published. -/
structure Publishes (directory : String) (p : Payload) (t t' : FileTree) : Prop where
  /-- Its file holds its text. -/
  text : t'.readText (target directory p) = .ok p.text
  /-- There is no file of the other kind. -/
  alone : t'.readText (stale directory p) = .error .missing
  /-- All else is left alone. -/
  others : LeavesOthers directory t t'
  /-- A rule table can be read back. -/
  readBack : ∀ table, p = .rules table →
    ∃ s, t'.readText (rulesPath directory) = .ok s ∧ RuleTable.ofText s = .ok table

/-- From one tree to the next, what was published has been taken back. -/
structure Unpublishes (directory : String) (t t' : FileTree) : Prop where
  /-- There is no script. -/
  script : t'.readText (scriptPath directory) = .error .missing
  /-- There is no rule table. -/
  rules : t'.readText (rulesPath directory) = .error .missing
  /-- Nothing else has changed. -/
  others : ∀ m, Avoids directory m → t'.get? m = t.get? m
  /-- To go back once more changes nothing. -/
  again : (publishing directory).clear t' = ⟨.ok (), t', []⟩

lemma publishes_of_result (h : ((publishing directory).apply p t).result = .ok ()) :
    Publishes directory p t ((publishing directory).apply p t).world := by
  obtain ⟨t', l, hgo, hfile, hother, hwrite⟩ := of_write (result_apply_eq_ok_iff.1 h)
  have hothers := write_leavesOthers directory p t
  rw [world_apply]
  rw [hwrite] at hothers ⊢
  have hne := locationOf_target_ne directory p
  have hother' : (t'.set (locationOf (target directory p)) (.text p.text)).get?
      (locationOf (stale directory p)) ≠ some .directory := by
    rwa [get?_set_of_ne _ hne.symm]
  -- the directory stays where it is
  have hgo' := goTo_withoutFile (goTo_set hgo hfile p.text) hother'
  have htext : ((t'.set (locationOf (target directory p)) (.text p.text)).withoutFile
      (locationOf (stale directory p))).readText (target directory p) = .ok p.text := by
    obtain ⟨name, hleads⟩ := exists_leadsInto_target directory p
    rw [readText_eq_bind hleads, hgo', get?_withoutFile_of_ne _ hne,
      get?_set_self _ (locationOf_target_ne_nil directory p)]
    rfl
  refine ⟨htext, ?_, hothers, ?_⟩
  · obtain ⟨name, hleads⟩ := exists_leadsInto_stale directory p
    rw [readText_eq_bind hleads, hgo', get?_withoutFile_self hother']
    rfl
  · rintro table rfl
    exact ⟨_, htext, (RuleTable.ofText_written table).2⟩

lemma eq_none_of_textOf {x : Option Entry} (h : textOf x = .error .missing) : x = none := by
  rcases x with _ | _ | _ | _ <;> simp_all [textOf]

/-- If neither file is there, there is nothing to take back. -/
lemma clear_of_missing (hscript : t.readText (scriptPath directory) = .error .missing)
    (hrules : t.readText (rulesPath directory) = .error .missing) :
    (publishing directory).clear t = ⟨.ok (), t, []⟩ := by
  refine clear_of_ok ?_
  rw [readText_eq_bind (leadsInto_scriptPath directory)] at hscript
  rw [readText_eq_bind (leadsInto_rulesPath directory)] at hrules
  rcases hgo : t.goTo directory with e | l <;> rw [hgo, Except.bind] at hscript hrules
  · rw [unpublish_of_goTo_error hgo, if_pos (Except.error.inj hscript)]
  · have hscript' := eq_none_of_textOf hscript
    have hrules' := eq_none_of_textOf hrules
    rw [unpublish_of_goTo hgo]
    simp [hscript', hrules', withoutFile_of_none]

/-- Neither file is there when both have been taken back. -/
lemma readText_of_unpublish (h : (unpublish directory t).1 = .ok ()) :
    (unpublish directory t).2.readText (scriptPath directory) = .error .missing ∧
    (unpublish directory t).2.readText (rulesPath directory) = .error .missing := by
  rw [readText_eq_bind (leadsInto_scriptPath directory),
    readText_eq_bind (leadsInto_rulesPath directory)]
  rcases of_unpublish h with ⟨hgo, hsame⟩ | ⟨l, hgo, hscript, hrules, hremoved⟩
  · rw [hsame, hgo]
    exact ⟨rfl, rfl⟩
  · have hne := locationOf_scriptPath_ne directory
    have hrules' : (t.withoutFile (locationOf (scriptPath directory))).get?
        (locationOf (rulesPath directory)) ≠ some .directory := by
      rwa [get?_withoutFile_of_ne _ hne.symm]
    rw [hremoved, goTo_withoutFile (goTo_withoutFile hgo hscript) hrules',
      get?_withoutFile_of_ne _ hne, get?_withoutFile_self hscript, get?_withoutFile_self hrules']
    exact ⟨rfl, rfl⟩

lemma unpublishes_of_result (h : ((publishing directory).clear t).result = .ok ()) :
    Unpublishes directory t ((publishing directory).clear t).world := by
  obtain ⟨hscript, hrules⟩ := readText_of_unpublish (result_clear_eq_ok_iff.1 h)
  rw [← world_clear] at hscript hrules
  exact ⟨hscript, hrules, fun m hm => get?_clear hm t, clear_of_missing hscript hrules⟩

/-- Whatever calls came before, and whether the host accepted them or not, they have left all places
alone at which nothing is published. A payload that the host accepts next is published as the only
one. If it accepts to go back, nothing is published any more, and to go back again is accepted and
changes nothing. The directories that it may make on the way are those in which its own one lies,
unless the path of its own one goes up. -/
theorem accepted_calls_publish (directory : String) (t : FileTree) (calls : List HostCall) :
    let host := publishing directory
    let before := host.run calls t
    LeavesOthers directory t before ∧
    (∀ p, (host.apply p before).result = .ok () →
      Publishes directory p before (host.apply p before).world) ∧
    ((host.clear before).result = .ok () →
      Unpublishes directory before (host.clear before).world) ∧
    ((∀ n ∈ Text.pieces '/' directory.toList, n ≠ ['.', '.']) →
      ∀ m, OnWay directory m → m <:+ locationOf directory) :=
  ⟨run_leavesOthers directory calls t, fun _ => publishes_of_result, unpublishes_of_result,
    fun hdots _ => suffix_of_onWay hdots⟩

/-- A payload of each kind. -/
def payloadSample (mode : PolicyMode) : Payload :=
  (Profile.ofDraft "1" ((Draft.new "P" .http "10.0.0.1" 8080).withPolicy mode ["a.com"])).compile

/-- The tree after the first calls to a host whose directory is missing at first. -/
def treeSample (calls : Nat) : FileTree :=
  (publishing "proxy").run
    ([.apply (payloadSample .whitelist), .apply (payloadSample .blacklist)].take calls) .empty

/-- A script is published, then a rule table instead, and this is taken back. -/
theorem accepted_calls_publish_sample :
    Publishes "proxy" (payloadSample .whitelist) (treeSample 0)
      ((publishing "proxy").apply (payloadSample .whitelist) (treeSample 0)).world ∧
    Publishes "proxy" (payloadSample .blacklist) (treeSample 1)
      ((publishing "proxy").apply (payloadSample .blacklist) (treeSample 1)).world ∧
    Unpublishes "proxy" (treeSample 2) ((publishing "proxy").clear (treeSample 2)).world := by
  refine ⟨?_, ?_, ?_⟩
  · exact (accepted_calls_publish "proxy" .empty _).2.1 _ (by decide +kernel)
  · exact (accepted_calls_publish "proxy" .empty _).2.1 _ (by decide +kernel)
  · exact (accepted_calls_publish "proxy" .empty _).2.2.1 (by decide +kernel)

end Publishing

end Host

end ProxyProfiles

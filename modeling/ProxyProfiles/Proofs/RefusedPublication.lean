import ProxyProfiles.Proofs.Publication
/-!
# What stays published when the publishing host fails

The host may fail half way. It finds out only after it has written a payload that a directory stands
in the place of the file of the other kind, and only after it has removed the script that one stands
in the place of the rule table. Then what was published is gone although the call has failed
(`failed_calls_lose_script`).

In all other cases both files are as they were before a call that fails
(`failed_calls_keep_iff`). A directory that was made before the failure takes the place of neither,
unless the path of the directory of the host goes up.
-/

namespace ProxyProfiles.Host.Publishing

open FileTree

/-- What stands in the places of both files is the same. -/
structure Kept (directory : String) (t t' : FileTree) : Prop where
  script : t'.get? (locationOf (scriptPath directory)) = t.get? (locationOf (scriptPath directory))
  rules : t'.get? (locationOf (rulesPath directory)) = t.get? (locationOf (rulesPath directory))

/-- A payload replaces what is published although it cannot be published itself: it can be written
and is new, but a directory stands in the place of the file of the other kind. -/
structure Replaces (directory : String) (p : Payload) (t : FileTree) : Prop where
  made : (FileAction.makeDirectories directory t).1 = .ok ()
  file : t.get? (locationOf (target directory p)) ≠ some .directory
  new : t.get? (locationOf (target directory p)) ≠ some (.text p.text)
  stale : t.get? (locationOf (stale directory p)) = some .directory

/-- Only half of what is published can be taken back: there is a script, but a directory stands in
the place of the rule table. -/
structure Halves (directory : String) (t : FileTree) : Prop where
  reached : ∃ l, t.goTo directory = .ok l
  script : ∃ e, t.get? (locationOf (scriptPath directory)) = some e ∧ e ≠ .directory
  rules : t.get? (locationOf (rulesPath directory)) = some .directory

variable {directory : String} {p : Payload} {t t' : FileTree} {e : Error}

lemma Kept.refl (directory : String) (t : FileTree) : Kept directory t t := ⟨rfl, rfl⟩

lemma kept_iff (p : Payload) : Kept directory t t' ↔
    t'.get? (locationOf (target directory p)) = t.get? (locationOf (target directory p)) ∧
    t'.get? (locationOf (stale directory p)) = t.get? (locationOf (stale directory p)) := by
  cases p
  · exact ⟨fun h => ⟨h.script, h.rules⟩, fun h => ⟨h.1, h.2⟩⟩
  · exact ⟨fun h => ⟨h.rules, h.script⟩, fun h => ⟨h.2, h.1⟩⟩

/-! ## Payloads -/

/-- Making the directory takes the place of neither file if its path does not go up. -/
lemma kept_makeDirectories (hdots : ∀ n ∈ Text.pieces '/' directory.toList, n ≠ ['.', '.'])
    (t : FileTree) : Kept directory t (FileAction.makeDirectories directory t).2 := by
  have hplace {path name : String} (hpath : LeadsInto path directory name) :
      (FileAction.makeDirectories directory t).2.get? (locationOf path) =
        t.get? (locationOf path) := by
    refine (FileAction.makeDirectories_adds directory t (locationOf path)).resolve_right ?_
    rintro ⟨-, -, hway⟩
    -- the file lies in the directory, so it is not on the way there
    have hsuffix := suffix_of_onWay hdots hway
    rw [hpath.location] at hsuffix
    exact not_cons_suffix name _ hsuffix
  exact ⟨hplace (leadsInto_scriptPath directory), hplace (leadsInto_rulesPath directory)⟩

/-- A payload that has been written is there, and before it only if it is not new. -/
lemma kept_set_iff (hmade : FileAction.makeDirectories directory t = (.ok (), t')) :
    Kept directory t (t'.set (locationOf (target directory p)) (.text p.text)) ↔
      Kept directory t t' ∧ t.get? (locationOf (target directory p)) = some (.text p.text) := by
  have hadds := FileAction.makeDirectories_adds directory t (locationOf (target directory p))
  rw [hmade] at hadds
  rw [kept_iff p, kept_iff p, get?_set_self _ (locationOf_target_ne_nil directory p),
    get?_set_of_ne _ (locationOf_target_ne directory p).symm]
  constructor
  · rintro ⟨htarget, hstale⟩
    exact ⟨⟨(hadds.get?_eq_some htarget.symm).trans htarget, hstale⟩, htarget.symm⟩
  · rintro ⟨⟨-, hstale⟩, htarget⟩
    exact ⟨htarget.symm, hstale⟩

/-- A payload that cannot be published leaves both files, unless it replaces what is published or
its directory does. -/
lemma kept_apply_iff (h : ((publishing directory).apply p t).result = .error e) :
    Kept directory t ((publishing directory).apply p t).world ↔
      Kept directory t (FileAction.makeDirectories directory t).2 ∧ ¬ Replaces directory p t := by
  have hfailed : (write directory p t).1 ≠ .ok () := by
    rw [ne_eq, ← result_apply_eq_ok_iff, h]
    simp
  rw [world_apply]
  rcases hmade : FileAction.makeDirectories directory t with ⟨e | ⟨⟩, t'⟩
  · have hnot : ¬ Replaces directory p t := fun hreplaces => by simpa [hmade] using hreplaces.made
    rw [write_of_unmade hmade]
    simp only [hnot, not_false_eq_true, and_true]
  rw [write_of_made hmade] at hfailed ⊢
  dsimp only at hfailed ⊢
  split
  · next hdirectory =>
    -- nothing has been written
    rw [iff_self_and]
    intro hkept hreplaces
    rw [((kept_iff p).1 hkept).1] at hdirectory
    exact hreplaces.file hdirectory
  next hfile =>
  rw [if_neg hfile] at hfailed
  split
  · next hstale =>
    rw [kept_set_iff hmade]
    refine and_congr_right fun hkept => ?_
    obtain ⟨htarget', hstale'⟩ := (kept_iff p).1 hkept
    constructor
    · exact fun hold hreplaces => hreplaces.new hold
    · intro hnot
      by_contra hnew
      exact hnot ⟨by rw [hmade], by rwa [htarget'] at hfile, hnew, hstale'.symm.trans hstale⟩
  · next hother =>
    rw [if_neg hother] at hfailed
    exact absurd rfl hfailed

/-! ## Going back -/

/-- If going back fails, both files are left, unless only the script could be removed. -/
lemma kept_clear_iff (h : ((publishing directory).clear t).result = .error e) :
    Kept directory t ((publishing directory).clear t).world ↔ ¬ Halves directory t := by
  have hfailed : (unpublish directory t).1 ≠ .ok () := by
    rw [ne_eq, ← result_clear_eq_ok_iff, h]
    simp
  rw [world_clear]
  rcases hgo : t.goTo directory with e | l
  · rw [unpublish_of_goTo_error hgo]
    refine iff_of_true (.refl directory t) fun hhalves => ?_
    obtain ⟨l, hreached⟩ := hhalves.reached
    simp [hgo] at hreached
  rw [unpublish_of_goTo hgo] at hfailed ⊢
  dsimp only at hfailed ⊢
  split
  · next hdirectory =>
    refine iff_of_true (.refl directory t) fun hhalves => ?_
    obtain ⟨e, he, hne⟩ := hhalves.script
    exact hne (Option.some.inj (he.symm.trans hdirectory))
  next hfile =>
  rw [if_neg hfile] at hfailed
  split
  · next hrules =>
    have hkept : Kept directory t (t.withoutFile (locationOf (scriptPath directory))) ↔
        t.get? (locationOf (scriptPath directory)) = none := by
      constructor
      · intro hkept
        rw [← hkept.script, get?_withoutFile_self hfile]
      · intro hnone
        rw [withoutFile_of_none hnone]
        exact .refl directory t
    rw [hkept]
    constructor
    · intro hnone hhalves
      obtain ⟨e, he, -⟩ := hhalves.script
      simp [hnone] at he
    · intro hnot
      by_contra hsome
      obtain ⟨e, he⟩ := Option.ne_none_iff_exists'.1 hsome
      refine hnot ⟨⟨l, hgo⟩, ⟨e, he, ?_⟩, hrules⟩
      rintro rfl
      exact hfile he
  · next hother =>
    rw [if_neg hother] at hfailed
    exact absurd rfl hfailed

/-! ## Both -/

/-- A call that fails leaves both files as they were except in these cases: a new payload could be
written, but a directory stands in the place of the other file; there is a script to take back, but
a directory stands in the place of the rule table; or, when a payload fails, a directory that was
made takes the place of a file, for which the path of the directory of the host has to go up. -/
theorem failed_calls_keep_iff (directory : String) (t : FileTree) :
    (∀ p e, ((publishing directory).apply p t).result = .error e →
      (Kept directory t ((publishing directory).apply p t).world ↔
        Kept directory t (FileAction.makeDirectories directory t).2 ∧
          ¬ Replaces directory p t)) ∧
    (∀ e, ((publishing directory).clear t).result = .error e →
      (Kept directory t ((publishing directory).clear t).world ↔ ¬ Halves directory t)) ∧
    ((∀ n ∈ Text.pieces '/' directory.toList, n ≠ ['.', '.']) →
      Kept directory t (FileAction.makeDirectories directory t).2) :=
  ⟨fun _ _ => kept_apply_iff, fun _ => kept_clear_iff, fun hdots => kept_makeDirectories hdots t⟩

/-- A script is published, and a directory stands in the place of the rule table. -/
def blockedSample : FileTree :=
  ⟨[(["proxy.pac", "proxy"], .text "old"), (["rules.json", "proxy"], .directory),
    (["proxy"], .directory)]⟩

/-- In this tree another script is refused, and so is going back. But then the other script is
published in the first case, and none in the second case. -/
theorem failed_calls_lose_script :
    blockedSample.readText "proxy/proxy.pac" = .ok "old" ∧
    (((publishing "proxy").apply (payloadSample .whitelist) blockedSample).result =
        .error (.hostApply (.unpublished .isDirectory)) ∧
      ((publishing "proxy").apply (payloadSample .whitelist) blockedSample).world.readText
        "proxy/proxy.pac" = .ok (payloadSample .whitelist).text ∧
      ¬ Kept "proxy" blockedSample
        ((publishing "proxy").apply (payloadSample .whitelist) blockedSample).world) ∧
    (((publishing "proxy").clear blockedSample).result =
        .error (.hostClear (.unremoved "proxy/rules.json" .isDirectory)) ∧
      ((publishing "proxy").clear blockedSample).world.readText "proxy/proxy.pac" =
        .error .missing ∧
      ¬ Kept "proxy" blockedSample ((publishing "proxy").clear blockedSample).world) := by
  refine ⟨by decide +kernel, ⟨by decide +kernel, by decide +kernel, fun hkept => ?_⟩,
    ⟨by decide +kernel, by decide +kernel, fun hkept => ?_⟩⟩
  · exact absurd hkept.script (by decide +kernel)
  · exact absurd hkept.script (by decide +kernel)

end ProxyProfiles.Host.Publishing

import ProxyProfiles.World
import ProxyProfiles.Proofs.FileStore
import ProxyProfiles.Proofs.FileTree.Retention
/-!
# Stores give back what was saved

A store is *lawful* if loading changes nothing and a part of the roster that was saved with success
is loaded again, together with the other part as it was. Nothing is said about saving that fails.
The store in memory is lawful, and so is the store in a file at any path (`Store.lawful_file`): the
path leads to the same place after the file was written, whatever directories were made for it.

A file that was saved or read once is also found again after other files have changed
(`load_of_retains`). That is not so for a file that is missing, as directories that are made may
lead to another one.
-/

namespace ProxyProfiles

open Text FileTree

variable {ω σ : Type}

namespace Store

/-- What was saved is loaded. -/
structure Lawful (st : Store ω) : Prop where
  world_load : ∀ w, (st.load w).world = w
  load_saveProfiles : ∀ {w : ω} {r : Roster} (ps : List Profile), (st.load w).result = .ok r →
    (st.saveProfiles ps w).result = .ok () →
    (st.load (st.saveProfiles ps w).world).result = .ok { r with profiles := ps }
  load_saveActive : ∀ {w : ω} {r : Roster} (id : Option String), (st.load w).result = .ok r →
    (st.saveActive id w).result = .ok () →
    (st.load (st.saveActive id w).world).result = .ok { r with activeId := id }

lemma lawful_memory : Lawful memory where
  world_load _ := rfl
  load_saveProfiles ps h _ := by
    obtain rfl := Except.ok.inj h
    rfl
  load_saveActive id h _ := by
    obtain rfl := Except.ok.inj h
    rfl

/-- A lawful store is lawful on a part of a larger world. -/
lemma Lawful.within {st : Store σ} (h : st.Lawful) {get : ω → σ} {put : σ → ω → ω}
    (hget : ∀ s w, get (put s w) = s) (hput : ∀ w, put (get w) w = w) :
    (st.within get put).Lawful where
  world_load w := by simp [Store.within, Outcome.within, h.world_load, hput]
  load_saveProfiles ps hload hsave := by
    simpa [Store.within, Outcome.within, hget] using h.load_saveProfiles ps hload hsave
  load_saveActive id hload hsave := by
    simpa [Store.within, Outcome.within, hget] using h.load_saveActive id hload hsave

lemma lawful_memoryStore : World.memoryStore.Lawful :=
  lawful_memory.within (fun _ _ => rfl) fun _ => rfl

/-! ## The store in a file -/

namespace File

variable {path s : String} {t t' : FileTree} {r : Roster}

lemma world_load (path : String) (t : FileTree) : (load path t).world = t := by
  rw [load]
  split <;> rfl

/-- What is loaded from a text. -/
lemma result_load (h : t.readText path = .ok s) :
    (load path t).result = if isBlankText s then .ok {} else (Roster.ofText s).mapError .json := by
  rw [load, h]

lemma result_load_text (h : t.readText path = .ok r.text) : (load path t).result = .ok r := by
  have hread : Roster.ofText r.text = .ok r := Roster.ofText_text r
  simp [result_load h, FileStore.isBlankText_of_ofText hread, hread, Except.mapError]

/-- Profiles can only be loaded from a file that is there. -/
lemma exists_text_of_load (h : (load path t).result = .ok r) (hr : r.profiles ≠ []) :
    ∃ s, t.readText path = .ok s := by
  rw [load] at h
  split at h
  · next s hs => exact ⟨s, hs⟩
  · obtain rfl := Except.ok.inj h
    exact absurd rfl hr
  · contradiction

/-- As long as its place is retained, a file that is there is loaded as before. -/
lemma result_load_of_retains (h : Retains (locationOf path) t t') (hs : t.readText path = .ok s) :
    (load path t').result = (load path t).result := by
  rw [result_load hs, result_load (readText_of_retains h hs)]

lemma load_of_retains (h : Retains (locationOf path) t t') (hload : (load path t).result = .ok r)
    (hr : r.profiles ≠ []) : (load path t').result = .ok r := by
  obtain ⟨s, hs⟩ := exists_text_of_load hload hr
  rw [result_load_of_retains h hs, hload]

/-- Makes the directories above a file. -/
def makeAbove (path : String) : FileAction Unit :=
  match parent? path with
  | none => pure ()
  | some directory => FileAction.makeDirectories directory

lemma makeAbove_retains (l : Location) (path : String) : FileAction.Retains l (makeAbove path) := by
  rw [makeAbove]
  split
  · exact .pure ()
  · exact .makeDirectories _

lemma write_eq (path : String) (r : Roster) :
    write path r = makeAbove path >>= fun _ => FileAction.writeText path r.text := by
  rw [write, makeAbove]
  cases parent? path <;> rfl

/-- Whatever becomes of writing a roster, only the file itself can change. -/
lemma write_cases (path : String) (r : Roster) (t : FileTree) :
    (∃ t₁ t' : FileTree, t₁.writeText path r.text = .ok t' ∧ write path r t = (.ok (), t')) ∨
      ∃ e t', write path r t = (.error e, t') ∧ Retains (locationOf path) t t' := by
  -- whether the directories can be made or not, the file is as it was until the text is written
  have habove := makeAbove_retains (locationOf path) path t
  rw [write_eq, Task.bind_apply]
  rcases hmade : makeAbove path t with ⟨e | ⟨⟩, t₁⟩ <;> rw [hmade] at habove
  · exact .inr ⟨e, t₁, rfl, habove⟩
  · simp only [FileAction.writeText, FileAction.change]
    rcases hwritten : t₁.writeText path r.text with e | t'
    · exact .inr ⟨e, t₁, rfl, habove⟩
    · exact .inl ⟨t₁, t', hwritten, rfl⟩

/-- A change that succeeds has written the roster; one that fails has not touched the file. -/
lemma change_cases (h : (load path t).result = .ok r) (f : Roster → Roster)
    (report : List Record) :
    ((change path f report t).result = .ok () ∧
      (change path f report t).world.readText path = .ok (f r).text) ∨
    (∃ e, (change path f report t).result = .error e) ∧
      Retains (locationOf path) t (change path f report t).world := by
  rcases write_cases path (f r) t with ⟨t₁, t', htext, hwrite⟩ | ⟨e, t', hwrite, hretains⟩
  · have hrun : (write path (f r)).run t = (.ok (), t') := hwrite
    simp only [change, h, hrun]
    exact .inl ⟨trivial, readText_of_writeText htext⟩
  · have hrun : (write path (f r)).run t = (.error e, t') := hwrite
    simp only [change, h, hrun]
    exact .inr ⟨⟨_, rfl⟩, hretains⟩

lemma load_change (h : (load path t).result = .ok r) {f : Roster → Roster}
    {report : List Record} (hchange : (change path f report t).result = .ok ()) :
    (load path (change path f report t).world).result = .ok (f r) := by
  rcases change_cases h f report with ⟨-, htext⟩ | ⟨⟨e, he⟩, -⟩
  · exact result_load_text htext
  · rw [he] at hchange
    contradiction

end File

/-- The store in a file is lawful, whatever its path. -/
theorem lawful_file (path : String) : (file path).Lawful where
  world_load := File.world_load path
  load_saveProfiles _ h hsave := File.load_change h hsave
  load_saveActive _ h hsave := File.load_change h hsave

end Store

end ProxyProfiles

import ProxyProfiles.Proofs.FileTree.Directories
import ProxyProfiles.Proofs.StoredForm
import ProxyProfiles.Store.File
/-!
# The store in a file refines the store in memory

A file at a plain path holds a roster, or it holds something that no roster is read from
(`FileStore.Holds`).

* If it holds a roster, every sequence of calls is answered as by the store in memory that begins
  with this roster. The file is the only one that changes; missing directories above it are made.
* Otherwise every call fails with the error that reading the file gives, and nothing changes.

Each save reads the file, replaces a part of the roster and writes the whole again, so the first
point rests on rosters being read back as they were written (`Roster.ofText_text`).
-/

namespace ProxyProfiles

open Text FileTree

/-! ## Sequences of calls -/

namespace Store

/-- A call of a store. -/
inductive Call where
  /-- Asks for the roster. -/
  | load
  /-- Saves a list of profiles. -/
  | saveProfiles (ps : List Profile)
  /-- Saves an active id, or none. -/
  | saveActive (id : Option String)

variable {ω : Type}

/-- Makes a call: the answer, with the roster if one was asked for, and the world afterwards. -/
def perform (s : Store ω) (w : ω) : Call → Except Error (Option Roster) × ω
  | .load => ((s.load w).result.map some, (s.load w).world)
  | .saveProfiles ps =>
    ((s.saveProfiles ps w).result.map fun _ => none, (s.saveProfiles ps w).world)
  | .saveActive id => ((s.saveActive id w).result.map fun _ => none, (s.saveActive id w).world)

/-- Makes calls one after another: their answers, and the world after the last one. -/
def run (s : Store ω) (w : ω) : List Call → List (Except Error (Option Roster)) × ω
  | [] => ([], w)
  | c :: cs =>
    ((s.perform w c).1 :: (s.run (s.perform w c).2 cs).1, (s.run (s.perform w c).2 cs).2)

end Store

namespace FileStore

/-! ## What a file holds -/

/-- What a store finds in a file, by what stands in its place. -/
inductive Holds : Option Entry → Except Error Roster → Prop
  | missing : Holds none (.ok {})
  | blank {s : String} (h : isBlankText s = true) : Holds (some (.text s)) (.ok {})
  | roster {s : String} {r : Roster} (h : Roster.ofText s = .ok r) : Holds (some (.text s)) (.ok r)
  | notText {bytes : List UInt8} : Holds (some (.binary bytes)) (.error (.file .notText))
  | notRoster {s : String} {e : Json.Fault} (hblank : isBlankText s = false)
    (h : Roster.ofText s = .error e) : Holds (some (.text s)) (.error (.json e))

/-- Whatever stands in place of a file, if it is no directory, a store finds something in it. -/
lemma exists_holds {o : Option Entry} (h : o ≠ some .directory) : ∃ c, Holds o c := by
  rcases o with _ | s | bytes | _
  · exact ⟨_, .missing⟩
  · by_cases hblank : isBlankText s = true
    · exact ⟨_, .blank hblank⟩
    · rcases hread : Roster.ofText s with e | r
      · exact ⟨_, .notRoster (by simpa using hblank) hread⟩
      · exact ⟨_, .roster hread⟩
  · exact ⟨_, .notText⟩
  · contradiction

/-- A text of blanks opens with no bracket. -/
lemma readRecord_of_blank {room : Nat} {wanted : String} {fields members : Json.Reader Roster}
    {s : List Char} (h : ∀ c ∈ s, isBlank c = true) :
    ∃ e, Json.readRecord room wanted fields members s = .error e := by
  have hspace : ∀ c ∈ Json.skipSpace s, isBlank c = true :=
    fun c hc => h c ((List.dropWhile_sublist _).subset hc)
  rw [Json.readRecord]
  split
  · next heq => exact absurd (hspace '[' (by rw [heq]; simp)) (by decide)
  · next heq => exact absurd (hspace '{' (by rw [heq]; simp)) (by decide)
  · exact ⟨_, rfl⟩

/-- A text that a roster is read from is not blank. -/
lemma isBlankText_of_ofText {s : String} {r : Roster} (h : Roster.ofText s = .ok r) :
    isBlankText s = false := by
  rw [Bool.eq_false_iff]
  intro hblank
  obtain ⟨e, he⟩ := readRecord_of_blank (List.all_eq_true.1 hblank)
  rw [Roster.ofText, Json.readWhole, Roster.read, he] at h
  contradiction

/-! ## One call -/

/-- Two trees agree but for one file and directories that were made above it. -/
def Spares (l : Location) (t t' : FileTree) : Prop :=
  ∀ m, m ≠ l → t'.get? m = t.get? m ∨
    (t.get? m = none ∧ t'.get? m = some .directory ∧ m <:+ l)

lemma Spares.refl (l : Location) (t : FileTree) : Spares l t t := fun _ _ => .inl rfl

lemma Spares.trans {l : Location} {t t' t'' : FileTree} (h : Spares l t t')
    (h' : Spares l t' t'') : Spares l t t'' := by
  intro m hm
  rcases h' m hm with heq | ⟨hnone, hdir, hl⟩
  · rw [heq]
    exact h m hm
  · rcases h m hm with heq | ⟨-, hdir', -⟩
    · exact .inr ⟨heq ▸ hnone, hdir, hl⟩
    · -- a directory that was made before is not missing
      rw [hdir'] at hnone
      contradiction

/-- A file at a path can be read and written, and holds a roster. -/
structure Keeps (path : String) (r : Roster) (t : FileTree) : Prop where
  clear : t.Clear (locationOf path).tail
  file : t.get? (locationOf path) ≠ some .directory
  holds : Holds (t.reach? (locationOf path)) (.ok r)

section Steps

variable {path : String} {t : FileTree}

lemma readText_of_plainPath (hpath : PlainPath path) (hclear : t.Clear (locationOf path).tail) :
    t.readText path = textOf (t.reach? (locationOf path)) := by
  obtain ⟨ns, n, -, -, hlocation, hleads⟩ := hpath.leadsTo
  rw [hlocation] at hclear ⊢
  exact readText_eq hleads hclear

/-- Loading gives what the file holds, and leaves the tree alone. -/
lemma load_of_holds (hpath : PlainPath path) (hclear : t.Clear (locationOf path).tail)
    {c : Except Error Roster} (h : Holds (t.reach? (locationOf path)) c) :
    (Store.File.load path t).result = c ∧ (Store.File.load path t).world = t := by
  have hread := readText_of_plainPath hpath hclear
  generalize t.reach? (locationOf path) = o at h hread
  rw [Store.File.load, hread]
  cases h with
  | missing => exact ⟨rfl, rfl⟩
  | blank hblank => simp [textOf, hblank]
  | roster hroster => simp [textOf, isBlankText_of_ofText hroster, hroster, Except.mapError]
  | notText => exact ⟨rfl, rfl⟩
  | notRoster hblank hroster => simp [textOf, hblank, hroster, Except.mapError]

/-- Where no directory stands in its place a file is written, and holds the roster. -/
lemma write_keeps (hpath : PlainPath path) (hclear : t.Clear (locationOf path).tail)
    (hfile : t.get? (locationOf path) ≠ some .directory) (r : Roster) :
    ∃ t', Store.File.write path r t = (.ok (), t') ∧ Keeps path r t' ∧
      Spares (locationOf path) t t' := by
  obtain ⟨directory, t₁, hparent, hdirectory, hmade⟩ :=
    FileAction.makeDirectories_parent hpath hclear
  obtain ⟨ns, n, -, -, hlocation, hleads⟩ := hpath.leadsTo
  rw [hlocation, List.tail_cons] at hmade
  rw [hlocation] at hfile ⊢
  -- making the directory leaves alone what stands in it, the file among it
  have hclear₁ : t₁.Clear (place ns) := .of_reach? hmade.reached
  have hfile₁ : t₁.get? (String.ofList n :: place ns) ≠ some .directory := by
    rwa [hmade.get?_cons]
  have hwrite := writeText_eq hleads hclear₁ hmade.reached hfile₁ r.text
  refine ⟨t₁.set (String.ofList n :: place ns) (.text r.text), ?_, ⟨?_, ?_, ?_⟩, ?_⟩
  · rw [Store.File.write, hparent]
    refine (Task.bind_of_ok hdirectory _).trans ?_
    simp only [FileAction.writeText, FileAction.change, hwrite]
  · rw [hlocation, List.tail_cons]
    exact .of_reach? (by rw [reach?_set_cons, hmade.reached])
  · rw [hlocation]
    simp
  · rw [hlocation, reach?_set_self hmade.reached]
    exact .roster (Roster.ofText_text r)
  · intro m hm
    rw [get?_set_of_ne _ hm]
    refine (hmade.kept m).imp_right fun hmade' => ⟨hmade'.1, ?_, ?_⟩
    · exact reach?_eq_directory_iff.1 hmade.reached m hmade'.2
    · exact hmade'.2.trans (List.suffix_cons _ _)

/-- A part of the roster is changed where it is kept. -/
lemma change_keeps (hpath : PlainPath path) {r : Roster} (h : Keeps path r t)
    (f : Roster → Roster) (report : List Record) :
    (Store.File.change path f report t).result = .ok () ∧
      Keeps path (f r) (Store.File.change path f report t).world ∧
      Spares (locationOf path) t (Store.File.change path f report t).world := by
  obtain ⟨hresult, -⟩ := load_of_holds hpath h.clear h.holds
  obtain ⟨t', hwrite, hkeeps, hspares⟩ := write_keeps hpath h.clear h.file (f r)
  have hrun : (Store.File.write path (f r)).run t = (.ok (), t') := hwrite
  simp only [Store.File.change, hresult, hrun, true_and]
  exact ⟨hkeeps, hspares⟩

/-- If nothing is read from a file, nothing is changed. -/
lemma change_of_error (hpath : PlainPath path) (hclear : t.Clear (locationOf path).tail)
    {e : Error} (h : Holds (t.reach? (locationOf path)) (.error e)) (f : Roster → Roster)
    (report : List Record) :
    (Store.File.change path f report t).result = .error e ∧
      (Store.File.change path f report t).world = t := by
  obtain ⟨hresult, -⟩ := load_of_holds hpath hclear h
  simp [Store.File.change, hresult]

/-- A call of a store whose file holds a roster is answered as by the store in memory. -/
lemma perform_keeps (hpath : PlainPath path) {r : Roster} (h : Keeps path r t) (c : Store.Call) :
    ((Store.file path).perform t c).1 = (Store.memory.perform r c).1 ∧
      Keeps path (Store.memory.perform r c).2 ((Store.file path).perform t c).2 ∧
      Spares (locationOf path) t ((Store.file path).perform t c).2 := by
  cases c with
  | load =>
    obtain ⟨hresult, hworld⟩ := load_of_holds hpath h.clear h.holds
    simp only [Store.perform, Store.file, Store.memory, hresult, hworld, true_and]
    exact ⟨h, .refl _ t⟩
  | saveProfiles ps =>
    obtain ⟨hresult, hkeeps⟩ := change_keeps hpath h (fun r => { r with profiles := ps })
      [Store.File.saved path ps]
    simp only [Store.perform, Store.file, Store.memory, hresult, true_and]
    exact hkeeps
  | saveActive id =>
    obtain ⟨hresult, hkeeps⟩ := change_keeps hpath h (fun r => { r with activeId := id }) []
    simp only [Store.perform, Store.file, Store.memory, hresult, true_and]
    exact hkeeps

/-- A call of a store whose file holds no roster fails. -/
lemma perform_of_error (hpath : PlainPath path) (hclear : t.Clear (locationOf path).tail)
    {e : Error} (h : Holds (t.reach? (locationOf path)) (.error e)) (c : Store.Call) :
    (Store.file path).perform t c = (.error e, t) := by
  cases c with
  | load =>
    obtain ⟨hresult, hworld⟩ := load_of_holds hpath hclear h
    simp [Store.perform, Store.file, hresult, hworld, Except.map]
  | saveProfiles ps =>
    obtain ⟨hresult, hworld⟩ := change_of_error hpath hclear h
      (fun r => { r with profiles := ps }) [Store.File.saved path ps]
    simp [Store.perform, Store.file, hresult, hworld, Except.map]
  | saveActive id =>
    obtain ⟨hresult, hworld⟩ := change_of_error hpath hclear h
      (fun r => { r with activeId := id }) []
    simp [Store.perform, Store.file, hresult, hworld, Except.map]

end Steps

/-! ## Runs -/

section Runs

variable {path : String} {t : FileTree}

/-- The store in memory answers every call. -/
lemma memory_run_ok (r : Roster) (cs : List Store.Call) :
    ∀ a ∈ (Store.memory.run r cs).1, ∃ o, a = .ok o := by
  induction cs generalizing r with
  | nil => simp [Store.run]
  | cons c cs ih =>
    intro a ha
    rcases List.mem_cons.1 ha with rfl | ha
    · cases c <;> exact ⟨_, rfl⟩
    · exact ih _ a ha

/-- Calls of a store whose file holds a roster are answered as by the store in memory. -/
lemma run_keeps (hpath : PlainPath path) {r : Roster} (h : Keeps path r t)
    (cs : List Store.Call) :
    ((Store.file path).run t cs).1 = (Store.memory.run r cs).1 ∧
      Spares (locationOf path) t ((Store.file path).run t cs).2 := by
  induction cs generalizing t r with
  | nil => exact ⟨rfl, .refl _ t⟩
  | cons c cs ih =>
    obtain ⟨hanswer, hkeeps, hspares⟩ := perform_keeps hpath h c
    obtain ⟨hanswers, hspares'⟩ := ih hkeeps
    exact ⟨congrArg₂ List.cons hanswer hanswers, hspares.trans hspares'⟩

/-- Calls of a store whose file holds no roster fail, and change nothing. -/
lemma run_of_error (hpath : PlainPath path) (hclear : t.Clear (locationOf path).tail) {e : Error}
    (h : Holds (t.reach? (locationOf path)) (.error e)) (cs : List Store.Call) :
    (∀ a ∈ ((Store.file path).run t cs).1, a = .error e) ∧
      ((Store.file path).run t cs).2 = t := by
  induction cs with
  | nil => simp [Store.run]
  | cons c cs ih =>
    simp only [Store.run, perform_of_error hpath hclear h c, List.mem_cons, forall_eq_or_imp,
      true_and]
    exact ih

/-- The store in a file refines the store in memory. The file holds a roster or something that no
roster is read from. In the first case every sequence of calls is answered as by the store in memory
that begins with this roster, without any error, and all else in the tree stays as it is, but for
missing directories above the file that are made. In the second case every call fails with the same
error and nothing changes. -/
theorem file_refines_memory {path : String} {t : FileTree} (hpath : PlainPath path)
    (hclear : t.Clear (locationOf path).tail) (hfile : t.get? (locationOf path) ≠ some .directory)
    (cs : List Store.Call) :
    (∃ c, Holds (t.reach? (locationOf path)) c) ∧
    (∀ r, Holds (t.reach? (locationOf path)) (.ok r) →
      ((Store.file path).run t cs).1 = (Store.memory.run r cs).1 ∧
      (∀ a ∈ ((Store.file path).run t cs).1, ∃ o, a = .ok o) ∧
      Spares (locationOf path) t ((Store.file path).run t cs).2) ∧
    (∀ e, Holds (t.reach? (locationOf path)) (.error e) →
      (∀ a ∈ ((Store.file path).run t cs).1, a = .error e) ∧
      ((Store.file path).run t cs).2 = t) := by
  refine ⟨exists_holds ?_, fun r hr => ?_, fun e he => run_of_error hpath hclear he cs⟩
  · exact fun hdir => hfile (get?_of_reach? hdir)
  · obtain ⟨hanswers, hspares⟩ := run_keeps hpath ⟨hclear, hfile, hr⟩ cs
    exact ⟨hanswers, hanswers ▸ memory_run_ok r cs, hspares⟩

/-- A store whose file and directory are missing, and one whose file is damaged. -/
theorem file_refines_memory_sample :
    let path := "data/profiles.json"
    let damaged := FileTree.ofList [(path, .binary [255])]
    let cs := [.saveActive (some "1"), .saveProfiles [], .load]
    ((Store.file path).run .empty cs).1 = [.ok none, .ok none, .ok (some ⟨[], some "1"⟩)] ∧
      ((Store.file path).run damaged cs).2 = damaged := by
  intro path damaged cs
  have hpath : PlainPath path := by decide +kernel
  have hnone : FileTree.empty.reach? (locationOf path) = none := by decide +kernel
  have hbinary : damaged.reach? (locationOf path) = some (.binary [255]) := by decide +kernel
  obtain ⟨-, hmissing, -⟩ := file_refines_memory (t := .empty) hpath (by decide +kernel)
    (by decide +kernel) cs
  obtain ⟨-, -, hdamaged⟩ := file_refines_memory (t := damaged) hpath (by decide +kernel)
    (by decide +kernel) cs
  rw [hnone] at hmissing
  rw [hbinary] at hdamaged
  exact ⟨(hmissing {} .missing).1, (hdamaged _ .notText).2⟩

end Runs

end FileStore

end ProxyProfiles

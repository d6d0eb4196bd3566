import ProxyProfiles.Config
import ProxyProfiles.Proofs.FileTree.Retention
import ProxyProfiles.Proofs.Toml.WrittenText
/-!
# Saved configurations

A configuration that is saved is the one that is loaded again, whatever texts its settings are
(`Config.load_save`). Its text has a section for each setting. Read as statements, a section gives a
header and an assignment (`Config.readStatements_section`), since the names are keys without quotes
and every text is read back from what is written for it. From the statements of all sections the
document of the configuration is put together (`Config.ofText_text_members`).
-/

namespace ProxyProfiles

open Text

namespace Toml

/-! ## Statements -/

/-- A key that is written without quotes. -/
def IsBareKey (k : List Char) : Prop :=
  k ≠ [] ∧ k.all isBare = true

instance (k : List Char) : Decidable (IsBareKey k) := inferInstanceAs (Decidable (_ ∧ _))

section Statements

variable {c : Char} {s k rest : List Char} {st : Statement} {fuel : Nat}

lemma skipSpace_cons (hc : isSpace c = false) : skipSpace (c :: s) = c :: s := by
  rw [skipSpace, List.dropWhile_cons_of_neg (by simp [hc])]

/-- A key begins like nothing else. -/
lemma IsBareKey.append_cons_eq (hk : IsBareKey k) (rest : List Char) :
    ∃ c u, k ++ rest = c :: u ∧ isSpace c = false ∧ c ∉ ['"', '\'', '[', '#', '\n', '\r'] := by
  obtain ⟨c, k, rfl⟩ := List.exists_cons_of_ne_nil hk.1
  have hc : isBare c = true := List.all_eq_true.1 hk.2 c List.mem_cons_self
  refine ⟨c, k ++ rest, rfl, ?_, fun hmem => ?_⟩
  · rw [Bool.eq_false_iff]
    intro hspace
    simp only [isSpace, Bool.or_eq_true, beq_iff_eq] at hspace
    rcases hspace with rfl | rfl <;> exact absurd hc (by decide)
  · simp only [List.mem_cons, List.not_mem_nil, or_false] at hmem
    rcases hmem with rfl | rfl | rfl | rfl | rfl | rfl <;> exact absurd hc (by decide)

lemma IsBareKey.append_ne (hk : IsBareKey k) (hc : c ∈ ['"', '\'', '[', '#', '\n', '\r'])
    (rest u : List Char) : k ++ rest ≠ c :: u := by
  obtain ⟨d, u', heq, -, hd⟩ := hk.append_cons_eq rest
  rw [heq]
  exact fun h => hd ((List.cons.inj h).1 ▸ hc)

lemma IsBareKey.skipSpace_append (hk : IsBareKey k) (rest : List Char) :
    skipSpace (k ++ rest) = k ++ rest := by
  obtain ⟨c, u, heq, hspace, -⟩ := hk.append_cons_eq rest
  rw [heq, skipSpace_cons hspace]

lemma readKey_append (hk : IsBareKey k) (hrest : ∀ c ∈ rest.head?, isBare c = false)
    (hdot : (skipSpace rest).head? ≠ some '.') :
    readKey (k ++ rest) = some (([], String.ofList k), skipSpace rest) := by
  obtain ⟨htake, hdrop⟩ := takeWhile_dropWhile_append (List.all_eq_true.1 hk.2) hrest
  have hsimple : readSimpleKey (k ++ rest) = some (String.ofList k, rest) := by
    rw [readSimpleKey, htake, hdrop, if_neg hk.1]
    · exact fun u => hk.append_ne (by decide) rest u
    · exact fun u => hk.append_ne (by decide) rest u
  have hkeys : readKeys ((k ++ rest).length + 1) (k ++ rest) =
      some ([String.ofList k], skipSpace rest) := by
    rw [readKeys, hk.skipSpace_append, hsimple]
    dsimp only [Option.bind_eq_bind, Option.bind_some]
    split
    · next hdots => exact absurd (congrArg List.head? hdots) hdot
    · rfl
  rw [readKey, hkeys]
  rfl

lemma readStatement_header (hk : IsBareKey k) (rest : List Char) :
    readStatement ('[' :: (k ++ ']' :: '\n' :: rest)) =
      some (.header [] (String.ofList k), rest) := by
  have hkey : readKey (k ++ ']' :: '\n' :: rest) =
      some (([], String.ofList k), ']' :: '\n' :: rest) :=
    readKey_append hk (by simp; decide) nofun
  have hend : skipLineEnd ('\n' :: rest) = some rest := rfl
  rw [readStatement]
  · simp [hkey, skipWord, hend]
  · exact fun u => hk.append_ne (by decide) _ u

lemma readValue_written (v : String) (fuel room : Nat) (hdouble : rest.head? ≠ some '"')
    (hsingle : rest.head? ≠ some '\'') :
    readValue (fuel + 1) room (written v.toList ++ rest) = some (.text v, rest) := by
  have hread := readText_written v hdouble hsingle
  obtain ⟨q, u, hu, rfl | rfl⟩ := written_cons_eq v.toList
  all_goals
    rw [hu, List.cons_append] at hread ⊢
    simp [readValue, hread]

lemma readStatement_assign (hk : IsBareKey k) (v : String) (rest : List Char) :
    readStatement (k ++ ' ' :: '=' :: ' ' :: (written v.toList ++ '\n' :: rest)) =
      some (.assign [] (String.ofList k) (.text v), rest) := by
  have hkey : readKey (k ++ ' ' :: '=' :: ' ' :: (written v.toList ++ '\n' :: rest)) =
      some (([], String.ofList k), '=' :: ' ' :: (written v.toList ++ '\n' :: rest)) :=
    readKey_append hk (by simp; decide) nofun
  have hspace : skipSpace (' ' :: (written v.toList ++ '\n' :: rest)) =
      written v.toList ++ '\n' :: rest := by
    obtain ⟨q, u, hu, hq⟩ := written_cons_eq v.toList
    have hq' : isSpace q = false := by rcases hq with rfl | rfl <;> rfl
    rw [hu, List.cons_append, skipSpace, List.dropWhile_cons_of_pos rfl]
    exact skipSpace_cons hq'
  rw [readStatement, hkey]
  · simp only [Option.bind_eq_bind, Option.bind_some, skipWord, if_pos, hspace]
    rw [readValue_written v _ _ (by simp) (by simp)]
    rfl
  · exact fun _ => hk.append_ne (by decide) _ _
  · exact fun _ => hk.append_ne (by decide) _ _

lemma readStatements_newline (fuel : Nat) (s : List Char) :
    readStatements (fuel + 1) ('\n' :: s) = readStatements fuel s := by
  simp only [readStatements, skipSpace_cons (show isSpace '\n' = false by decide)]

lemma readStatements_cons (hspace : isSpace c = false) (hc : c ∉ ['#', '\n', '\r'])
    (h : readStatement (c :: s) = some (st, rest)) :
    readStatements (fuel + 1) (c :: s) = (readStatements fuel rest).map (st :: ·) := by
  rw [readStatements, skipSpace_cons hspace]
  split
  · contradiction
  · next heq => exact absurd (by simp [(List.cons.inj heq).1]) hc
  · next heq => exact absurd (by simp [(List.cons.inj heq).1]) hc
  · next heq => exact absurd (by simp [(List.cons.inj heq).1]) hc
  · rw [h, Option.bind_eq_bind, Option.bind_some]
    cases hsts : readStatements fuel rest <;> simp [hsts]

end Statements

end Toml

namespace Config

/-! ## Sections -/

open Toml

section Sections

variable {heading key : String}

/-- The statements of a section. -/
def sectionStatements (heading key value : String) : List Statement :=
  [.header [] heading, .assign [] key (.text value)]

lemma readStatements_section (hheading : IsBareKey heading.toList) (hkey : IsBareKey key.toList)
    (value : String) (fuel : Nat) (rest : List Char) :
    readStatements (fuel + 2) (sectionText heading key value ++ rest) =
      (readStatements fuel rest).map (sectionStatements heading key value ++ ·) := by
  have hheader := readStatement_header hheading
    (key.toList ++ ' ' :: '=' :: ' ' :: (written value.toList ++ '\n' :: rest))
  have hassign := readStatement_assign hkey value rest
  have htext : sectionText heading key value ++ rest = '[' :: (heading.toList ++ ']' :: '\n' ::
      (key.toList ++ ' ' :: '=' :: ' ' :: (written value.toList ++ '\n' :: rest))) := by
    simp [sectionText]
  rw [String.ofList_toList] at hheader hassign
  rw [htext, readStatements_cons (by decide) (by decide) hheader]
  obtain ⟨c, u, heq, hspace, hc⟩ :=
    hkey.append_cons_eq (' ' :: '=' :: ' ' :: (written value.toList ++ '\n' :: rest))
  have hc' : c ∉ ['#', '\n', '\r'] := fun h => hc (List.mem_of_mem_drop (i := 3) h)
  rw [heq] at hassign ⊢
  rw [readStatements_cons hspace hc' hassign, Option.map_map]
  rfl

end Sections

/-- The document that is made for a configuration. -/
def members (c : Config) : Members :=
  [("store", .table .header [("path", .text c.storePath)]),
    ("host", .table .header [("output_dir", .text c.outputDirectory)]),
    ("logging", .table .header [("level", .text c.logLevel)])]

lemma ofStatements_sections (c : Config) :
    ofStatements (sectionStatements "store" "path" c.storePath ++
      (sectionStatements "host" "output_dir" c.outputDirectory ++
        sectionStatements "logging" "level" c.logLevel)) = some c.members := by
  rfl

/-- The text of a configuration makes its document. -/
lemma ofText_text_members (c : Config) : Toml.ofText c.text = some c.members := by
  have htext : c.text.toList = sectionText "store" "path" c.storePath ++ '\n' ::
      (sectionText "host" "output_dir" c.outputDirectory ++ '\n' ::
        (sectionText "logging" "level" c.logLevel ++ [])) := by
    rw [text, String.toList_ofList, List.append_nil]
  -- two statements and a blank line for each section
  obtain ⟨n, hn⟩ : ∃ n, c.text.toList.length + 1 = n + 9 := by
    refine Nat.exists_eq_add_of_le' ?_
    rw [htext]
    simp [sectionText]
  have hread : readStatements (n + 9) c.text.toList =
      some (sectionStatements "store" "path" c.storePath ++
        (sectionStatements "host" "output_dir" c.outputDirectory ++
          sectionStatements "logging" "level" c.logLevel)) := by
    rw [htext, readStatements_section (by decide) (by decide), readStatements_newline,
      readStatements_section (by decide) (by decide), readStatements_newline,
      readStatements_section (by decide) (by decide)]
    rfl
  have hmark : withoutMark c.text.toList = c.text.toList := by
    rw [htext]
    rfl
  rw [Toml.ofText, hmark, hn, hread]
  exact ofStatements_sections c

/-- A configuration is read from its text. -/
theorem ofText_text (c : Config) : ofText c.text = .ok c := by
  rw [ofText, ofText_text_members]
  rfl

/-! ## Files -/

/-- If any text can be written to a file, then so can every configuration, and what is loaded from
the file afterwards is this configuration, whatever texts its settings are. -/
theorem load_save {path s : String} {t t₀ : FileTree} (h : t.writeText path s = .ok t₀)
    (c : Config) :
    ∃ t' c', c.save path t = .ok t' ∧ load path t' = .ok c' ∧
      c'.storePath = c.storePath ∧ c'.outputDirectory = c.outputDirectory ∧
      c'.logLevel = c.logLevel ∧ c'.check = c.check := by
  obtain ⟨t', hwrite⟩ := FileTree.exists_writeText h c.text
  have hread : t'.readText path = .ok c.text := FileTree.readText_of_writeText hwrite
  refine ⟨t', c, ?_, ?_, rfl, rfl, rfl, rfl⟩
  · rw [save, hwrite]
    rfl
  · rw [load, hread]
    dsimp only
    rw [ofText_text]
    rfl

/-- Settings with quotes of both kinds, backslashes, a line break and control characters, each of
which is written in another style. -/
theorem load_save_sample :
    let c : Config := ⟨"\n'''\"\"\"\\", "it's \\\"so\"''", "\x01\t\r"⟩
    ∃ t' c', c.save "config.toml" .empty = .ok t' ∧ load "config.toml" t' = .ok c' ∧
      c'.storePath = c.storePath ∧ c'.outputDirectory = c.outputDirectory ∧
      c'.logLevel = c.logLevel ∧ c'.check = c.check :=
  load_save (s := "") rfl _

end Config

end ProxyProfiles

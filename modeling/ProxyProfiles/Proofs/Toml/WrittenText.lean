import ProxyProfiles.Toml.Lexeme
import ProxyProfiles.Toml.Writer
import Mathlib.Tactic.IntervalCases
import Mathlib.Tactic.Lemma
/-!
# Reading written texts of a TOML document

A text is read back from what is written for it (`readText_written`), whatever characters it has.
There is a lemma for each of the four styles. Two of them never escape, and a text is written in
them only if it holds what their readers take as it is (`Style.of_eq_literal`,
`Style.of_eq_multiLiteral`). In the other two every text can be written.

Between three quotes it matters which quotes close a text. A reader closes it at the first three in
a row and then takes up to two more, which gives the text back since three in a row are only found
where the text has nothing but quotes left (`eq_replicate_of_escapeLines`,
`eq_replicate_of_hasTriple`).
-/

namespace ProxyProfiles.Toml

open Text

/-! ## Characters -/

section Characters

variable {a b c d e : Char} {s : List Char}

lemma isPlain_of_isHardControl (hc : isHardControl c = false) (hline : c ≠ '\n') :
    isPlain c = true := by
  have hline' : c.toNat ≠ 10 := fun h => hline (Char.toNat_inj.1 h)
  simp only [isHardControl, isPlain, Bool.or_eq_false_iff, Bool.and_eq_false_iff, Bool.or_eq_true,
    Bool.and_eq_true, decide_eq_true_eq, decide_eq_false_iff_not, bne_eq_false_iff_eq, beq_iff_eq,
    beq_eq_false_iff_ne, bne_iff_ne] at hc ⊢
  rcases hc with ⟨(hlow | rfl) | rfl, hc⟩
  · exact .inr ⟨by omega, hc⟩
  · exact .inl rfl
  · exact absurd rfl hline

lemma codePoint?_fourUpper (hc : c.toNat < 65536) :
    codePoint? (Hexadecimal.fourUpper c.toNat) = some c := by
  have hvalid : c.toNat.isValidChar := c.valid
  simp [codePoint?, Hexadecimal.value?_fourUpper hc, hvalid, Char.ofNat_toNat]

/-- A character is written as a letter behind a backslash, by its code point, or as it is. -/
lemma escape_cases (c : Char) :
    (∃ e, escape c = ['\\', e] ∧ simpleEscape? e = some c) ∨
      escape c = '\\' :: 'u' :: Hexadecimal.fourUpper c.toNat ∧ c.toNat < 65536 ∨
      escape c = [c] ∧ isPlain c = true ∧ c ≠ '\\' ∧ c ≠ '\r' := by
  unfold escape
  split
  case h_6 hreturn hback =>
    split
    · next h => exact .inr (.inl ⟨rfl, by omega⟩)
    · next h =>
      exact .inr (.inr ⟨rfl, by simp [isPlain]; omega, hback, hreturn⟩)
  all_goals exact .inl ⟨_, rfl, rfl⟩

lemma escape_eq_cons (c : Char) :
    ∃ d u, escape c = d :: u ∧ (d = c ∧ c ≠ '\r' ∨ d = '\\') := by
  obtain ⟨e, hescape, -⟩ | ⟨hescape, -⟩ | ⟨hescape, -, -, hreturn⟩ := escape_cases c
  · exact ⟨_, _, hescape, .inr rfl⟩
  · exact ⟨_, _, hescape, .inr rfl⟩
  · exact ⟨_, _, hescape, .inl ⟨rfl, hreturn⟩⟩

/-- A character is read back from what is written for it if the reader knows the three ways of
writing it. -/
lemma read_escape_append {r : List Char → Option (List Char × List Char)}
    (hletter : ∀ {e s}, simpleEscape? e = some c → r ('\\' :: e :: s) = consRead c (r s))
    (hcode : ∀ {a b d e s}, codePoint? [a, b, d, e] = some c →
      r ('\\' :: 'u' :: a :: b :: d :: e :: s) = consRead c (r s))
    (hplain : ∀ {s}, isPlain c = true → c ≠ '\\' → c ≠ '\r' → r (c :: s) = consRead c (r s))
    (s : List Char) : r (escape c ++ s) = consRead c (r s) := by
  obtain ⟨e, hescape, he⟩ | ⟨hescape, hc⟩ | ⟨hescape, hc, hback, hreturn⟩ := escape_cases c
  · rw [hescape]
    exact hletter he
  · rw [hescape]
    exact hcode (codePoint?_fourUpper hc)
  · rw [hescape]
    exact hplain hc hback hreturn

lemma simpleEscape?_letter (he : simpleEscape? e = some c) :
    e ≠ 'u' ∧ e ≠ 'U' ∧ endsLine (e :: s) = false := by
  unfold simpleEscape? at he
  split at he
  all_goals first | contradiction | exact ⟨by decide, by decide, rfl⟩

end Characters

/-! ## Texts on one line -/

section OneLine

variable {a b c d e : Char} {s rest : List Char}

lemma readBasic_cons (hquote : c ≠ '"') (hback : c ≠ '\\') (hplain : isPlain c = true) :
    readBasic (c :: s) = consRead c (readBasic s) := by
  rw [readBasic]
  · exact if_pos ⟨hplain, hback⟩
  · exact hquote
  all_goals intros; contradiction

lemma readBasic_letter (he : simpleEscape? e = some c) :
    readBasic ('\\' :: e :: s) = consRead c (readBasic s) := by
  obtain ⟨hu, hU, -⟩ := simpleEscape?_letter (s := s) he
  rw [readBasic]
  · simp [he]
  all_goals intros; contradiction

lemma readBasic_code (hc : codePoint? [a, b, d, e] = some c) :
    readBasic ('\\' :: 'u' :: a :: b :: d :: e :: s) = consRead c (readBasic s) := by
  simp [readBasic, hc]

lemma readBasic_escape_append (hquote : c ≠ '"') :
    readBasic (escape c ++ s) = consRead c (readBasic s) :=
  read_escape_append readBasic_letter readBasic_code
    (fun hplain hback _ => readBasic_cons hquote hback hplain) s

/-- What is written for a text between double quotes does not begin with one. -/
lemma escapeAll_cons_eq (c : Char) (s : List Char) :
    ∃ d u, escapeAll (c :: s) = d :: u ∧ d ≠ '"' := by
  by_cases hquote : c = '"'
  · subst hquote
    exact ⟨_, _, rfl, by decide⟩
  · by_cases hline : c = '\n'
    · subst hline
      exact ⟨_, _, rfl, by decide⟩
    · obtain ⟨d, u, hescape, hd⟩ := escape_eq_cons c
      rw [escapeAll, hescape]
      · refine ⟨_, _, rfl, ?_⟩
        obtain ⟨rfl, -⟩ | rfl := hd
        · exact hquote
        · decide
      · exact hquote
      · exact hline

/-- The characters written between double quotes are read back. -/
lemma readBasic_escapeAll (s rest : List Char) :
    readBasic (escapeAll s ++ '"' :: rest) = some (s, rest) := by
  induction s using escapeAll.induct with
  | case1 => simp [escapeAll, readBasic]
  | case2 s ih =>
    rw [escapeAll, List.cons_append, List.cons_append, readBasic_letter (c := '"') rfl, ih]
    rfl
  | case3 s ih =>
    rw [escapeAll, List.cons_append, List.cons_append, readBasic_letter (c := '\n') rfl, ih]
    rfl
  | case4 c s hquote hline ih =>
    rw [escapeAll, List.append_assoc, readBasic_escape_append hquote, ih]
    · rfl
    · exact hquote
    · exact hline

/-- The characters written between single quotes are read back. -/
lemma readLiteral_append (hs : ∀ c ∈ s, isPlain c = true ∧ c ≠ '\'') (rest : List Char) :
    readLiteral (s ++ '\'' :: rest) = some (s, rest) := by
  induction s with
  | nil => simp [readLiteral]
  | cons c s ih =>
    obtain ⟨hplain, hquote⟩ := hs c List.mem_cons_self
    have hread : readLiteral (c :: (s ++ '\'' :: rest)) =
        consRead c (readLiteral (s ++ '\'' :: rest)) := by
      rw [readLiteral, if_pos hplain]
      exact hquote
    rw [List.cons_append, hread, ih fun c hc => hs c (List.mem_cons_of_mem _ hc)]
    rfl

end OneLine

/-! ## Texts of several lines -/

section Closing

variable {q : Char} {s rest : List Char} {n : Nat}

/-- Up to two quotes at the end of a text stand behind the three that close it just as well as in
front of them. -/
lemma extraQuotes_replicate (hn : n ≤ 2) (hrest : rest.head? ≠ some q) :
    extraQuotes q (List.replicate n q ++ rest) = (List.replicate n q, rest) := by
  rcases rest with _ | ⟨a, _ | ⟨b, rest⟩⟩
  all_goals
    interval_cases n
    all_goals simp_all [extraQuotes, List.replicate]

lemma replicate_append_closing (q : Char) (n : Nat) (rest : List Char) :
    List.replicate n q ++ q :: q :: q :: rest = q :: q :: q :: (List.replicate n q ++ rest) := by
  have hquotes (u : List Char) : q :: q :: q :: u = List.replicate 3 q ++ u := rfl
  rw [hquotes, hquotes, ← List.append_assoc, ← List.append_assoc, List.replicate_append_replicate,
    List.replicate_append_replicate, Nat.add_comm]

/-- A quote of a text without three in a row that is followed by two more belongs to the quotes at
the end of the text. -/
lemma eq_replicate_of_hasTriple {t : List Char} (hs : hasTriple q (q :: s) = false)
    (hstart : [q, q] <+: s ++ t) : ∃ n, n + 1 ≤ 2 ∧ s = List.replicate n q := by
  rcases s with _ | ⟨a, _ | ⟨b, s⟩⟩
  · exact ⟨0, by omega, rfl⟩
  · obtain ⟨rfl, -⟩ := List.cons_prefix_cons.1 hstart
    exact ⟨1, by omega, rfl⟩
  · obtain ⟨ha, hstart⟩ := List.cons_prefix_cons.1 hstart
    obtain ⟨hb, -⟩ := List.cons_prefix_cons.1 hstart
    simp [hasTriple, ← ha, ← hb] at hs

lemma hasTriple_of_cons {c : Char} (hs : hasTriple q (c :: s) = false) : hasTriple q s = false := by
  rcases s with _ | ⟨a, _ | ⟨b, s⟩⟩
  · rfl
  · rfl
  · rw [hasTriple, Bool.or_eq_false_iff] at hs
    exact hs.2

end Closing

section SeveralLines

variable {a b c d e : Char} {s rest : List Char}

lemma readMultiBasic_cons (hquote : c = '"' → ¬ ['"', '"'] <+: s) (hback : c ≠ '\\')
    (hreturn : c ≠ '\r') (hplain : c = '\n' ∨ isPlain c = true) :
    readMultiBasic false (c :: s) = consRead c (readMultiBasic false s) := by
  rw [readMultiBasic]
  · simp [hback, hplain]
  · rintro t rfl rfl
    exact hquote rfl ⟨t, rfl⟩
  all_goals intros; contradiction

lemma readMultiBasic_letter (he : simpleEscape? e = some c) :
    readMultiBasic false ('\\' :: e :: s) = consRead c (readMultiBasic false s) := by
  obtain ⟨hu, hU, hline⟩ := simpleEscape?_letter (s := s) he
  rw [readMultiBasic]
  · simp [he, hline]
  all_goals intros; contradiction

lemma readMultiBasic_code (hc : codePoint? [a, b, d, e] = some c) :
    readMultiBasic false ('\\' :: 'u' :: a :: b :: d :: e :: s) =
      consRead c (readMultiBasic false s) := by
  simp [readMultiBasic, hc]

lemma readMultiBasic_escape_append (hquote : c ≠ '"') :
    readMultiBasic false (escape c ++ s) = consRead c (readMultiBasic false s) :=
  read_escape_append readMultiBasic_letter readMultiBasic_code (fun hplain hback hreturn =>
    readMultiBasic_cons (fun h => absurd h hquote) hback hreturn (.inr hplain)) s

lemma readMultiBasic_closing {n : Nat} (hn : n ≤ 2) (hrest : rest.head? ≠ some '"') :
    readMultiBasic false (List.replicate n '"' ++ '"' :: '"' :: '"' :: rest) =
      some (List.replicate n '"', rest) := by
  rw [replicate_append_closing, readMultiBasic, extraQuotes_replicate hn hrest]

/-- What is written for a text between three double quotes begins like the text, or with a
backslash. -/
lemma escapeLines_cons_eq (q : Nat) (c : Char) (s : List Char) :
    ∃ d u, escapeLines q (c :: s) = d :: u ∧ (d = c ∧ c ≠ '\r' ∨ d = '\\') := by
  by_cases hquote : c = '"'
  · subst hquote
    rw [escapeLines]
    split
    · exact ⟨_, _, rfl, .inr rfl⟩
    · exact ⟨_, _, rfl, .inl ⟨rfl, by decide⟩⟩
  · by_cases hline : c = '\n'
    · subst hline
      rw [escapeLines]
      exact ⟨_, _, rfl, .inl ⟨rfl, by decide⟩⟩
    · obtain ⟨d, u, hescape, hd⟩ := escape_eq_cons c
      rw [escapeLines, hescape]
      · exact ⟨_, _, rfl, hd⟩
      · exact hquote
      · exact hline

/-- Quotes are not escaped as long as there are no three in a row. If there are three nevertheless,
they reach beyond the text. -/
lemma eq_replicate_of_escapeLines {q k : Nat} {t : List Char} (hq : q ≤ 2) (hk : 3 ≤ q + k)
    (hstart : List.replicate k '"' <+: escapeLines q s ++ t) :
    ∃ n, n + q ≤ 2 ∧ s = List.replicate n '"' ∧ escapeLines q s = s := by
  induction s generalizing q k with
  | nil => exact ⟨0, by omega, rfl, rfl⟩
  | cons c s ih =>
    obtain ⟨k, rfl⟩ : ∃ k', k = k' + 1 := ⟨k - 1, by omega⟩
    rw [List.replicate_succ] at hstart
    by_cases hquote : c = '"'
    · subst hquote
      by_cases htwo : q = 2
      · simp [htwo, escapeLines] at hstart
      · rw [escapeLines, if_neg htwo, List.cons_append, List.cons_prefix_cons] at hstart
        obtain ⟨n, hn, rfl, hs⟩ := ih (q := q + 1) (by omega) (by omega) hstart.2
        refine ⟨n + 1, by omega, rfl, ?_⟩
        rw [escapeLines, if_neg htwo, hs]
    · obtain ⟨d, u, hcons, hd⟩ := escapeLines_cons_eq q c s
      rw [hcons, List.cons_append, List.cons_prefix_cons] at hstart
      obtain ⟨rfl, -⟩ | rfl := hd
      · exact absurd hstart.1.symm hquote
      · exact absurd hstart.1 (by decide)

/-- The characters written between three double quotes are read back. -/
lemma readMultiBasic_escapeLines {q : Nat} (hq : q ≤ 2) (s : List Char)
    (hrest : rest.head? ≠ some '"') :
    readMultiBasic false (escapeLines q s ++ '"' :: '"' :: '"' :: rest) = some (s, rest) := by
  induction s generalizing q with
  | nil => exact readMultiBasic_closing (n := 0) (by omega) hrest
  | cons c s ih =>
    by_cases hquote : c = '"'
    · subst hquote
      by_cases htwo : q = 2
      · rw [escapeLines, if_pos htwo, List.cons_append, List.cons_append,
          readMultiBasic_letter (c := '"') rfl, ih (by omega)]
        rfl
      · rw [escapeLines, if_neg htwo, List.cons_append]
        by_cases hstart : ['"', '"'] <+: escapeLines (q + 1) s ++ '"' :: '"' :: '"' :: rest
        · obtain ⟨n, hn, rfl, hs⟩ :=
            eq_replicate_of_escapeLines (k := 2) (by omega) (by omega) hstart
          rw [hs]
          exact readMultiBasic_closing (n := n + 1) (by omega) hrest
        · rw [readMultiBasic_cons (fun _ => hstart) (by decide) (by decide) (.inr rfl),
            ih (by omega)]
          rfl
    · by_cases hline : c = '\n'
      · subst hline
        rw [escapeLines, List.cons_append, readMultiBasic_cons (c := '\n') (absurd · hquote)
          (by decide) (by decide) (.inl rfl), ih (by omega)]
        rfl
      · rw [escapeLines, List.append_assoc, readMultiBasic_escape_append hquote, ih (by omega)]
        · rfl
        · exact hquote
        · exact hline

lemma readMultiLiteral_cons (hquote : c = '\'' → ¬ ['\'', '\''] <+: s)
    (hplain : c = '\n' ∨ isPlain c = true) :
    readMultiLiteral (c :: s) = consRead c (readMultiLiteral s) := by
  rw [readMultiLiteral]
  · exact if_pos hplain
  · rintro t rfl rfl
    exact hquote rfl ⟨t, rfl⟩
  · rintro t rfl
    exact absurd hplain (by decide)

lemma readMultiLiteral_closing {n : Nat} (hn : n ≤ 2) (hrest : rest.head? ≠ some '\'') :
    readMultiLiteral (List.replicate n '\'' ++ '\'' :: '\'' :: '\'' :: rest) =
      some (List.replicate n '\'', rest) := by
  rw [replicate_append_closing, readMultiLiteral, extraQuotes_replicate hn hrest]

/-- The characters written between three single quotes are read back. -/
lemma readMultiLiteral_append (hs : ∀ c ∈ s, c = '\n' ∨ isPlain c = true)
    (htriple : hasTriple '\'' s = false) (hrest : rest.head? ≠ some '\'') :
    readMultiLiteral (s ++ '\'' :: '\'' :: '\'' :: rest) = some (s, rest) := by
  induction s with
  | nil => exact readMultiLiteral_closing (n := 0) (by omega) hrest
  | cons c s ih =>
    by_cases hend : c = '\'' ∧ ['\'', '\''] <+: s ++ '\'' :: '\'' :: '\'' :: rest
    · obtain ⟨rfl, hstart⟩ := hend
      obtain ⟨n, hn, rfl⟩ := eq_replicate_of_hasTriple htriple hstart
      exact readMultiLiteral_closing (n := n + 1) hn hrest
    · have hread : readMultiLiteral (c :: (s ++ '\'' :: '\'' :: '\'' :: rest)) =
          consRead c (readMultiLiteral (s ++ '\'' :: '\'' :: '\'' :: rest)) :=
        readMultiLiteral_cons (fun hc hstart => hend ⟨hc, hstart⟩) (hs c List.mem_cons_self)
      rw [List.cons_append, hread, ih (fun c hc => hs c (List.mem_cons_of_mem _ hc))
        (hasTriple_of_cons htriple)]
      rfl

end SeveralLines

/-! ## Written texts -/

section Written

variable {c : Char} {s u rest : List Char}

lemma skipNewline?_cons (hline : c ≠ '\n') (hreturn : c ≠ '\r') : skipNewline? (c :: s) = none := by
  rw [skipNewline?]
  · exact fun _ h => hline (List.cons.inj h).1
  · exact fun _ h => hreturn (List.cons.inj h).1

/-- The line break that is written behind three opening quotes is the one that a reader drops. -/
lemma dropNewline_opening_append (hu : '\n' ∉ s → skipNewline? u = none) :
    dropNewline (opening s ++ u) = u := by
  by_cases hline : '\n' ∈ s
  · simp [opening, hline, dropNewline, skipNewline?]
  · simp [opening, hline, dropNewline, hu hline]

lemma skipNewline?_escapeLines (q : Nat) (hline : '\n' ∉ s) (rest : List Char) :
    skipNewline? (escapeLines q s ++ '"' :: rest) = none := by
  rcases s with _ | ⟨c, s⟩
  · rfl
  · obtain ⟨d, u, hcons, hd⟩ := escapeLines_cons_eq q c s
    rw [hcons, List.cons_append]
    obtain ⟨rfl, hreturn⟩ | rfl := hd
    · exact skipNewline?_cons (fun h => hline (by simp [h])) hreturn
    · rfl

lemma skipNewline?_append (hs : ∀ c ∈ s, c = '\n' ∨ isPlain c = true) (hline : '\n' ∉ s)
    (rest : List Char) : skipNewline? (s ++ '\'' :: rest) = none := by
  rcases s with _ | ⟨c, s⟩
  · rfl
  · have hc : c ≠ '\n' := fun h => hline (by simp [h])
    have hplain : isPlain c = true := (hs c List.mem_cons_self).resolve_left hc
    refine skipNewline?_cons hc ?_
    rintro rfl
    exact absurd hplain (by decide)

/-- A text of some characters is written between single quotes if it holds no others than a reader
takes as they are. -/
lemma Style.of_eq_literal (h : Style.of s = .literal) :
    s ≠ [] ∧ ∀ c ∈ s, isPlain c = true ∧ c ≠ '\'' := by
  simp only [Style.of] at h
  split_ifs at h with hbasic hliteral
  simp only [Bool.and_eq_true, Bool.not_eq_true', List.any_eq_false, List.contains_eq_mem,
    decide_eq_false_iff_not] at hliteral
  obtain ⟨⟨hhard, hquote⟩, hline⟩ := hliteral
  refine ⟨?_, fun c hc => ⟨?_, ?_⟩⟩
  · rintro rfl
    exact hbasic (by decide)
  · exact isPlain_of_isHardControl (Bool.eq_false_iff.2 (hhard c hc)) fun h => hline (h ▸ hc)
  · exact fun h => hquote (h ▸ hc)

lemma Style.of_eq_multiLiteral (h : Style.of s = .multiLiteral) :
    (∀ c ∈ s, c = '\n' ∨ isPlain c = true) ∧ hasTriple '\'' s = false := by
  simp only [Style.of] at h
  split_ifs at h with hbasic hliteral hmulti hplain
  simp only [Bool.and_eq_true, Bool.not_eq_true', List.any_eq_false] at hplain
  refine ⟨fun c hc => or_iff_not_imp_left.2 fun hline => ?_, hplain.2⟩
  exact isPlain_of_isHardControl (Bool.eq_false_iff.2 (hplain.1 c hc)) hline

/-- No text is begun by three quotes if it is written between one. -/
lemma readText_basic (s : List Char) (hrest : rest.head? ≠ some '"') :
    readText ('"' :: (escapeAll s ++ '"' :: rest)) =
      readText.finish (readBasic (escapeAll s ++ '"' :: rest)) := by
  rw [readText]
  intro t ht
  rcases s with _ | ⟨c, s⟩
  · obtain ⟨-, rfl⟩ := List.cons.inj ht
    exact hrest rfl
  · obtain ⟨d, u, hcons, hd⟩ := escapeAll_cons_eq c s
    rw [hcons, List.cons_append] at ht
    exact hd (List.cons.inj ht).1

lemma readText_literal (hne : s ≠ []) (hs : ∀ c ∈ s, c ≠ '\'') (rest : List Char) :
    readText ('\'' :: (s ++ '\'' :: rest)) = readText.finish (readLiteral (s ++ '\'' :: rest)) := by
  rw [readText]
  obtain ⟨c, s, rfl⟩ := List.exists_cons_of_ne_nil hne
  intro t ht
  exact hs c List.mem_cons_self (List.cons.inj ht).1

/-- What is written for a text begins with a quote. -/
lemma written_cons_eq (s : List Char) :
    ∃ q u, written s = q :: u ∧ (q = '"' ∨ q = '\'') := by
  rw [written]
  split
  · exact ⟨_, _, rfl, .inl rfl⟩
  · exact ⟨_, _, rfl, .inr rfl⟩
  · exact ⟨_, _, rfl, .inl rfl⟩
  · exact ⟨_, _, rfl, .inr rfl⟩

/-- Every text is read back from what is written for it, whatever its style. -/
theorem readText_written (s : String) (hdouble : rest.head? ≠ some '"')
    (hsingle : rest.head? ≠ some '\'') :
    readText (written s.toList ++ rest) = some (s, rest) := by
  have hfinish : readText.finish (some (s.toList, rest)) = some (s, rest) := by
    simp [readText.finish]
  rw [written]
  split
  · rw [List.append_assoc, List.cons_append, List.singleton_append, readText_basic _ hdouble,
      readBasic_escapeAll, hfinish]
  · next hstyle =>
    obtain ⟨hne, hs⟩ := Style.of_eq_literal hstyle
    rw [List.append_assoc, List.cons_append, List.singleton_append,
      readText_literal hne (fun c hc => (hs c hc).2), readLiteral_append hs, hfinish]
  · simp only [List.append_assoc, List.cons_append, List.nil_append]
    rw [readText, dropNewline_opening_append fun h => skipNewline?_escapeLines 0 h _,
      readMultiBasic_escapeLines (by omega) s.toList hdouble, hfinish]
  · next hstyle =>
    obtain ⟨hs, htriple⟩ := Style.of_eq_multiLiteral hstyle
    simp only [List.append_assoc, List.cons_append, List.nil_append]
    rw [readText, dropNewline_opening_append, readMultiLiteral_append hs htriple hsingle, hfinish]
    exact fun hline => skipNewline?_append hs hline _

end Written

end ProxyProfiles.Toml

import ProxyProfiles.Profile.DomainList
import ProxyProfiles.Proofs.Trimming
/-!
# Domain lists given as one text

A text stands for the entries between its commas. `Items` says which pieces may stand between the
commas for a list of entries: each entry once and in order, with any blanks around it, and pieces of
nothing but blanks anywhere. A text is read as a list of proper entries (`IsDomainEntry`) if it is
made of such pieces, and in no other case (`parseDomainList_eq_iff`). Texts that are put together
with a comma are read one after the other (`parseDomainList_comma`).
-/

namespace ProxyProfiles

open Text

/-- A text that can be an entry: it is not empty, no comma is in it, and no blank at its ends. -/
structure IsDomainEntry (e : String) : Prop where
  ne_empty : e ≠ ""
  no_comma : ',' ∉ e.toList
  trimmed : IsTrimmed e.toList

/-- The pieces between the commas of a text that stands for entries. -/
inductive Items : List String → List String → Prop
  /-- No pieces for no entries. -/
  | nil : Items [] []
  /-- A piece that stands for nothing. -/
  | blank {es items : List String} {item : String} (h : isBlankText item = true)
      (hrest : Items es items) : Items es (item :: items)
  /-- An entry with blanks around it. -/
  | entry {es items : List String} (before e after : String) (hbefore : isBlankText before = true)
      (hafter : isBlankText after = true) (hrest : Items es items) :
      Items (e :: es) ((before ++ e ++ after) :: items)

variable {e s : String} {es items : List String}

/-! ## Commas -/

lemma domainEntries_comma (s u : List Char) :
    domainEntries (s ++ ',' :: u) = domainEntries s ++ domainEntries u := by
  rw [domainEntries, pieces_append_sep, List.map_append, List.filter_append]
  rfl

/-- Texts with a comma between them are read one after the other. -/
lemma parseDomainList_comma (a b : String) :
    parseDomainList (a ++ "," ++ b) = parseDomainList a ++ parseDomainList b := by
  have htext : (a ++ "," ++ b).toList = a.toList ++ ',' :: b.toList := by simp
  rw [parseDomainList, htext, domainEntries_comma, List.map_append]
  rfl

lemma joined_cons_cons (sep p q : String) (ps : List String) :
    joined sep (p :: q :: ps) = p ++ sep ++ joined sep (q :: ps) := by
  simp [joined, join, String.append_assoc]

lemma parseDomainList_joined (items : List String) :
    parseDomainList (joined "," items) = items.flatMap parseDomainList := by
  induction items with
  | nil => rfl
  | cons p items ih =>
    cases items with
    | nil => simp [joined, join]
    | cons q items => rw [List.flatMap_cons, joined_cons_cons, parseDomainList_comma, ih]

/-! ## One piece -/

lemma isBlank_comma : isBlank ',' = false := by decide

lemma isBlankText_iff : isBlankText s = true ↔ ∀ c ∈ s.toList, isBlank c = true :=
  List.all_eq_true

lemma not_comma_of_isBlankText (h : isBlankText s = true) : ',' ∉ s.toList := by
  intro hmem
  have hblank := isBlankText_iff.1 h _ hmem
  rw [isBlank_comma] at hblank
  contradiction

/-- A text without commas has one entry or none. -/
lemma parseDomainList_of_not_comma (h : ',' ∉ s.toList) :
    parseDomainList s = if trim s.toList = [] then [] else [trimmed s] := by
  rw [parseDomainList, domainEntries, pieces_of_not_mem h]
  split
  · next hnil => simp [hnil]
  · next hne => simp [hne, trimmed]

lemma parseDomainList_blank (h : isBlankText s = true) : parseDomainList s = [] := by
  rw [parseDomainList_of_not_comma (not_comma_of_isBlankText h),
    if_pos (trim_of_blank (isBlankText_iff.1 h))]

lemma parseDomainList_padded {before after : String} (he : IsDomainEntry e)
    (hbefore : isBlankText before = true) (hafter : isBlankText after = true) :
    parseDomainList (before ++ e ++ after) = [e] := by
  have htext : (before ++ e ++ after).toList = before.toList ++ (e.toList ++ after.toList) := by
    simp
  have htrim : trim (before ++ e ++ after).toList = e.toList := by
    rw [htext, trim_padded (isBlankText_iff.1 hbefore) he.trimmed (isBlankText_iff.1 hafter)]
  have hcomma : ',' ∉ (before ++ e ++ after).toList := by
    rw [htext, List.mem_append, List.mem_append]
    rintro (h | h | h)
    · exact not_comma_of_isBlankText hbefore h
    · exact he.no_comma h
    · exact not_comma_of_isBlankText hafter h
  have hne : e.toList ≠ [] := by simpa using he.ne_empty
  rw [parseDomainList_of_not_comma hcomma, trimmed, htrim, if_neg hne, String.ofList_toList]

/-! ## Entries and the texts for them -/

/-- Only proper entries are read. -/
lemma isDomainEntry_of_mem (h : e ∈ parseDomainList s) : IsDomainEntry e := by
  obtain ⟨t, ht, rfl⟩ := List.mem_map.1 h
  obtain ⟨hmem, hne⟩ := List.mem_filter.1 ht
  obtain ⟨p, hp, rfl⟩ := List.mem_map.1 hmem
  obtain ⟨w, w', -, -, hsplit⟩ := exists_padded p
  refine ⟨by simpa using hne, ?_, by simpa using isTrimmed_trim p⟩
  rw [String.toList_ofList]
  intro hcomma
  have hcommap : ',' ∈ p := by
    rw [hsplit]
    simp [hcomma]
  exact (mem_and_ne_of_mem_pieces hp hcommap).2 rfl

lemma parseDomainList_of_items (hes : ∀ e ∈ es, IsDomainEntry e) (h : Items es items) :
    parseDomainList (joined "," items) = es := by
  rw [parseDomainList_joined]
  induction h with
  | nil => rfl
  | blank h _ ih => rw [List.flatMap_cons, parseDomainList_blank h, ih hes, List.nil_append]
  | entry before e after hbefore hafter _ ih =>
    rw [List.flatMap_cons, parseDomainList_padded (hes _ List.mem_cons_self) hbefore hafter,
      ih fun e' he' => hes e' (List.mem_cons_of_mem e he'), List.singleton_append]

/-- Entries with nothing but commas between them. -/
lemma Items.plain (es : List String) : Items es es := by
  induction es with
  | nil => exact .nil
  | cons e es ih => simpa using Items.entry "" e "" rfl rfl ih

/-- Any pieces stand for what trimming leaves of them. -/
lemma items_of_pieces (ps : List (List Char)) :
    Items (((ps.map trim).filter (· ≠ [])).map String.ofList) (ps.map String.ofList) := by
  induction ps with
  | nil => exact .nil
  | cons p ps ih =>
    obtain ⟨w, w', hw, hw', hsplit⟩ := exists_padded p
    have hblank {u : List Char} (hu : ∀ c ∈ u, isBlank c = true) :
        isBlankText (String.ofList u) = true :=
      isBlankText_iff.2 (by simpa using hu)
    by_cases hnil : trim p = []
    · have hp : ∀ c ∈ p, isBlank c = true := by
        rw [hsplit, hnil, List.nil_append]
        exact List.forall_mem_append.2 ⟨hw, hw'⟩
      simpa [hnil] using Items.blank (hblank hp) ih
    · have hentry := Items.entry _ (String.ofList (trim p)) _ (hblank hw) (hblank hw') ih
      rw [← String.ofList_append, ← String.ofList_append, List.append_assoc, ← hsplit] at hentry
      simpa [hnil] using hentry

/-- A text is read as the entries that it is made of, with blanks and blank pieces between them, and
as nothing else. -/
lemma parseDomainList_eq_iff :
    parseDomainList s = es ↔
      (∀ e ∈ es, IsDomainEntry e) ∧ ∃ items, Items es items ∧ s = joined "," items := by
  constructor
  · rintro rfl
    refine ⟨fun _ => isDomainEntry_of_mem, _, items_of_pieces (pieces ',' s.toList), ?_⟩
    have hpieces : joined "," ((pieces ',' s.toList).map String.ofList) =
        String.ofList (join [','] (pieces ',' s.toList)) := by
      simp [joined, Function.comp_def]
    rw [hpieces, join_pieces, String.ofList_toList]
  · rintro ⟨hes, items, hitems, rfl⟩
    exact parseDomainList_of_items hes hitems

/-- How domain lists and their texts correspond. Texts with a comma between them are read one after
the other. What is read are entries: not empty, without commas, and with no blank at their ends. All
lists of such entries are read from the entries with commas between them, whatever blanks stand
around them and whatever blank pieces among them; so joining what was read and reading it again
changes nothing. -/
theorem domain_text_round_trip :
    (∀ a b, parseDomainList (a ++ "," ++ b) = parseDomainList a ++ parseDomainList b) ∧
    (∀ a, ∀ e ∈ parseDomainList a, IsDomainEntry e) ∧
    (∀ es items, (∀ e ∈ es, IsDomainEntry e) → Items es items →
      parseDomainList (joined "," items) = es) ∧
    (∀ es, (∀ e ∈ es, IsDomainEntry e) → parseDomainList (joined "," es) = es) ∧
    (∀ a, parseDomainList (joined "," (parseDomainList a)) = parseDomainList a) := by
  have hread (es items : List String) (hes : ∀ e ∈ es, IsDomainEntry e) (h : Items es items) :
      parseDomainList (joined "," items) = es :=
    parseDomainList_eq_iff.2 ⟨hes, items, h, rfl⟩
  have hentries (a : String) : ∀ e ∈ parseDomainList a, IsDomainEntry e :=
    (parseDomainList_eq_iff.1 rfl).1
  exact ⟨parseDomainList_comma, hentries, hread, fun es hes => hread es es hes (.plain es),
    fun a => hread _ _ (hentries a) (.plain _)⟩

/-- The text `intra net ,, ,example.com` with an ideographic space in front stands for two entries,
of which one has a blank inside. -/
theorem domain_text_round_trip_sample :
    let es := ["intra net", "example.com"]
    let items := ["\u3000intra net ", "", " ", "example.com"]
    (∀ e ∈ es, IsDomainEntry e) ∧ Items es items ∧
      parseDomainList "\u3000intra net ,, ,example.com" = es := by
  intro es items
  have hes : ∀ e ∈ es, IsDomainEntry e := by
    intro e he
    rcases List.mem_pair.1 he with rfl | rfl <;> exact ⟨by decide, by decide, by decide⟩
  have hitems : Items es items :=
    .entry "\u3000" "intra net" " " (by decide) (by decide)
      (.blank (by decide) (.blank (by decide) (.plain ["example.com"])))
  exact ⟨hes, hitems, domain_text_round_trip.2.2.1 es items hes hitems⟩

end ProxyProfiles

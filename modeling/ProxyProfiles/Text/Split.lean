/-!
# Cutting a text at a separator

`pieces sep s` are the parts of `s` between the occurrences of `sep`, in order, empty parts
included; `join sep` puts parts together again. The two are inverse on parts that hold no
separator. A text may also be cut behind the longest beginning of one kind of characters, which is
what `List.takeWhile` and `List.dropWhile` do.
-/

namespace ProxyProfiles.Text

/-- The part before the first separator, and the parts after it. -/
def cut (sep : Char) : List Char → List Char × List (List Char)
  | [] => ([], [])
  | c :: s =>
    let (piece, others) := cut sep s
    if c = sep then ([], piece :: others) else (c :: piece, others)

/-- The parts between the separators, one more than there are separators. -/
def pieces (sep : Char) (s : List Char) : List (List Char) :=
  (cut sep s).1 :: (cut sep s).2

/-- The texts one after another, with `sep` between neighbours. -/
def join (sep : List Char) : List (List Char) → List Char
  | [] => []
  | [p] => p
  | p :: q :: ps => p ++ sep ++ join sep (q :: ps)

/-- The strings one after another, with `sep` between neighbours. -/
def joined (sep : String) (ps : List String) : String :=
  String.ofList (join sep.toList (ps.map String.toList))

@[simp] theorem pieces_nil (sep : Char) : pieces sep [] = [[]] := rfl

theorem pieces_ne_nil (sep : Char) (s : List Char) : pieces sep s ≠ [] := by
  simp [pieces]

theorem pieces_cons_self (sep : Char) (s : List Char) :
    pieces sep (sep :: s) = [] :: pieces sep s := by
  simp [pieces, cut]

theorem pieces_cons_ne {sep c : Char} (h : c ≠ sep) (s : List Char) :
    pieces sep (c :: s) = (c :: (cut sep s).1) :: (cut sep s).2 := by
  simp [pieces, cut, h]

/-- Joining the parts gives the text back. -/
theorem join_pieces (sep : Char) (s : List Char) : join [sep] (pieces sep s) = s := by
  induction s with
  | nil => rfl
  | cons c s ih =>
    by_cases h : c = sep
    · subst h
      rw [pieces_cons_self]
      simp only [pieces] at ih ⊢
      simp [join, ih]
    · rw [pieces_cons_ne h]
      simp only [pieces] at ih
      cases hs : (cut sep s).2 with
      | nil => simp [hs, join] at ih ⊢; exact ih
      | cons p ps => simp [hs, join] at ih ⊢; exact ih

theorem pieces_append_sep (sep : Char) (s u : List Char) :
    pieces sep (s ++ sep :: u) = pieces sep s ++ pieces sep u := by
  induction s with
  | nil => exact pieces_cons_self sep u
  | cons c s ih =>
    by_cases h : c = sep
    · subst h
      rw [List.cons_append, pieces_cons_self, pieces_cons_self, ih]
      rfl
    · simp only [pieces, List.cons_append, List.cons.injEq] at ih
      rw [List.cons_append, pieces_cons_ne h, pieces_cons_ne h, ih.1, ih.2]
      rfl

theorem pieces_of_not_mem {sep : Char} {p : List Char} (h : sep ∉ p) : pieces sep p = [p] := by
  induction p with
  | nil => rfl
  | cons c p ih =>
    rw [List.mem_cons, not_or] at h
    have hp := ih h.2
    simp only [pieces, List.cons.injEq] at hp
    rw [pieces_cons_ne (Ne.symm h.1), hp.1, hp.2]

theorem pieces_append_cons {sep : Char} {p : List Char} (h : sep ∉ p) (s : List Char) :
    pieces sep (p ++ sep :: s) = p :: pieces sep s := by
  rw [pieces_append_sep, pieces_of_not_mem h]
  rfl

/-- Where a text is cut is settled by a separator that does not stand before it. -/
theorem split_unique {sep : Char} {u v s t : List Char} (hu : sep ∉ u) (hv : sep ∉ v)
    (h : u ++ sep :: s = v ++ sep :: t) : u = v ∧ s = t := by
  have hpieces := congrArg (pieces sep) h
  rw [pieces_append_cons hu, pieces_append_cons hv] at hpieces
  obtain ⟨rfl, -⟩ := List.cons.inj hpieces
  exact ⟨rfl, (List.cons.inj (List.append_cancel_left h)).2⟩

/-- Where a text is cut is settled by a separator that does not stand behind it. -/
theorem split_unique_last {sep : Char} {u v s t : List Char} (hs : sep ∉ s) (ht : sep ∉ t)
    (h : u ++ sep :: s = v ++ sep :: t) : u = v ∧ s = t := by
  have hreverse : s.reverse ++ sep :: u.reverse = t.reverse ++ sep :: v.reverse := by
    simpa using congrArg List.reverse h
  obtain ⟨hst, huv⟩ := split_unique (by simpa using hs) (by simpa using ht) hreverse
  exact ⟨List.reverse_inj.1 huv, List.reverse_inj.1 hst⟩

/-- Cutting undoes joining if there is anything to join and no part holds a separator. -/
theorem pieces_join {sep : Char} {ps : List (List Char)} (hne : ps ≠ [])
    (h : ∀ p ∈ ps, sep ∉ p) : pieces sep (join [sep] ps) = ps := by
  induction ps with
  | nil => exact absurd rfl hne
  | cons p ps ih =>
    have hp : sep ∉ p := h p List.mem_cons_self
    cases ps with
    | nil => exact pieces_of_not_mem hp
    | cons q qs =>
      have hrest := ih (by simp) fun p' hp' => h p' (List.mem_cons_of_mem p hp')
      rw [join, List.append_assoc, List.singleton_append, pieces_append_cons hp, hrest]

theorem join_append_singleton (sep : List Char) {ps : List (List Char)} (hne : ps ≠ [])
    (p : List Char) : join sep (ps ++ [p]) = join sep ps ++ sep ++ p := by
  induction ps with
  | nil => exact absurd rfl hne
  | cons q qs ih =>
    cases qs with
    | nil => rfl
    | cons r rs =>
      have hrest := ih (by simp)
      simp only [List.cons_append] at hrest
      simp only [List.cons_append, join, hrest, List.append_assoc]

/-- A joined text holds the characters of its parts and of what stands between them. -/
theorem mem_join {sep : List Char} {ps : List (List Char)} {c : Char} (h : c ∈ join sep ps) :
    c ∈ sep ∨ ∃ p ∈ ps, c ∈ p := by
  induction ps with
  | nil => exact absurd h List.not_mem_nil
  | cons p ps ih =>
    cases ps with
    | nil => exact .inr ⟨p, List.mem_cons_self, h⟩
    | cons q qs =>
      rw [join, List.mem_append, List.mem_append] at h
      rcases h with (h | h) | h
      · exact .inr ⟨p, List.mem_cons_self, h⟩
      · exact .inl h
      · rcases ih h with h | ⟨p', hp', h⟩
        · exact .inl h
        · exact .inr ⟨p', List.mem_cons_of_mem p hp', h⟩

/-- The parts hold the characters of the text, but for the separator. -/
theorem mem_and_ne_of_mem_pieces {sep c : Char} {s p : List Char} (h : p ∈ pieces sep s)
    (hc : c ∈ p) : c ∈ s ∧ c ≠ sep := by
  induction s generalizing p with
  | nil => simp_all
  | cons d s ih =>
    have hlater {q : List Char} (hq : q ∈ pieces sep s) (hc : c ∈ q) : c ∈ d :: s ∧ c ≠ sep :=
      ⟨List.mem_cons_of_mem d (ih hq hc).1, (ih hq hc).2⟩
    by_cases hd : d = sep
    · subst hd
      rw [pieces_cons_self] at h
      rcases List.mem_cons.1 h with rfl | h
      · exact absurd hc List.not_mem_nil
      · exact hlater h hc
    · rw [pieces_cons_ne hd] at h
      rcases List.mem_cons.1 h with rfl | h
      · rcases List.mem_cons.1 hc with rfl | hc
        · exact ⟨List.mem_cons_self, hd⟩
        · exact hlater (by simp [pieces]) hc
      · exact hlater (by simp [pieces, h]) hc

/-- The longest beginning of one kind of characters ends where another character follows. -/
theorem takeWhile_dropWhile_append {p : Char → Bool} {u rest : List Char}
    (hu : ∀ c ∈ u, p c = true) (hrest : ∀ c ∈ rest.head?, p c = false) :
    (u ++ rest).takeWhile p = u ∧ (u ++ rest).dropWhile p = rest := by
  rw [List.takeWhile_append_of_pos hu, List.dropWhile_append_of_pos hu]
  rcases rest with _ | ⟨c, rest⟩
  · simp
  · have hc : ¬ p c = true := by simp [hrest c rfl]
    rw [List.takeWhile_cons_of_neg hc, List.dropWhile_cons_of_neg hc, List.append_nil]
    exact ⟨rfl, rfl⟩

/-- What follows the longest beginning of one kind begins with another character. -/
theorem of_mem_head?_dropWhile {p : Char → Bool} {s : List Char} {c : Char}
    (h : c ∈ (s.dropWhile p).head?) : p c = false := by
  have hhead := List.head?_dropWhile_not p s
  rwa [Option.mem_def.1 h] at hhead

end ProxyProfiles.Text

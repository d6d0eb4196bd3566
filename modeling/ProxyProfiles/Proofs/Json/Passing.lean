import Mathlib.Data.List.DropRight
import ProxyProfiles.Proofs.Json.Reading
/-!
# Values that are passed over

`IsValue t` says that `t` is a text of some value, of any kind and any depth. A value that nobody
looks at is allowed more than one that is read: a number may have any size, and the escapes of a
string need not name characters.

The pass that only looks for the end of a value finds it behind every such text (`IsValue.passes`).
The proof is by induction on the length of the text: the texts between brackets are shorter.
-/

namespace ProxyProfiles.Json

open Text

/-! ## The texts of values -/

/-- What may stand between the quotes of a string. -/
inductive IsString : List Char → Prop
  | nil : IsString []
  | plain {c : Char} {t : List Char} (hquote : c ≠ '"') (hback : c ≠ '\\')
    (hcontrol : 0x20 ≤ c.toNat) (h : IsString t) : IsString (c :: t)
  | simple {e : Char} {t : List Char} (he : (simpleEscape? e).isSome = true) (h : IsString t) :
    IsString ('\\' :: e :: t)
  | unit {a b c d : Char} {t : List Char} (hn : (fourDigits? a b c d).isSome = true)
    (h : IsString t) : IsString ('\\' :: 'u' :: a :: b :: c :: d :: t)

/-- The digits in front of the point: no zero but a single one stands in front. -/
structure IsWhole (ds : List Char) : Prop where
  run : Decimal.isRun ds = true
  zero : ds.head? = some '0' → ds = ['0']

/-- What may stand behind these digits: a point and further digits. -/
inductive IsFraction : List Char → Prop
  | nil : IsFraction []
  | digits {ds : List Char} (h : Decimal.isRun ds = true) : IsFraction ('.' :: ds)

/-- What may stand at the end of a number: a power of ten. -/
inductive IsExponent : List Char → Prop
  | nil : IsExponent []
  | digits {e : Char} {sign ds : List Char} (he : e = 'e' ∨ e = 'E')
    (hsign : sign = [] ∨ sign = ['+'] ∨ sign = ['-']) (h : Decimal.isRun ds = true) :
    IsExponent (e :: (sign ++ ds))

/-- A number behind its sign. -/
inductive IsMagnitude : List Char → Prop
  | mk {ds fraction exponent : List Char} (hds : IsWhole ds) (hfraction : IsFraction fraction)
    (hexponent : IsExponent exponent) : IsMagnitude (ds ++ (fraction ++ exponent))

/-- A member of an object whose value has a text of some kind. -/
inductive Named (P : List Char → Prop) : List Char → Prop
  | mk {s w w' t : List Char} (hs : IsString s) (hw : Blank w) (hw' : Blank w') (h : P t) :
    Named P ('"' :: s ++ '"' :: (w ++ ':' :: (w' ++ t)))

/-- A text of a value, without blanks around it. Of the values in a list, and of the members of an
object, only their number counts. -/
inductive IsValue : List Char → Prop
  | null : IsValue ['n', 'u', 'l', 'l']
  | yes : IsValue ['t', 'r', 'u', 'e']
  | no : IsValue ['f', 'a', 'l', 's', 'e']
  | natural {t : List Char} (h : IsMagnitude t) : IsValue t
  | negative {t : List Char} (h : IsMagnitude t) : IsValue ('-' :: t)
  | string {t : List Char} (h : IsString t) : IsValue ('"' :: t ++ ['"'])
  | array {units : List Unit} {t : List Char} (h : Series (fun _ => IsValue) units t) :
    IsValue ('[' :: t ++ [']'])
  | object {units : List Unit} {t : List Char} (h : Series (fun _ => Named IsValue) units t) :
    IsValue ('{' :: t ++ ['}'])

/-! ## Strings and numbers -/

section Strings

variable {a b c d e : Char} {s t : List Char}

lemma skipString_cons (hquote : c ≠ '"') (hback : c ≠ '\\') (hcontrol : 0x20 ≤ c.toNat) :
    skipString (c :: s) = skipString s := by
  rw [skipString]
  · exact if_neg (by omega)
  · exact hquote
  all_goals intros; contradiction

lemma skipString_escape (he : (simpleEscape? e).isSome = true) :
    skipString ('\\' :: e :: s) = skipString s := by
  have hu : e ≠ 'u' := by
    rintro rfl
    simp [simpleEscape?] at he
  rw [skipString, if_pos he]
  all_goals intros; contradiction

lemma skipString_unit (hn : (fourDigits? a b c d).isSome = true) :
    skipString ('\\' :: 'u' :: a :: b :: c :: d :: s) = skipString s := by
  obtain ⟨n, hn⟩ := Option.isSome_iff_exists.1 hn
  rw [skipString, hn]

/-- The pass over a string ends at its closing quote. -/
lemma skipString_append (h : IsString t) (rest : List Char) :
    skipString (t ++ '"' :: rest) = .ok rest := by
  induction h with
  | nil => simp [skipString]
  | plain hquote hback hcontrol _ ih =>
    rw [List.cons_append, skipString_cons hquote hback hcontrol, ih]
  | simple he _ ih => rw [List.cons_append, List.cons_append, skipString_escape he, ih]
  | unit hn _ ih =>
    simp only [List.cons_append]
    rw [skipString_unit hn, ih]

end Strings

namespace Number

variable {ds fraction exponent t rest : List Char}

lemma split_run_append (hds : Decimal.isRun ds = true)
    (hrest : ∀ c ∈ rest.head?, c.isDigit = false) :
    Decimal.split (ds ++ rest) = (ds, rest) :=
  Decimal.split_of_isDigit (Decimal.isDigit_of_isRun hds) hrest

lemma skipExponent_append {sign : List Char} (hsign : sign = [] ∨ sign = ['+'] ∨ sign = ['-'])
    (hds : Decimal.isRun ds = true) (hrest : Ends rest) :
    skipExponent (sign ++ (ds ++ rest)) = .ok rest := by
  have hsplit := split_run_append hds hrest.isDigit_head
  obtain ⟨hne, hdigits⟩ := Decimal.isRun_iff.1 hds
  rcases hsign with rfl | rfl | rfl
  · obtain ⟨d, ds, rfl⟩ := List.exists_cons_of_ne_nil hne
    have hd : d.isDigit = true := hdigits d (by simp)
    have hplus : d ≠ '+' := by rintro rfl; contradiction
    have hminus : d ≠ '-' := by rintro rfl; contradiction
    simp only [List.cons_append] at hsplit
    simp [skipExponent, hsplit, hplus, hminus]
  · simp [skipExponent, hsplit, hne]
  · simp [skipExponent, hsplit, hne]

/-- No digit begins an exponent. -/
lemma isDigit_head_exponent (hexponent : IsExponent exponent) (hrest : Ends rest) :
    ∀ c ∈ (exponent ++ rest).head?, c.isDigit = false := by
  cases hexponent with
  | nil => exact hrest.isDigit_head
  | digits he =>
    intro c hc
    obtain rfl : _ = c := by simpa using hc
    rcases he with rfl | rfl <;> rfl

/-- No digit begins a fraction. -/
lemma isDigit_head_fraction (hfraction : IsFraction fraction) (hexponent : IsExponent exponent)
    (hrest : Ends rest) : ∀ c ∈ (fraction ++ (exponent ++ rest)).head?, c.isDigit = false := by
  cases hfraction with
  | nil =>
    rw [List.nil_append]
    exact isDigit_head_exponent hexponent hrest
  | digits =>
    intro c hc
    obtain rfl : '.' = c := by simpa using hc
    rfl

/-- The pass over a number ends where something follows that cannot belong to it. -/
lemma skip_append (h : IsMagnitude t) (hrest : Ends rest) : skip (t ++ rest) = .ok rest := by
  obtain @⟨ds, fraction, exponent, hds, hfraction, hexponent⟩ := h
  rw [List.append_assoc, List.append_assoc, skip,
    split_run_append hds.run (isDigit_head_fraction hfraction hexponent hrest)]
  dsimp only
  split
  · exact absurd rfl (Decimal.isRun_iff.1 hds.run).1
  · exact absurd (hds.zero rfl) (by simp)
  · cases hfraction with
    | nil =>
      cases hexponent with
      | nil =>
        simp only [List.nil_append]
        split
        · exact absurd (hrest '.' rfl) (by decide)
        · exact absurd (hrest 'e' rfl) (by decide)
        · exact absurd (hrest 'E' rfl) (by decide)
        · rfl
      | digits he hsign hrun =>
        have hskip := skipExponent_append hsign hrun hrest
        rcases he with rfl | rfl <;> simpa using hskip
    | @digits fs hrun =>
      have hsplit := split_run_append hrun (isDigit_head_exponent hexponent hrest)
      simp only [List.cons_append, hsplit, if_neg (Decimal.isRun_iff.1 hrun).1]
      cases hexponent with
      | nil =>
        simp only [List.nil_append]
        split
        · exact absurd (hrest 'e' rfl) (by decide)
        · exact absurd (hrest 'E' rfl) (by decide)
        · rfl
      | digits he hsign hrun =>
        have hskip := skipExponent_append hsign hrun hrest
        rcases he with rfl | rfl <;> simpa using hskip

lemma exists_cons_of_isMagnitude (h : IsMagnitude t) : ∃ d s, t = d :: s ∧ d.isDigit = true := by
  obtain ⟨hds, -, -⟩ := h
  obtain ⟨hne, hdigits⟩ := Decimal.isRun_iff.1 hds.run
  obtain ⟨d, ds, rfl⟩ := List.exists_cons_of_ne_nil hne
  exact ⟨d, _, rfl, hdigits d (by simp)⟩

end Number

/-! ## Going over a value -/

/-- The pass goes over a text, with blanks in front of it and anything behind it that may follow a
value. The fuel that it needs grows with the text. -/
structure Passes (t : List Char) : Prop where
  opens : Opens t
  pass {fuel room : Nat} {w rest : List Char} : 2 * t.length ≤ fuel → Blank w → Ends rest →
    passValue false fuel room (w ++ (t ++ rest)) = .ok rest

section Values

variable {fuel room : Nat} {units : List Unit} {strict : Bool} {s t w rest : List Char}

lemma skipSpace_skipSpace (s : List Char) : skipSpace (skipSpace s) = skipSpace s :=
  List.dropWhile_idempotent _ s

lemma passValue_skipSpace (s : List Char) :
    passValue strict fuel room (skipSpace s) = passValue strict fuel room s := by
  cases fuel with
  | zero => rfl
  | succ fuel => rw [passValue, passValue, skipSpace_skipSpace]

lemma passItems_skipSpace (s : List Char) :
    passItems strict fuel room (skipSpace s) = passItems strict fuel room s := by
  cases fuel with
  | zero => rfl
  | succ fuel => rw [passItems, passItems, passValue_skipSpace]

lemma passMembers_skipSpace (s : List Char) :
    passMembers strict fuel room (skipSpace s) = passMembers strict fuel room s := by
  cases fuel with
  | zero => rfl
  | succ fuel => rw [passMembers, passMembers, skipSpace_skipSpace]

lemma readWord_append (word rest : List Char) : readWord word (word ++ rest) = .ok rest := by
  induction word with
  | nil => rfl
  | cons c word ih => rw [List.cons_append, readWord, if_pos rfl, ih]

/-- A text is passed over if the pass behind its first character, which is none that may stand in
front of a value, ends behind the text. -/
lemma passes_cons {c : Char} {s : List Char} (hc : isSpace c = false ∧ c ≠ ',' ∧ c ≠ ']')
    (h : ∀ {fuel room rest}, 2 * s.length < fuel → Ends rest →
      passValue false (fuel + 1) room (c :: (s ++ rest)) = .ok rest) : Passes (c :: s) where
  opens := opens_cons hc s
  pass {fuel room w rest} hfuel hw hrest := by
    rw [List.length_cons] at hfuel
    obtain ⟨fuel, rfl⟩ : ∃ n, fuel = n + 1 := ⟨fuel - 1, by omega⟩
    rw [← passValue_skipSpace, List.cons_append, skipSpace_append_cons hw hc.1]
    exact h (by omega) hrest

lemma passes_magnitude (h : IsMagnitude t) : Passes t := by
  obtain ⟨d, s, rfl, hd⟩ := Number.exists_cons_of_isMagnitude h
  have hspace : isSpace d = false := isSpace_of_isDigit hd
  refine passes_cons ⟨hspace, ?_, ?_⟩ fun _ hrest => ?_
  · rintro rfl; contradiction
  · rintro rfl; contradiction
  rw [passValue, skipSpace_cons hspace]
  -- a digit is none of the characters that are told apart before it
  split
  case h_9 c _ _ _ _ _ _ _ _ heq =>
    obtain ⟨rfl, rfl⟩ := by simpa using heq
    rw [if_pos hd]
    exact Number.skip_append h hrest
  all_goals simp_all

/-- One or more texts are passed over up to the closing bracket. -/
lemma passItems_listed (h : Listed (fun _ => Passes) units t) (hfuel : 2 * t.length < fuel)
    (rest : List Char) : passItems false fuel room (t ++ ']' :: rest) = .ok rest := by
  induction h generalizing fuel with
  | @last _ w t w' hw ht hw' =>
    simp only [List.length_append] at hfuel
    obtain ⟨fuel, rfl⟩ : ∃ n, fuel = n + 1 := ⟨fuel - 1, by omega⟩
    have hpass : passValue false fuel room (w ++ (t ++ (w' ++ ']' :: rest))) =
        .ok (w' ++ ']' :: rest) :=
      ht.pass (by omega) hw (.of_blank hw' (ends_cons (by decide) rest))
    have hspace : skipSpace (w' ++ ']' :: rest) = ']' :: rest := skipSpace_append_cons hw' rfl
    simp only [List.append_assoc] at hpass ⊢
    simp [passItems, hpass, hspace, bind, Except.bind]
  | @cons _ _ w t w' r hw ht hw' _ ih =>
    simp only [List.length_append, List.length_cons] at hfuel
    obtain ⟨fuel, rfl⟩ : ∃ n, fuel = n + 1 := ⟨fuel - 1, by omega⟩
    have hpass : passValue false fuel room (w ++ (t ++ (w' ++ ',' :: (r ++ ']' :: rest)))) =
        .ok (w' ++ ',' :: (r ++ ']' :: rest)) :=
      ht.pass (by omega) hw (.of_blank hw' (ends_cons (by decide) _))
    have hspace : skipSpace (w' ++ ',' :: (r ++ ']' :: rest)) = ',' :: (r ++ ']' :: rest) :=
      skipSpace_append_cons hw' rfl
    simp only [List.append_assoc, List.cons_append] at hpass ⊢
    simp [passItems, hpass, hspace, bind, Except.bind, ih (show 2 * r.length < fuel by omega)]

/-- The name of a member is passed over, then the colon, then its value. -/
lemma exists_steps_of_named (h : Named Passes t) (hfuel : 2 * t.length ≤ fuel) (hrest : Ends rest)
    (room : Nat) : ∃ s r r', t = '"' :: s ∧ passString false (s ++ rest) = .ok r ∧
      readColon r = .ok r' ∧ passValue false fuel room r' = .ok rest := by
  obtain @⟨s, w, w', v, hs, hw, hw', hv⟩ := h
  simp only [List.length_append, List.length_cons] at hfuel
  have hname : skipString (s ++ '"' :: (w ++ ':' :: (w' ++ (v ++ rest)))) =
      .ok (w ++ ':' :: (w' ++ (v ++ rest))) := skipString_append hs _
  exact ⟨_, _, _, rfl, by simpa [passString] using hname, readColon_append hw _,
    hv.pass (by omega) hw' hrest⟩

/-- One or more members are passed over up to the closing brace. -/
lemma passMembers_listed (h : Listed (fun _ => Named Passes) units t) (hfuel : 2 * t.length < fuel)
    (rest : List Char) : passMembers false fuel room (t ++ '}' :: rest) = .ok rest := by
  induction h generalizing fuel with
  | @last _ w t w' hw ht hw' =>
    simp only [List.length_append] at hfuel
    obtain ⟨fuel, rfl⟩ : ∃ n, fuel = n + 1 := ⟨fuel - 1, by omega⟩
    have hends : Ends (w' ++ '}' :: rest) := .of_blank hw' (ends_cons (by decide) rest)
    obtain ⟨s, r, r', rfl, hname, hcolon, hvalue⟩ :=
      exists_steps_of_named ht (show 2 * t.length ≤ fuel by omega) hends room
    have hspace : skipSpace (w' ++ '}' :: rest) = '}' :: rest := skipSpace_append_cons hw' rfl
    simp only [List.append_assoc, List.cons_append]
    rw [passMembers, skipSpace_append_cons hw rfl]
    simp [hname, hcolon, hvalue, hspace, bind, Except.bind]
  | @cons _ _ w t w' u hw ht hw' _ ih =>
    simp only [List.length_append, List.length_cons] at hfuel
    obtain ⟨fuel, rfl⟩ : ∃ n, fuel = n + 1 := ⟨fuel - 1, by omega⟩
    have hends : Ends (w' ++ ',' :: (u ++ '}' :: rest)) := .of_blank hw' (ends_cons (by decide) _)
    obtain ⟨s, r, r', rfl, hname, hcolon, hvalue⟩ :=
      exists_steps_of_named ht (show 2 * t.length ≤ fuel by omega) hends room
    have hspace : skipSpace (w' ++ ',' :: (u ++ '}' :: rest)) = ',' :: (u ++ '}' :: rest) :=
      skipSpace_append_cons hw' rfl
    simp only [List.append_assoc, List.cons_append]
    rw [passMembers, skipSpace_append_cons hw rfl]
    simp [hname, hcolon, hvalue, hspace, bind, Except.bind, ih (show 2 * u.length < fuel by omega)]

lemma passes_array (h : Series (fun _ => Passes) units t) : Passes ('[' :: (t ++ [']'])) := by
  refine passes_cons (by decide) fun {fuel room rest} hfuel _ => ?_
  rw [List.length_append, List.length_singleton] at hfuel
  rw [List.append_assoc, List.singleton_append, passValue, skipSpace_cons rfl]
  simp only [Bool.false_eq_true, false_and, if_false]
  cases h with
  | empty hw =>
    rw [skipSpace_append_cons hw rfl]
    rfl
  | listed h =>
    have hitems : passItems false fuel (room - 1) (skipSpace (t ++ ']' :: rest)) = .ok rest := by
      rw [passItems_skipSpace, passItems_listed h (by omega)]
    -- the first element shows that the list is not empty
    obtain ⟨w, -, s, r, rfl, hw, hs⟩ := h.exists_first
    obtain ⟨c, s, rfl, hc, -, hbracket⟩ := hs.opens
    simp only [List.append_assoc, List.cons_append, skipSpace_append_cons hw hc] at hitems ⊢
    split
    · simp_all
    · exact hitems

lemma passes_object (h : Series (fun _ => Named Passes) units t) :
    Passes ('{' :: (t ++ ['}'])) := by
  refine passes_cons (by decide) fun {fuel room rest} hfuel _ => ?_
  rw [List.length_append, List.length_singleton] at hfuel
  rw [List.append_assoc, List.singleton_append, passValue, skipSpace_cons rfl]
  simp only [Bool.false_eq_true, false_and, if_false]
  cases h with
  | empty hw =>
    rw [skipSpace_append_cons hw rfl]
    rfl
  | listed h =>
    have hmembers :
        passMembers false fuel (room - 1) (skipSpace (t ++ '}' :: rest)) = .ok rest := by
      rw [passMembers_skipSpace, passMembers_listed h (by omega)]
    -- the quote of the first name shows that the object is not empty
    obtain ⟨w, -, s, r, rfl, hw, hs⟩ := h.exists_first
    cases hs
    have hquote : isSpace '"' = false := rfl
    simp only [List.append_assoc, List.cons_append, skipSpace_append_cons hw hquote] at hmembers ⊢
    exact hmembers

lemma passes_string (h : IsString t) : Passes ('"' :: (t ++ ['"'])) := by
  refine passes_cons (by decide) fun _ _ => ?_
  rw [List.append_assoc, List.singleton_append, passValue, skipSpace_cons rfl]
  exact skipString_append h _

lemma passes_word {c : Char} {word : List Char} (h : (c = 'n' ∧ word = ['u', 'l', 'l']) ∨
    (c = 't' ∧ word = ['r', 'u', 'e']) ∨ (c = 'f' ∧ word = ['a', 'l', 's', 'e'])) :
    Passes (c :: word) := by
  rcases h with ⟨rfl, rfl⟩ | ⟨rfl, rfl⟩ | ⟨rfl, rfl⟩
  all_goals
    refine passes_cons (by decide) fun _ _ => ?_
    rw [passValue, skipSpace_cons rfl]
    exact readWord_append _ _

lemma passes_negative (h : IsMagnitude t) : Passes ('-' :: t) := by
  refine passes_cons (by decide) fun _ hrest => ?_
  rw [passValue, skipSpace_cons rfl]
  exact Number.skip_append h hrest

lemma Named.mono {P Q : List Char → Prop} (h : Named P t)
    (hPQ : ∀ s, s.length ≤ t.length → P s → Q s) : Named Q t := by
  cases h with
  | mk hs hw hw' ht =>
    refine .mk hs hw hw' (hPQ _ ?_ ht)
    simp only [List.length_append, List.length_cons]
    omega

/-- Every text of a value is passed over, at any depth. -/
theorem IsValue.passes (h : IsValue t) : Passes t := by
  induction hn : t.length using Nat.strongRecOn generalizing t with
  | ind n ih =>
    -- what stands between brackets is shorter, and all the more each text in it
    have hinside {s u : List Char} {a b : Char} (hs : s.length ≤ u.length)
        (hu : (a :: u ++ [b]).length = n) (hvalue : IsValue s) : Passes s := by
      simp only [List.length_append, List.length_cons] at hu
      exact ih s.length (by omega) hvalue rfl
    cases h with
    | null => exact passes_word (by simp)
    | yes => exact passes_word (by simp)
    | no => exact passes_word (by simp)
    | natural h => exact passes_magnitude h
    | negative h => exact passes_negative h
    | string h => exact passes_string h
    | array h => exact passes_array (h.mono fun _ s hs hvalue => hinside hs hn hvalue)
    | object h =>
      refine passes_object (h.mono fun _ s hs hnamed => hnamed.mono fun v hv hvalue => ?_)
      exact hinside (hv.trans hs) hn hvalue

/-- A text is passed over wherever it stands. -/
lemma Passes.passLax (h : Passes t) (hw : Blank w) (hrest : Ends rest) :
    passLax (w ++ (t ++ rest)) = .ok rest := by
  refine h.pass ?_ hw hrest
  simp only [List.length_append]
  omega

/-- An unknown member adds nothing to what is known. -/
lemma Passes.behindName {σ : Type} (h : Passes t) (known : σ) :
    ReadsBehindName (passMember known) known t := by
  intro w w' rest hw hw' hrest
  simp [passMember, readColon_append hw, h.passLax hw' hrest, bind, Except.bind, pure, Except.pure]

end Values

end ProxyProfiles.Json

import ProxyProfiles.Json.Lexeme
import ProxyProfiles.Json.Value
import Mathlib.Tactic.Lemma
/-!
# Spellings of JSON values

A value can be written in many ways: blanks may stand between its parts, and characters of a string
may be escaped. `Spells v t` says that `t` is one of the texts of `v`, without blanks around it. A
whole number is written in one way only.

The two forms in which values are written are spellings (`spells_compact`, `spells_pretty`), so all
that is shown for spellings holds for both of them.
-/

namespace ProxyProfiles.Json

open Text

/-! ## The texts of a value -/

/-- A run of blanks, possibly empty. -/
def Blank (w : List Char) : Prop := ∀ c ∈ w, isSpace c = true

/-- `Characters cs t` if `t` may stand for the characters `cs` between the quotes of a string. -/
inductive Characters : List Char → List Char → Prop
  | nil : Characters [] []
  | plain {c : Char} {cs t : List Char} (hquote : c ≠ '"') (hback : c ≠ '\\')
    (hcontrol : 0x20 ≤ c.toNat) (h : Characters cs t) : Characters (c :: cs) (c :: t)
  | simple {e c : Char} {cs t : List Char} (he : simpleEscape? e = some c) (h : Characters cs t) :
    Characters (c :: cs) ('\\' :: e :: t)
  | unit {a b c d : Char} {n : Nat} {cs t : List Char} (hn : fourDigits? a b c d = some n)
    (hlow : isLowSurrogate n = false) (hhigh : isHighSurrogate n = false) (h : Characters cs t) :
    Characters (Char.ofNat n :: cs) ('\\' :: 'u' :: a :: b :: c :: d :: t)
  | pair {a b c d a' b' c' d' : Char} {n m : Nat} {cs t : List Char}
    (hn : fourDigits? a b c d = some n) (hhigh : isHighSurrogate n = true)
    (hm : fourDigits? a' b' c' d' = some m) (hlow : isLowSurrogate m = true)
    (h : Characters cs t) :
    Characters (pairChar n m :: cs)
      ('\\' :: 'u' :: a :: b :: c :: d :: '\\' :: 'u' :: a' :: b' :: c' :: d' :: t)

/-- `Listed P as t` if `t` holds texts of `as`, at least one, with commas between them and blanks
around each. -/
inductive Listed {α : Type} (P : α → List Char → Prop) : List α → List Char → Prop
  | last {a : α} {w t w' : List Char} (hw : Blank w) (h : P a t) (hw' : Blank w') :
    Listed P [a] (w ++ t ++ w')
  | cons {a : α} {as : List α} {w t w' r : List Char} (hw : Blank w) (h : P a t)
    (hw' : Blank w') (hr : Listed P as r) : Listed P (a :: as) (w ++ t ++ w' ++ ',' :: r)

/-- `Series P as t` if `t` may stand between brackets around texts of `as`. -/
inductive Series {α : Type} (P : α → List Char → Prop) : List α → List Char → Prop
  | empty {w : List Char} (hw : Blank w) : Series P [] w
  | listed {as : List α} {t : List Char} (h : Listed P as t) : Series P as t

/-- The texts of a member of an object, given those of its value. -/
inductive Member {α : Type} (P : α → List Char → Prop) : String × α → List Char → Prop
  | mk {k : String} {a : α} {s w w' t : List Char} (hk : Characters k.toList s)
    (hw : Blank w) (hw' : Blank w') (h : P a t) :
    Member P (k, a) ('"' :: s ++ '"' :: (w ++ ':' :: (w' ++ t)))

/-- `Spells v t` if `t` is a text of the value `v`. -/
inductive Spells : Value → List Char → Prop
  | null : Spells .null ['n', 'u', 'l', 'l']
  | string {s : String} {t : List Char} (h : Characters s.toList t) :
    Spells (.string s) ('"' :: t ++ ['"'])
  | integer (i : Int) : Spells (.integer i) (Decimal.chars i)
  | array {vs : List Value} {t : List Char} (h : Series Spells vs t) :
    Spells (.array vs) ('[' :: t ++ [']'])
  | object {ms : List (String × Value)} {t : List Char} (h : Series (Member Spells) ms t) :
    Spells (.object ms) ('{' :: t ++ ['}'])

@[simp] lemma blank_nil : Blank [] := by simp [Blank]

lemma Blank.append {w w' : List Char} (h : Blank w) (h' : Blank w') : Blank (w ++ w') := by
  intro c hc
  rcases List.mem_append.1 hc with hc | hc
  · exact h c hc
  · exact h' c hc

namespace Listed

variable {α : Type} {P : α → List Char → Prop} {a : α} {as : List α} {w t r : List Char}

lemma single (hw : Blank w) (h : P a t) : Listed P [a] (w ++ t) := by
  simpa using last hw h blank_nil

lemma comma (hw : Blank w) (h : P a t) (hr : Listed P as r) :
    Listed P (a :: as) (w ++ t ++ ',' :: r) := by
  simpa using cons hw h blank_nil hr

/-- Blanks may follow the last text. -/
lemma append_blank (h : Listed P as t) (hw : Blank w) : Listed P as (t ++ w) := by
  induction h with
  | last hw₁ ha hw₂ =>
    rw [List.append_assoc]
    exact last hw₁ ha (hw₂.append hw)
  | cons hw₁ ha hw₂ _ ih =>
    rw [List.append_assoc, List.cons_append]
    exact cons hw₁ ha hw₂ ih

/-- Texts that `f` gives for `as` are texts of `as`. -/
lemma of_map {β : Type} {f : α → β} {Q : β → List Char → Prop} (h : Listed Q (as.map f) t)
    (hf : ∀ a t, Q (f a) t → P a t) : Listed P as t := by
  generalize hbs : as.map f = bs at h
  induction h generalizing as with
  | last hw hb hw' =>
    obtain ⟨a, rfl, rfl⟩ := List.map_eq_singleton_iff.1 hbs
    exact last hw (hf a _ hb) hw'
  | cons hw hb hw' _ ih =>
    obtain ⟨a, as, rfl, rfl, rfl⟩ := List.map_eq_cons_iff.1 hbs
    exact cons hw (hf a _ hb) hw' (ih rfl)

/-- What holds of the texts of a kind, as far as they are no longer than the list, holds of those in
the list. -/
lemma mono {Q : α → List Char → Prop} (h : Listed P as t)
    (hPQ : ∀ a s, s.length ≤ t.length → P a s → Q a s) : Listed Q as t := by
  induction h with
  | last hw ha hw' => exact last hw (hPQ _ _ (by simp; omega) ha) hw'
  | cons hw ha hw' _ ih =>
    refine cons hw (hPQ _ _ (by simp; omega) ha) hw' (ih fun a s hs => hPQ a s ?_)
    simp only [List.length_append, List.length_cons]
    omega

/-- A list begins with blanks and one of its texts. -/
lemma exists_first (h : Listed P as t) : ∃ w a s rest, t = w ++ (s ++ rest) ∧ Blank w ∧ P a s := by
  cases h with
  | last hw ha hw' => exact ⟨_, _, _, _, List.append_assoc _ _ _, hw, ha⟩
  | @cons a as w s w' r hw ha hw' hr => exact ⟨w, a, s, w' ++ ',' :: r, by simp, hw, ha⟩

end Listed

lemma Series.mono {α : Type} {P Q : α → List Char → Prop} {as : List α} {t : List Char}
    (h : Series P as t) (hPQ : ∀ a s, s.length ≤ t.length → P a s → Q a s) : Series Q as t := by
  cases h with
  | empty hw => exact .empty hw
  | listed h => exact .listed (h.mono hPQ)

lemma Series.of_map {α β : Type} {P : α → List Char → Prop} {Q : β → List Char → Prop}
    {f : α → β} {as : List α} {t : List Char} (h : Series Q (as.map f) t)
    (hf : ∀ a t, Q (f a) t → P a t) : Series P as t := by
  generalize hbs : as.map f = bs at h
  cases h with
  | empty hw =>
    rw [List.map_eq_nil_iff.1 hbs]
    exact .empty hw
  | listed h =>
    subst hbs
    exact .listed (h.of_map hf)

/-! ## The written forms -/

lemma characters_escape_append {c : Char} {cs t : List Char} (h : Characters cs t) :
    Characters (c :: cs) (escape c ++ t) := by
  unfold escape
  split
  case h_8 hquote hback _ _ _ _ _ =>
    split
    · next hcontrol =>
      have hlt : c.toNat < 65536 := by omega
      have hlow : isLowSurrogate c.toNat = false := by simp [isLowSurrogate]; omega
      have hhigh : isHighSurrogate c.toNat = false := by simp [isHighSurrogate]; omega
      have hunit := Characters.unit (Hexadecimal.value?_fourLower hlt) hlow hhigh h
      rwa [Char.ofNat_toNat] at hunit
    · next hcontrol => exact .plain hquote hback (by omega) h
  all_goals exact .simple rfl h

lemma characters_escape (cs : List Char) : Characters cs (cs.flatMap escape) := by
  induction cs with
  | nil => exact .nil
  | cons c cs ih => exact characters_escape_append ih

lemma spells_quote (s : String) : Spells (.string s) (quote s) :=
  .string (characters_escape _)

lemma member_quote {α : Type} {P : α → List Char → Prop} {k : String} {a : α} {w t : List Char}
    (hw : Blank w) (h : P a t) : Member P (k, a) (quote k ++ ':' :: (w ++ t)) := by
  simpa [quote] using Member.mk (characters_escape k.toList) blank_nil hw h

lemma blank_newLine (level : Nat) : Blank (Value.newLine level) := by
  intro c hc
  rcases List.mem_cons.1 hc with rfl | hc
  · rfl
  · rw [List.eq_of_mem_replicate hc]
    rfl

mutual

/-- A value without blanks is a spelling of it. -/
theorem spells_compact : (v : Value) → Spells v v.compact
  | .null => .null
  | .string s => spells_quote s
  | .integer i => .integer i
  | .array [] => .array (.empty blank_nil)
  | .array (v :: vs) => .array (.listed (listed_compactItems (v :: vs) (by simp)))
  | .object [] => .object (.empty blank_nil)
  | .object (m :: ms) => .object (.listed (listed_compactMembers (m :: ms) (by simp)))

theorem listed_compactItems :
    (vs : List Value) → vs ≠ [] → Listed Spells vs (Value.compactItems vs)
  | [], h => absurd rfl h
  | [v], _ => .single (w := []) blank_nil (spells_compact v)
  | v :: u :: vs, _ =>
    .comma (w := []) blank_nil (spells_compact v) (listed_compactItems (u :: vs) (by simp))

theorem listed_compactMembers :
    (ms : List (String × Value)) → ms ≠ [] → Listed (Member Spells) ms (Value.compactMembers ms)
  | [], h => absurd rfl h
  | [(_, v)], _ => .single (w := []) blank_nil (member_quote blank_nil (spells_compact v))
  | (_, v) :: m :: ms, _ =>
    .comma (w := []) blank_nil (member_quote blank_nil (spells_compact v))
      (listed_compactMembers (m :: ms) (by simp))

end

lemma blank_space : Blank [' '] := by simp [Blank, isSpace]

mutual

/-- A value over several lines is a spelling of it. -/
theorem spells_pretty : (v : Value) → (level : Nat) → Spells v (v.pretty level)
  | .null, _ => .null
  | .string s, _ => spells_quote s
  | .integer i, _ => .integer i
  | .array [], _ => .array (.empty blank_nil)
  | .array (v :: vs), level =>
    .array (.listed ((listed_prettyItems (v :: vs) (level + 1) (by simp)).append_blank
      (blank_newLine level)))
  | .object [], _ => .object (.empty blank_nil)
  | .object (m :: ms), level =>
    .object (.listed ((listed_prettyMembers (m :: ms) (level + 1) (by simp)).append_blank
      (blank_newLine level)))

theorem listed_prettyItems : (vs : List Value) → (level : Nat) → vs ≠ [] →
    Listed Spells vs (Value.prettyItems level vs)
  | [], _, h => absurd rfl h
  | [v], level, _ => .single (blank_newLine level) (spells_pretty v level)
  | v :: u :: vs, level, _ =>
    .comma (blank_newLine level) (spells_pretty v level)
      (listed_prettyItems (u :: vs) level (by simp))

theorem listed_prettyMembers : (ms : List (String × Value)) → (level : Nat) → ms ≠ [] →
    Listed (Member Spells) ms (Value.prettyMembers level ms)
  | [], _, h => absurd rfl h
  | [(k, v)], level, _ => by
    have hmember := member_quote (k := k) blank_space (spells_pretty v level)
    simpa [Value.prettyMembers] using Listed.single (blank_newLine level) hmember
  | (k, v) :: m :: ms, level, _ => by
    have hmember := member_quote (k := k) blank_space (spells_pretty v level)
    have hrest := listed_prettyMembers (m :: ms) level (by simp)
    simpa [Value.prettyMembers] using Listed.comma (blank_newLine level) hmember hrest

end

end ProxyProfiles.Json

import ProxyProfiles.Proofs.Layout
import ProxyProfiles.Proofs.Trimming
/-!
# Ports stored as texts

A port may be stored as a text. The text counts as the number that it begins with, and whatever
follows the digits is ignored: such a profile reads like the one in which the number itself is
stored (`Profile.textual_port_reads`). The only number for which this fails is the least one: its
digits without the sign are no number of 64 bits, so its text reads as 0.
-/

namespace ProxyProfiles

open Text Json

/-! ## The number in a text -/

lemma isBlank_of_isDigit {c : Char} (h : c.isDigit = true) : isBlank c = false := by
  simp only [Char.isDigit, Bool.and_eq_true, decide_eq_true_eq, ge_iff_le,
    UInt32.le_iff_toNat_le] at h
  have hlow : 48 ≤ c.toNat := h.1
  have hhigh : c.toNat ≤ 57 := h.2
  rw [Bool.eq_false_iff]
  intro hblank
  simp only [isBlank, Bool.or_eq_true, Bool.and_eq_true, decide_eq_true_eq, beq_iff_eq] at hblank
  omega

namespace Port

section OfText

variable {w sign t w' rest : List Char} {i : Int64}

lemma split_digits (hrest : ∀ c ∈ rest.head?, c.isDigit = false) (n : Nat) :
    (Decimal.split (Decimal.digits n ++ rest)).1 = Decimal.digits n := by
  rw [Decimal.split_of_isDigit (fun _ => Decimal.isDigit_of_mem_digits) hrest]

/-- The digits of a number below zero, with the sign in front, stand for it. Those of the least
number do not: without the sign they are too large. -/
lemma ofInt_signed_of_neg (hi : i.toInt < 0) :
    Int64.ofInt (signed true (Decimal.digits i.toInt.natAbs)) =
      if i = Int64.minValue then 0 else i := by
  have hmin : i = Int64.minValue ↔ i.toInt = -9223372036854775808 := Int64.toInt_inj.symm
  have hle : -9223372036854775808 ≤ i.toInt := Int64.minValue_le_toInt i
  have hmax : Int64.maxValue.toInt = 9223372036854775807 := rfl
  rw [signed, Decimal.value_digits, hmax, if_pos rfl]
  split
  · next hfits =>
    have hne : i ≠ Int64.minValue := fun h => by have := hmin.1 h; omega
    have habs : -(i.toInt.natAbs : Int) = i.toInt := by omega
    rw [if_neg hne, habs, Int64.ofInt_toInt]
  · next hfits =>
    rw [if_pos (hmin.2 (by omega))]
    rfl

/-- The digits of a number from zero on stand for it. -/
lemma ofInt_signed_of_nonneg (hi : 0 ≤ i.toInt) :
    Int64.ofInt (signed false (Decimal.digits i.toInt.natAbs)) =
      if i = Int64.minValue then 0 else i := by
  have hne : i ≠ Int64.minValue := by
    rintro rfl
    exact absurd hi (by decide)
  have hle : i.toInt ≤ Int64.maxValue.toInt := Int64.toInt_le i
  rw [if_neg hne, signed, Decimal.value_digits, Int.natAbs_of_nonneg hi, if_pos hle,
    if_neg (by decide), Int64.ofInt_toInt]

/-- Trimming takes no character of a number away. -/
lemma trim_chars (hw : ∀ c ∈ w, isBlank c = true)
    (hsign : sign = [] ∨ sign = ['+'] ∧ 0 ≤ i.toInt) (hw' : ∀ c ∈ w', isBlank c = true) :
    trim (w ++ ((sign ++ Decimal.chars i.toInt) ++ (t ++ w'))) =
      sign ++ (Decimal.chars i.toInt ++ t.rdropWhile isBlank) := by
  have hne : sign ++ Decimal.chars i.toInt ≠ [] := by simp [Decimal.chars_ne_nil]
  rw [trim_append hw hne ?_ hw', List.append_assoc]
  intro c hc
  rcases List.mem_append.1 hc with hc | hc
  · obtain rfl : c = '+' := by
      rcases hsign with rfl | ⟨rfl, -⟩ <;> simp_all
    rfl
  · rcases Decimal.eq_or_isDigit_of_mem_chars hc with rfl | hc
    · rfl
    · exact isBlank_of_isDigit hc

lemma isDigit_head_rdropWhile (ht : ∀ c ∈ t.head?, c.isDigit = false) :
    ∀ c ∈ (t.rdropWhile isBlank).head?, c.isDigit = false := by
  intro c hc
  obtain ⟨u, hu⟩ := List.rdropWhile_prefix isBlank t
  rw [← hu, List.head?_append] at ht
  exact ht c (by rw [Option.mem_def.1 hc]; rfl)

/-- A text with a number in it reads as this number, but for the least one of 64 bits. -/
lemma ofText_chars (hw : ∀ c ∈ w, isBlank c = true)
    (hsign : sign = [] ∨ sign = ['+'] ∧ 0 ≤ i.toInt)
    (ht : ∀ c ∈ t.head?, c.isDigit = false) (hw' : ∀ c ∈ w', isBlank c = true) :
    ofText (String.ofList (w ++ ((sign ++ Decimal.chars i.toInt) ++ (t ++ w')))) =
      if i = Int64.minValue then 0 else i := by
  have hrest := isDigit_head_rdropWhile ht
  rw [ofText, String.toList_ofList, trim_chars hw hsign hw']
  rcases hsign with rfl | ⟨rfl, hi⟩
  · by_cases hi : i.toInt < 0
    · rw [Decimal.chars, if_pos hi]
      simp only [List.nil_append, List.cons_append, split_digits hrest]
      exact ofInt_signed_of_neg hi
    · obtain ⟨d, ds, hds⟩ := List.exists_cons_of_ne_nil (Decimal.digits_ne_nil i.toInt.natAbs)
      have hd : d.isDigit = true := Decimal.isDigit_of_mem_digits (by rw [hds]; simp)
      have hsplit := split_digits hrest i.toInt.natAbs
      have hvalue := ofInt_signed_of_nonneg (i := i) (by omega)
      rw [Decimal.chars, if_neg hi, List.nil_append]
      rw [hds] at hsplit hvalue ⊢
      rw [List.cons_append] at hsplit ⊢
      -- a digit is none of the two signs
      split
      · next heq =>
        obtain ⟨rfl, -⟩ := List.cons.inj heq
        contradiction
      · next heq =>
        obtain ⟨rfl, -⟩ := List.cons.inj heq
        contradiction
      · rw [hsplit, hvalue]
  · rw [Decimal.chars, if_neg (by omega)]
    simp only [List.singleton_append, split_digits hrest]
    exact ofInt_signed_of_nonneg hi

end OfText

/-- A port that is written as a text is read as the number that this text counts as. -/
lemma reads_text (room : Nat) {s : String} {v : List Char} (h : Spells (.string s) v) :
    Reads (read room) (ofText s) v := by
  cases h with
  | @string _ t h =>
    have hpresent : Reads (readPresent room) (ofText s) ('"' :: t ++ ['"']) := by
      refine ⟨opens_cons (by decide) _, fun {w rest} hw _ => ?_⟩
      rw [readPresent, List.cons_append, List.cons_append, skipSpace_append_cons hw rfl]
      simp [readString_of_characters h, Except.map]
    exact (hpresent.nullable (by simp)).map fun o : Option Int64 => o.getD 0

end Port

namespace Profile

/-- A profile with another port is read from the same objects with another text for the port. -/
lemma reads_with_port {p : Profile} {ms ms' : List (String × List Char)} {v v' u : List Char}
    {port : Int64} (hms : Layout Field.names p.Stands p.LeftOut (ms ++ ("port", v) :: ms'))
    (hread : ∀ room, Reads (Port.read room) port v')
    (hu : Series (Member Eq) (ms ++ ("port", v') :: ms') u) :
    ofText (String.ofList ('{' :: u ++ ['}'])) = .ok { p with port } := by
  have hport : "port" ∈ Field.port.names := List.mem_singleton.2 rfl
  have hne (f : Field) (hf : f ≠ .port) : "port" ∉ f.names :=
    fun hk => hf ((schema 0).names_disjoint hk hport)
  have hmembers : Layout Field.names
      (fun f t => f = .port ∧ t = v' ∨ f ≠ .port ∧ p.Stands f t)
      (LeftOut { p with port }) (ms ++ ("port", v') :: ms') := by
    refine (hms.replace hport hne v').mono (fun _ _ h => h) ?_
    rintro f ⟨hf, hout⟩
    cases hout with
    | port h => exact absurd rfl hf
    | policyMode h => exact .policyMode h
    | domainList h => exact .domainList h
    | username h => exact .username h
    | password h => exact .password h
  refine (reads_object (by decide) ?_ (.mk hmembers hu)).whole
  rintro f t (⟨rfl, rfl⟩ | ⟨hf, hstands⟩)
  · exact hread _
  · have hvalue : Field.valueIn { p with port } f = Field.valueIn p f := by
      cases f <;> first | rfl | exact absurd rfl hf
    rw [hvalue]
    exact reads_stands (by decide) hstands

/-- A profile is read from an object with its port as a number. If a text that begins with this
number takes its place, with blanks around it, whatever follows the digits and a sign in front, then
the same profile is read, unless the port is the least number. -/
theorem textual_port_reads {p : Profile} {ms ms' : List (String × List Char)}
    {w sign t w' v : List Char}
    (hms : Layout Field.names p.Stands p.LeftOut
      (ms ++ ("port", Decimal.chars p.port.toInt) :: ms'))
    (hw : ∀ c ∈ w, isBlank c = true) (hsign : sign = [] ∨ sign = ['+'] ∧ 0 ≤ p.port.toInt)
    (ht : ∀ c ∈ t.head?, c.isDigit = false) (hw' : ∀ c ∈ w', isBlank c = true)
    (hv : Spells (.string (String.ofList
      (w ++ ((sign ++ Decimal.chars p.port.toInt) ++ (t ++ w'))))) v) :
    (∀ u, Series (Member Eq) (ms ++ ("port", Decimal.chars p.port.toInt) :: ms') u →
      ofText (String.ofList ('{' :: u ++ ['}'])) = .ok p) ∧
    (∀ u, Series (Member Eq) (ms ++ ("port", v) :: ms') u →
      ofText (String.ofList ('{' :: u ++ ['}'])) =
        .ok { p with port := if p.port = Int64.minValue then 0 else p.port }) := by
  refine ⟨fun u hu => ?_, fun u hu => ?_⟩
  · exact (Layouts.reads (by decide) (.mk hms hu)).whole
  · refine reads_with_port hms (fun room => ?_) hu
    rw [← Port.ofText_chars hw hsign ht hw']
    exact Port.reads_text room hv

/-- A port with a sign, a note behind it and blanks around. -/
theorem textual_port_reads_sample :
    let p : Profile := ⟨"1", "P", .http, "h", 8080, .blacklist, [], none, none⟩
    let number := ("\x7b\"port\":8080," ++
      "\"id\":\"1\",\"name\":\"P\",\"type\":\"http\",\"host\":\"h\"\x7d").toList
    let text := ("\x7b\"port\":\"\\t+8080 (tcp) \"," ++
      "\"id\":\"1\",\"name\":\"P\",\"type\":\"http\",\"host\":\"h\"\x7d").toList
    ofText (String.ofList number) = .ok p ∧ ofText (String.ofList text) = .ok p := by
  intro p number text
  let ms := [("id", quote "1"), ("name", quote "P"), ("type", quote "http"), ("host", quote "h")]
  have hms : Layout Field.names p.Stands p.LeftOut
      ([] ++ ("port", Decimal.chars p.port.toInt) :: ms) := by
    refine ⟨?_, fun x hx hk => ?_⟩
    · rintro (_ | _)
      · exact .inr ⟨_, rfl, .id (spells_quote "1")⟩
      · exact .inr ⟨_, rfl, .name (spells_quote "P")⟩
      · exact .inr ⟨_, rfl, .protocol (spells_quote "http")⟩
      · exact .inr ⟨_, rfl, .host (spells_quote "h")⟩
      · exact .inr ⟨_, rfl, .port (.integer _)⟩
      · exact .inl ⟨rfl, .policyMode rfl⟩
      · exact .inl ⟨rfl, .domainList rfl⟩
      · exact .inl ⟨rfl, .username rfl⟩
      · exact .inl ⟨rfl, .password rfl⟩
    · simp only [ms, List.nil_append, List.mem_cons, List.not_mem_nil, or_false] at hx
      rcases hx with rfl | rfl | rfl | rfl | rfl
      · exact absurd (hk .port) (by decide)
      · exact absurd (hk .id) (by decide)
      · exact absurd (hk .name) (by decide)
      · exact absurd (hk .protocol) (by decide)
      · exact absurd (hk .host) (by decide)
  have hv : Spells (.string (String.ofList (['\t'] ++
      ((['+'] ++ Decimal.chars p.port.toInt) ++ (" (tcp)".toList ++ [' '])))))
      (quote "\t+8080 (tcp) ") := by
    have hchars : ['\t'] ++ ((['+'] ++ Decimal.chars p.port.toInt) ++ (" (tcp)".toList ++ [' '])) =
        "\t+8080 (tcp) ".toList := by decide
    rw [hchars, String.ofList_toList]
    exact spells_quote _
  have hnote : ∀ c ∈ " (tcp)".toList.head?, c.isDigit = false := by
    rintro c hc
    obtain rfl : ' ' = c := Option.some.inj hc
    rfl
  obtain ⟨hnumber, htext⟩ := textual_port_reads hms (List.forall_mem_singleton.2 rfl)
    (.inr ⟨rfl, by decide⟩) hnote (List.forall_mem_singleton.2 rfl) hv
  have hjoin (v : List Char) : Series (Member Eq) ([] ++ ("port", v) :: ms)
      (Text.join [','] ((("port", v) :: ms).map fun x => quote x.1 ++ ':' :: x.2)) :=
    .listed (listed_join (by simp))
  have hnumber' : number = compactObject (("port", Decimal.chars p.port.toInt) :: ms) := by decide
  have htext' : text = compactObject (("port", quote "\t+8080 (tcp) ") :: ms) := by decide
  rw [hnumber', htext']
  exact ⟨hnumber _ (hjoin _), htext _ (hjoin _)⟩

/-- As a text the least number of 64 bits reads as 0. -/
theorem least_textual_port_reads_zero :
    let p : Profile := ⟨"1", "P", .http, "h", Int64.minValue, .blacklist, [], none, none⟩
    p.port.toInt = -9223372036854775808 ∧
      ofText ("\x7b\"id\":\"1\",\"name\":\"P\",\"type\":\"http\",\"host\":\"h\"," ++
        "\"port\":-9223372036854775808\x7d") = .ok p ∧
      ofText ("\x7b\"id\":\"1\",\"name\":\"P\",\"type\":\"http\",\"host\":\"h\"," ++
        "\"port\":\"-9223372036854775808\"\x7d") = .ok { p with port := 0 } ∧
      ({ p with port := 0 } : Profile) ≠ p :=
  ⟨rfl, rfl, rfl, by decide⟩

end Profile

end ProxyProfiles

import ProxyProfiles.Proofs.EntryShape
import ProxyProfiles.Routing.Payload
/-!
# What the text of a script tells

The entries of a domain list are put between the quotes of a script as they are. A text stays within
its quotes (`Enclosed`) as long as it has no quote with a closing parenthesis right behind it, since
this is how an expression goes on behind its texts. Under this condition a script can be read off
its text:

* `grouped_append_inj`: the first condition of a text, and what follows it;
* `groups_append_inj`: all conditions, and what follows them;
* `disjunction_append_inj`: also that there are none;
* `eq_of_text_eq`: the script.

So a script without quotes in its conditions is settled by its text (`eq_of_text_eq_of_quote_free`),
and whitelists of enclosed entries decide alike if their scripts have one text
(`decide_eq_of_text_eq`), whatever the hosts of their proxies are. Without the condition they need
not: a single entry may look like two conditions (`forged_entry_decides_otherwise`).
-/

namespace ProxyProfiles

open Text Network

/-- A text that stays within the quotes of an expression. -/
def Enclosed (s : List Char) : Prop :=
  ¬ ['"', ')'] <:+: s

instance (s : List Char) : Decidable (Enclosed s) :=
  inferInstanceAs (Decidable (¬ _))

section Enclosed

variable {c : Char} {s t u v x y : List Char}

lemma Enclosed.of_infix (h : Enclosed t) (hst : s <:+: t) : Enclosed s :=
  fun hs => h (hs.trans hst)

lemma enclosed_of_not_mem (h : '"' ∉ s) : Enclosed s := by
  rintro ⟨l, r, rfl⟩
  exact h (by simp)

lemma Enclosed.of_cons (h : Enclosed (c :: s)) : Enclosed s :=
  h.of_infix (List.suffix_cons c s).isInfix

/-- Where an enclosed text ends is settled by the closing quote with its parenthesis. -/
lemma enclosed_split_unique (hu : Enclosed u) (hv : Enclosed v)
    (h : u ++ '"' :: ')' :: x = v ++ '"' :: ')' :: y) : u = v ∧ x = y := by
  induction u generalizing v with
  | nil =>
    rcases v with _ | ⟨c, _ | ⟨d, v⟩⟩
    · simpa using h
    · simp at h
    · -- the other text would hold the closing quote itself
      simp only [List.nil_append, List.cons_append, List.cons.injEq] at h
      obtain ⟨rfl, rfl, -⟩ := h
      exact absurd ⟨[], v, rfl⟩ hv
  | cons c u ih =>
    rcases v with _ | ⟨d, v⟩
    · rcases u with _ | ⟨d, u⟩
      · simp at h
      · simp only [List.nil_append, List.cons_append, List.cons.injEq] at h
        obtain ⟨rfl, rfl, -⟩ := h
        exact absurd ⟨[], u, rfl⟩ hu
    · simp only [List.cons_append, List.cons.injEq] at h
      obtain ⟨rfl, h⟩ := h
      obtain ⟨rfl, rfl⟩ := ih hu.of_cons hv.of_cons h
      exact ⟨rfl, rfl⟩

end Enclosed

/-! ## Conditions -/

namespace Condition

/-- The expression of a condition in parentheses, as it stands among others. -/
def grouped (c : Condition) : List Char :=
  '(' :: c.expression.toList ++ [')']

/-- What stands in front of the first text of an expression. -/
def lead : Condition → List Char
  | cidr _ _ => '(' :: "isInNet(dnsResolve(host), ".toList ++ ['"']
  | literal _ => '(' :: "host === ".toList ++ ['"']
  | wildcard _ | domain _ => '(' :: "dnsDomainIs(host, ".toList ++ ['"']

/-- The first text of an expression. -/
def inner : Condition → List Char
  | cidr network _ => network.toList
  | literal h => h.toList
  | wildcard d => '.' :: d.toList
  | domain d => d.toList

/-- What stands behind the closing quote of the first text. -/
def trail : Condition → List Char
  | cidr _ mask => ", ".toList ++ '"' :: mask.toList ++ ['"', ')', ')']
  | literal _ => [')']
  | wildcard d => ')' :: " || dnsDomainIs(host, ".toList ++ '"' :: d.toList ++ ['"', ')', ')']
  | domain _ => [')', ')']

lemma toList_inQuotes (s : String) : (inQuotes s).toList = '"' :: s.toList ++ ['"'] := by
  simp [inQuotes]

/-- Where the first text of an expression stands in it. -/
lemma grouped_eq (c : Condition) : c.grouped = c.lead ++ (c.inner ++ '"' :: c.trail) := by
  cases c with
  | cidr network mask =>
    change '(' :: ("isInNet(dnsResolve(host), " ++ inQuotes network ++ ", " ++ inQuotes mask ++
      ")").toList ++ [')'] = _ ++ (_ ++ '"' :: (", ".toList ++ '"' :: mask.toList ++
        ['"', ')', ')']))
    simp [toList_inQuotes, lead, inner]
  | literal h =>
    change '(' :: ("host === " ++ inQuotes h).toList ++ [')'] = _ ++ (_ ++ '"' :: [')'])
    simp [toList_inQuotes, lead, inner]
  | wildcard d =>
    change '(' :: ("dnsDomainIs(host, " ++ inQuotes ("." ++ d) ++ ") || dnsDomainIs(host, " ++
      inQuotes d ++ ")").toList ++ [')'] = _ ++ (_ ++ '"' ::
        (')' :: " || dnsDomainIs(host, ".toList ++ '"' :: d.toList ++ ['"', ')', ')']))
    simp [toList_inQuotes, lead, inner]
  | domain d =>
    change '(' :: ("dnsDomainIs(host, " ++ inQuotes d ++ ")").toList ++ [')'] =
      _ ++ (_ ++ '"' :: [')', ')'])
    simp [toList_inQuotes, lead, inner]

/-- A condition whose texts stay within their quotes. The texts of a network must do without quotes,
since the first of them ends with a comma behind its quote. -/
def IsEnclosed : Condition → Prop
  | cidr network mask => '"' ∉ network.toList ∧ '"' ∉ mask.toList
  | literal h => Enclosed h.toList
  | wildcard d => Enclosed ('.' :: d.toList)
  | domain d => Enclosed d.toList

/-- The texts that a condition is made of. -/
def texts : Condition → List String
  | cidr network mask => [network, mask]
  | literal s | wildcard s | domain s => [s]

section Inversion

variable {c c' : Condition} {x y : List Char}

/-- Texts without quotes stay within their quotes. -/
lemma isEnclosed_of_texts (h : ∀ s ∈ c.texts, '"' ∉ s.toList) : c.IsEnclosed := by
  cases c with
  | cidr network mask => exact ⟨h network (by simp [texts]), h mask (by simp [texts])⟩
  | literal s => exact enclosed_of_not_mem (h s (by simp [texts]))
  | wildcard d =>
    have hd : '"' ∉ d.toList := h d (by simp [texts])
    exact enclosed_of_not_mem (by simpa using hd)
  | domain s => exact enclosed_of_not_mem (h s (by simp [texts]))

/-- The beginnings of two expressions differ, or they are the same. -/
lemma lead_eq (h : c.lead ++ x = c'.lead ++ y) : c.lead = c'.lead := by
  cases c <;> cases c' <;> simp [lead] at h ⊢

/-- The first text of a condition is enclosed, and a parenthesis stands behind its closing quote,
unless the condition is on a network. -/
lemma exists_trail_eq (hc : c.IsEnclosed) (hne : ∀ network mask, c ≠ cidr network mask) :
    Enclosed c.inner ∧ ∃ r, c.trail = ')' :: r := by
  cases c with
  | cidr network mask => exact absurd rfl (hne network mask)
  | literal h => exact ⟨hc, [], rfl⟩
  | wildcard d => exact ⟨hc, _, rfl⟩
  | domain d => exact ⟨hc, [')'], rfl⟩

lemma lead_cidr_ne {network mask : String} (hne : ∀ network mask, c ≠ cidr network mask) :
    (cidr network mask).lead ≠ c.lead := by
  cases c with
  | cidr network mask => exact absurd rfl (hne network mask)
  | literal _ | wildcard _ | domain _ => simp [lead]

/-- Where the first text of a condition ends, if both conditions begin alike. -/
lemma inner_append_inj (hc : c.IsEnclosed) (hc' : c'.IsEnclosed) (hlead : c.lead = c'.lead)
    (h : c.inner ++ '"' :: (c.trail ++ x) = c'.inner ++ '"' :: (c'.trail ++ y)) :
    c.inner = c'.inner ∧ c.trail ++ x = c'.trail ++ y := by
  by_cases hnet : ∃ network mask, c = cidr network mask
  · obtain ⟨network, mask, rfl⟩ := hnet
    by_cases hnet' : ∃ network mask, c' = cidr network mask
    · obtain ⟨network', mask', rfl⟩ := hnet'
      exact split_unique hc.1 hc'.1 h
    · push Not at hnet'
      exact absurd hlead (lead_cidr_ne hnet')
  · push Not at hnet
    by_cases hnet' : ∃ network mask, c' = cidr network mask
    · obtain ⟨network', mask', rfl⟩ := hnet'
      exact absurd hlead.symm (lead_cidr_ne hnet)
    · push Not at hnet'
      obtain ⟨hinner, r, hr⟩ := exists_trail_eq hc hnet
      obtain ⟨hinner', r', hr'⟩ := exists_trail_eq hc' hnet'
      rw [hr, hr'] at h ⊢
      obtain ⟨hsame, hrest⟩ := enclosed_split_unique hinner hinner' h
      exact ⟨hsame, congrArg (')' :: ·) hrest⟩

/-- The expression of a wildcard goes on where that of a domain ends. -/
lemma trail_wildcard_append_ne (d d' : String) :
    (wildcard d).trail ++ x ≠ (domain d').trail ++ y := by
  change ')' :: " || dnsDomainIs(host, ".toList ++ '"' :: d.toList ++ ['"', ')', ')'] ++ x ≠
    [')', ')'] ++ y
  simp

/-- A condition is settled by what stands in front of its first text, this text and what stands
behind it. -/
lemma eq_of_parts (hc : c.IsEnclosed) (hc' : c'.IsEnclosed) (hlead : c.lead = c'.lead)
    (hinner : c.inner = c'.inner) (htrail : c.trail ++ x = c'.trail ++ y) : c = c' ∧ x = y := by
  cases c with
  | cidr network mask =>
    cases c' with
    | cidr network' mask' =>
      have hmasks : mask.toList ++ '"' :: (')' :: ')' :: x) =
          mask'.toList ++ '"' :: (')' :: ')' :: y) := by
        simpa [trail] using htrail
      have hquote : '"' ∉ mask.toList := hc.2
      have hquote' : '"' ∉ mask'.toList := hc'.2
      obtain ⟨hmask, hrest⟩ := split_unique hquote hquote' hmasks
      rw [String.toList_injective hinner, String.toList_injective hmask]
      exact ⟨rfl, (List.cons.inj (List.cons.inj hrest).2).2⟩
    | literal _ | wildcard _ | domain _ => simp [lead] at hlead
  | literal h =>
    cases c' with
    | literal h' =>
      obtain rfl : h = h' := String.toList_injective hinner
      exact ⟨rfl, List.append_cancel_left htrail⟩
    | cidr _ _ | wildcard _ | domain _ => simp [lead] at hlead
  | wildcard d =>
    cases c' with
    | wildcard d' =>
      obtain rfl : d = d' := String.toList_injective (List.cons.inj hinner).2
      exact ⟨rfl, List.append_cancel_left htrail⟩
    | domain d' => exact absurd htrail (trail_wildcard_append_ne d d')
    | cidr _ _ | literal _ => simp [lead] at hlead
  | domain d =>
    cases c' with
    | domain d' =>
      obtain rfl : d = d' := String.toList_injective hinner
      exact ⟨rfl, List.append_cancel_left htrail⟩
    | wildcard d' => exact absurd htrail.symm (trail_wildcard_append_ne d' d)
    | cidr _ _ | literal _ => simp [lead] at hlead

/-- The first condition of a text can be read off it, and so can what follows. -/
lemma grouped_append_inj (hc : c.IsEnclosed) (hc' : c'.IsEnclosed)
    (h : c.grouped ++ x = c'.grouped ++ y) : c = c' ∧ x = y := by
  have hall : c.lead ++ (c.inner ++ '"' :: (c.trail ++ x)) =
      c'.lead ++ (c'.inner ++ '"' :: (c'.trail ++ y)) := by
    simpa [grouped_eq] using h
  have hlead := lead_eq hall
  rw [hlead] at hall
  obtain ⟨hinner, htrail⟩ := inner_append_inj hc hc' hlead (List.append_cancel_left hall)
  exact eq_of_parts hc hc' hlead hinner htrail

end Inversion

/-! ## Entries -/

/-- An entry that stays within its quotes stands for a condition that does. -/
lemma isEnclosed_ofEntry {entry : String} (h : Enclosed entry.toList) :
    (ofEntry entry).IsEnclosed := by
  have hnumeric {s : List Char} (hs : ∀ x ∈ s, x = '.' ∨ x.isDigit = true) : '"' ∉ s := by
    intro hmem
    rcases hs _ hmem with hdot | hdigit
    · exact absurd hdot (by decide)
    · exact absurd hdigit (by decide)
  generalize hc : ofEntry entry = c
  cases ofEntry_eq_iff.1 hc with
  | @network _ n l hnetwork hsize =>
    refine ⟨hnumeric fun _ => hnetwork.quad.mem, ?_⟩
    rw [Netmask.toList_text]
    exact hnumeric fun _ => mem_dotted
  | address _ => exact h
  | star d =>
    have hinfix : '.' :: d.toList <:+: ("*." ++ d).toList := ⟨['*'], [], by simp⟩
    exact h.of_infix hinfix
  | other _ _ _ => exact h

end Condition

/-! ## Scripts -/

namespace RoutingScript

/-- Conditions as they stand in a script, each in parentheses. -/
def groups (cs : List Condition) : List Char :=
  join " || ".toList (cs.map Condition.grouped)

lemma groups_cons_cons (c d : Condition) (cs : List Condition) :
    groups (c :: d :: cs) = c.grouped ++ (" || ".toList ++ groups (d :: cs)) := by
  simp [groups, join]

/-- The conditions of a text can be read off it if a parenthesis ends them. -/
lemma groups_append_inj {cs cs' : List Condition} {x y : List Char}
    (hcs : ∀ c ∈ cs, c.IsEnclosed) (hcs' : ∀ c ∈ cs', c.IsEnclosed) (hne : cs ≠ [])
    (hne' : cs' ≠ []) (h : groups cs ++ ')' :: x = groups cs' ++ ')' :: y) : cs = cs' ∧ x = y := by
  induction cs generalizing cs' with
  | nil => exact absurd rfl hne
  | cons c cs ih =>
    rcases cs' with _ | ⟨c', cs'⟩
    · exact absurd rfl hne'
    have hc := hcs c (by simp)
    have hc' := hcs' c' (by simp)
    -- what follows the first condition, a bar or a parenthesis, tells whether there are others
    rcases cs with _ | ⟨d, cs⟩ <;> rcases cs' with _ | ⟨d', cs'⟩
    · obtain ⟨rfl, hrest⟩ := Condition.grouped_append_inj hc hc' h
      exact ⟨rfl, (List.cons.inj hrest).2⟩
    · rw [groups_cons_cons, List.append_assoc] at h
      exact absurd (Condition.grouped_append_inj hc hc' h).2 (by simp)
    · rw [groups_cons_cons, List.append_assoc] at h
      exact absurd (Condition.grouped_append_inj hc hc' h).2 (by simp)
    · rw [groups_cons_cons, groups_cons_cons, List.append_assoc, List.append_assoc,
        List.append_assoc, List.append_assoc] at h
      obtain ⟨rfl, hrest⟩ := Condition.grouped_append_inj hc hc' h
      obtain ⟨hothers, hend⟩ := ih (fun c hc => hcs c (by simp [hc]))
        (fun c hc => hcs' c (by simp [hc])) (by simp) (by simp) (List.append_cancel_left hrest)
      exact ⟨by rw [hothers], hend⟩

lemma toList_disjunction (s : RoutingScript) (h : s.conditions ≠ []) :
    s.disjunction.toList = groups s.conditions := by
  rw [disjunction, if_neg h, joined, String.toList_ofList, List.map_map]
  refine congrArg (join " || ".toList) (List.map_congr_left fun c _ => ?_)
  simp [Condition.grouped]

lemma head_groups {c : Condition} {cs : List Condition} : (groups (c :: cs)).head? = some '(' := by
  rcases cs with _ | ⟨d, cs⟩
  · rfl
  · rfl

lemma disjunction_append_ne {s t : RoutingScript} {x y : List Char} (hs : s.conditions = [])
    (ht : t.conditions ≠ []) : s.disjunction.toList ++ x ≠ t.disjunction.toList ++ y := by
  obtain ⟨c, cs, hcs⟩ := List.exists_cons_of_ne_nil ht
  intro h
  have hhead := congrArg List.head? h
  rw [toList_disjunction t ht, hcs, disjunction, if_pos hs] at hhead
  simp [List.head?_append, head_groups] at hhead

/-- All conditions can be read off a script, and so can what follows them. -/
lemma disjunction_append_inj {s t : RoutingScript} {x y : List Char}
    (hs : ∀ c ∈ s.conditions, c.IsEnclosed) (ht : ∀ c ∈ t.conditions, c.IsEnclosed)
    (h : s.disjunction.toList ++ ')' :: x = t.disjunction.toList ++ ')' :: y) :
    s.conditions = t.conditions ∧ x = y := by
  by_cases hs' : s.conditions = [] <;> by_cases ht' : t.conditions = []
  · rw [disjunction, disjunction, if_pos hs', if_pos ht'] at h
    exact ⟨hs'.trans ht'.symm, (List.cons.inj (List.append_cancel_left h)).2⟩
  · exact absurd h (disjunction_append_ne hs' ht')
  · exact absurd h.symm (disjunction_append_ne ht' hs')
  · rw [toList_disjunction s hs', toList_disjunction t ht'] at h
    exact groups_append_inj hs ht hs' ht' h

end RoutingScript

namespace Directive

/-- A directive can be read off its text, since no port holds a colon. -/
lemma eq_of_text_eq {d d' : Directive} (h : d.text.toList = d'.text.toList) : d = d' := by
  have hport (port : Int64) : ':' ∉ Decimal.chars port.toInt := by
    intro hcolon
    rcases Decimal.eq_or_isDigit_of_mem_chars hcolon with hsign | hdigit
    · exact absurd hsign (by decide)
    · exact absurd hdigit (by decide)
  have hendpoint {host host' : String} {port port' : Int64}
      (h : host.toList ++ ':' :: Decimal.chars port.toInt =
        host'.toList ++ ':' :: Decimal.chars port'.toInt) : host = host' ∧ port = port' := by
    obtain ⟨hhost, hchars⟩ := split_unique_last (hport port) (hport port') h
    exact ⟨String.toList_injective hhost, Int64.toInt_inj.1 (Decimal.chars_inj hchars)⟩
  cases d with
  | proxy host port =>
    cases d' with
    | proxy host' port' =>
      obtain ⟨rfl, rfl⟩ := hendpoint (by simpa [text, Decimal.ofInt] using h)
      rfl
    | socks host' port' => simp [text] at h
  | socks host port =>
    cases d' with
    | socks host' port' =>
      obtain ⟨rfl, rfl⟩ := hendpoint (by simpa [text, Decimal.ofInt] using h)
      rfl
    | proxy host' port' => simp [text] at h

end Directive

namespace RoutingScript

lemma toList_text (s : RoutingScript) :
    s.text.toList = "function FindProxyForURL(url, host) \x7b\n  if (".toList ++
      (s.disjunction.toList ++ ')' :: (" \x7b\n    return \"".toList ++
        (s.proxy.text.toList ++ "\";\n  \x7d\n  return \"DIRECT\";\n\x7d\n".toList))) := by
  change ("function FindProxyForURL(url, host) \x7b\n  if (" ++ s.disjunction ++
    ") \x7b\n    return " ++ Condition.inQuotes s.proxy.text ++
    ";\n  \x7d\n  return \"DIRECT\";\n\x7d\n").toList = _
  simp [Condition.toList_inQuotes]

/-- A script whose conditions stay within their quotes can be read off its text. -/
lemma eq_of_text_eq {s t : RoutingScript} (hs : ∀ c ∈ s.conditions, c.IsEnclosed)
    (ht : ∀ c ∈ t.conditions, c.IsEnclosed) (h : s.text = t.text) : s = t := by
  have htext := congrArg String.toList h
  rw [toList_text, toList_text] at htext
  obtain ⟨hconditions, hrest⟩ := disjunction_append_inj hs ht (List.append_cancel_left htext)
  have hproxy : s.proxy = t.proxy :=
    Directive.eq_of_text_eq (List.append_cancel_right (List.append_cancel_left hrest))
  rcases s with ⟨conditions, proxy⟩
  rw [show conditions = t.conditions from hconditions, show proxy = t.proxy from hproxy]

/-- A script is settled by its text if the texts of its conditions have no quotes: the conditions,
with their kinds, their order and their texts, and the proxy, with the kind of its directive, its
host and its port. The host of the proxy may be any text. -/
theorem eq_of_text_eq_of_quote_free {s t : RoutingScript}
    (hs : ∀ c ∈ s.conditions, ∀ x ∈ c.texts, '"' ∉ x.toList)
    (ht : ∀ c ∈ t.conditions, ∀ x ∈ c.texts, '"' ∉ x.toList) (h : s.text = t.text) : s = t := by
  have hs' : ∀ c ∈ s.conditions, c.IsEnclosed :=
    fun c hc => Condition.isEnclosed_of_texts (hs c hc)
  have ht' : ∀ c ∈ t.conditions, c.IsEnclosed :=
    fun c hc => Condition.isEnclosed_of_texts (ht c hc)
  exact eq_of_text_eq hs' ht' h

/-- A whitelist of given entries. -/
def whitelistSample (entries : List String) : Profile :=
  .ofDraft "1" ((Draft.new "P" .http "10.0.0.1" 8080).withPolicy .whitelist entries)

/-- The script of a whitelist whose entries have parentheses, bars and commas is the one that its
text shows. -/
theorem eq_of_text_eq_sample :
    let s := ofProfile (whitelistSample ["10.0.0.0/08", "*.a)) || (b", ".a)) || (b", "c, d"])
    let t : RoutingScript :=
      ⟨[.cidr "10.0.0.0" "255.0.0.0", .wildcard "a)) || (b", .domain ".a)) || (b", .domain "c, d"],
        .proxy "10.0.0.1" 8080⟩
    (∀ c ∈ s.conditions, ∀ x ∈ c.texts, '"' ∉ x.toList) ∧
      (∀ c ∈ t.conditions, ∀ x ∈ c.texts, '"' ∉ x.toList) ∧ s.text = t.text ∧ s = t := by
  intro s t
  have hs : ∀ c ∈ s.conditions, ∀ x ∈ c.texts, '"' ∉ x.toList := by decide
  have ht : ∀ c ∈ t.conditions, ∀ x ∈ c.texts, '"' ∉ x.toList := by decide
  have htext : s.text = t.text := rfl
  exact ⟨hs, ht, htext, eq_of_text_eq_of_quote_free hs ht htext⟩

/-- The text of a script settles how requests are routed, if the entries of both domain lists stay
within their quotes: two profiles whose scripts have the same text decide alike on every host. The
hosts of the proxies may be any texts. -/
theorem decide_eq_of_text_eq {p q : Profile} (hp : ∀ e ∈ p.domainList, Enclosed e.toList)
    (hq : ∀ e ∈ q.domainList, Enclosed e.toList) (h : (ofProfile p).text = (ofProfile q).text)
    (host : String) (resolve : String → Option Ipv4) :
    (ofProfile p).decide host resolve = (ofProfile q).decide host resolve := by
  have hconditions {p : Profile} (hp : ∀ e ∈ p.domainList, Enclosed e.toList) :
      ∀ c ∈ (ofProfile p).conditions, c.IsEnclosed := by
    intro c hc
    obtain ⟨e, he, rfl⟩ := List.mem_map.1 hc
    exact Condition.isEnclosed_ofEntry (hp e he)
  rw [eq_of_text_eq (hconditions hp) (hconditions hq) h]

/-- Two spellings of one network, next to an entry with quotes, make the same text and decide
alike. -/
theorem decide_eq_of_respelt_network :
    let p := whitelistSample ["10.0.0.0/8", "\"a\".com"]
    let q := whitelistSample ["10.0.0.0/08", "\"a\".com"]
    p ≠ q ∧ (ofProfile p).text = (ofProfile q).text ∧
      (ofProfile p).decide "10.1.2.3" Ipv4.parse? =
        (ofProfile q).decide "10.1.2.3" Ipv4.parse? := by
  intro p q
  have hsame : ofProfile p = ofProfile q := by decide
  have htext : (ofProfile p).text = (ofProfile q).text := congrArg text hsame
  have hp : ∀ e ∈ p.domainList, Enclosed e.toList := by decide
  have hq : ∀ e ∈ q.domainList, Enclosed e.toList := by decide
  exact ⟨by decide, htext, decide_eq_of_text_eq hp hq htext "10.1.2.3" Ipv4.parse?⟩

/-- An entry with quotes and parentheses makes the text of two entries, and decides otherwise: the
one condition it stands for does not hold of the host that the first of the two covers. -/
theorem forged_entry_decides_otherwise :
    let p := whitelistSample ["a.com\")) || (dnsDomainIs(host, \"b.com"]
    let q := whitelistSample ["a.com", "b.com"]
    p.compile = .script (ofProfile p) ∧ q.compile = .script (ofProfile q) ∧
      (ofProfile p).text = (ofProfile q).text ∧
      (ofProfile p).decide "a.com" (fun _ => none) = .direct ∧
      (ofProfile q).decide "a.com" (fun _ => none) = .viaProxy (.proxy "10.0.0.1" 8080) := by
  intro p q
  have htext : (ofProfile p).text = (ofProfile q).text := by decide +kernel
  exact ⟨rfl, rfl, htext, by decide, by decide⟩

end RoutingScript

end ProxyProfiles

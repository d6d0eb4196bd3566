import ProxyProfiles.Proofs.Json.Reading
import ProxyProfiles.Roster.Format
import ProxyProfiles.Routing.RuleTable
/-!
# What is written is read back

Profiles, rosters and rule tables are read from every spelling of the value that they are written
as; from their written forms in particular. A record starts out with nothing known of it, and each
of its members adds the value that stands for it.
-/

namespace ProxyProfiles

open Text Json

/-! ## Members -/

section Members

variable {α β σ : Type} {take : String → σ → Reader σ} {k : String} {m : σ}

/-- A member that is handled by reading its value with `r` adds what `r` finds; `f` puts it where it
is kept. -/
lemma reads_taken {P : β → List Char → Prop} {b : β} {r : Reader α} {a : α} {f : σ → Option α → σ}
    (hk : ∀ s, take k m s = (readMember k none r s).map fun p => (f m (some p.1), p.2))
    (h : ∀ t, P b t → Reads r a t) :
    ∀ t, P b t → ReadsBehindName (take k m) (f m (some a)) t := by
  intro t ht
  rw [funext hk]
  exact ReadsBehindName.map (fun a => f m (some a)) ((h t ht).member k)

/-- A member that is left out leaves nothing where it is kept. -/
lemma takes_optional {o : Option α} {v : α → Value} {r : Reader (Option α)}
    {f : σ → Option (Option α) → σ} (hm : f m none = m)
    (hk : ∀ s, take k m s = (readMember k none r s).map fun p => (f m (some p.1), p.2))
    (h : ∀ a t, Spells (v a) t → Reads r (some a) t) :
    Takes take Spells m (Value.optional k (o.map v)) (f m (o.map some)) := by
  cases o with
  | none =>
    rw [Option.map_none, Option.map_none, hm]
    exact .nil
  | some a => exact .cons (reads_taken hk (h a)) .nil

end Members

/-! ## Texts and ports -/

lemma reads_string {s : String} {t : List Char} (h : Spells (.string s) t) :
    Reads readText s t := by
  cases h with
  | string h => exact reads_text h

lemma reads_strings {room : Nat} (hroom : 1 < room) {ss : List String} {t : List Char}
    (h : Spells (.array (ss.map .string)) t) : Reads (readArray room readText) ss t := by
  cases h with
  | array h => exact reads_array hroom (h.of_map fun _ _ => reads_string)

/-- A value that is a string may also be `null`. -/
lemma reads_nullable_string {s : String} {t : List Char} (h : Spells (.string s) t) :
    Reads (nullable readText) (some s) t := by
  cases h with
  | string h => exact (reads_text h).nullable (by simp)

lemma head_chars_ne {i : Int} : (Decimal.chars i).head? ≠ some 'n' := by
  rw [Decimal.chars]
  split
  · simp
  · intro hn
    have hdigit : 'n'.isDigit = true := Decimal.isDigit_of_mem_digits (List.mem_of_head? hn)
    contradiction

lemma reads_readPresent (room : Nat) (i : Int64) :
    Reads (Port.readPresent room) i (Decimal.chars i.toInt) := by
  have hof : Port.ofNumber (.integer i.toInt) = i := by
    rw [Port.ofNumber, if_pos (Int64.toInt_le i), Int64.ofInt_toInt]
  refine reads_number (fun hw h => ?_) (fun {w c s rest} hw hc h => ?_)
  · rw [Port.readPresent, skipSpace_append_cons hw rfl]
    simp [h, hof, Except.map]
  · rw [Port.readPresent, skipSpace_append_cons hw (isSpace_of_isDigit hc)]
    -- a digit is none of the characters that are told apart before it
    split
    · next heq => simp_all
    · next heq => simp_all
    · contradiction
    · next heq =>
      obtain ⟨rfl, rfl⟩ := by simpa using heq
      rw [if_pos hc, h]
      simp [hof, Except.map]

lemma reads_port (room : Nat) {i : Int64} {t : List Char} (h : Spells (.integer i.toInt) t) :
    Reads (Port.read room) i t := by
  cases h with
  | integer => exact ((reads_readPresent room i).nullable head_chars_ne).map fun o => o.getD 0

/-! ## Profiles -/

namespace Profile

/-- What is known of a profile when all of its members are read. -/
def known (p : Profile) : Members where
  id := p.id
  name := p.name
  protocol := p.protocol
  host := p.host
  port := p.port
  policyMode := p.policyMode
  domainList := p.domainList
  username := p.username.map some
  password := p.password.map some

@[simp] lemma ofMembers_known (p : Profile) : ofMembers p.known = .ok p := by
  rcases p with ⟨id, name, protocol, host, port, mode, domains, _ | username, _ | password⟩ <;> rfl

lemma reads_protocol (room : Nat) {p : Protocol} {t : List Char}
    (h : Spells (.string p.name) t) : Reads (readProtocol room) p t := by
  cases h with
  | string h => exact reads_variant p.ofName?_name h

lemma reads_mode (room : Nat) {m : PolicyMode} {t : List Char}
    (h : Spells (.string m.name) t) : Reads (readMode room) m t := by
  cases h with
  | string h => exact reads_variant m.ofName?_name h

/-- The members that every profile is written with add all but the credentials. -/
lemma takes_required {room : Nat} (hroom : 1 < room) (p : Profile) :
    Takes (takeMember room) Spells {}
      [("id", .string p.id), ("name", .string p.name), ("type", .string p.protocol.name),
        ("host", .string p.host), ("port", .integer p.port.toInt),
        ("policyMode", .string p.policyMode.name),
        ("domainList", .array (p.domainList.map .string))]
      { p.known with username := none, password := none } := by
  exact
    .cons (reads_taken (f := fun m a => { m with id := a }) (by simp [takeMember])
      fun _ => reads_string) <|
    .cons (reads_taken (f := fun m a => { m with name := a }) (by simp [takeMember])
      fun _ => reads_string) <|
    .cons (reads_taken (f := fun m a => { m with protocol := a }) (by simp [takeMember])
      fun _ => reads_protocol room) <|
    .cons (reads_taken (f := fun m a => { m with host := a }) (by simp [takeMember])
      fun _ => reads_string) <|
    .cons (reads_taken (f := fun m a => { m with port := a }) (by simp [takeMember])
      fun _ => reads_port room) <|
    .cons (reads_taken (f := fun m a => { m with policyMode := a }) (by simp [takeMember])
      fun _ => reads_mode room) <|
    .cons (reads_taken (f := fun m a => { m with domainList := a }) (by simp [takeMember])
      fun _ => reads_strings hroom) .nil

/-- The members for the credentials add the rest. -/
lemma takes_credentials {room : Nat} (p : Profile) :
    Takes (takeMember room) Spells { p.known with username := none, password := none }
      (Value.optional "username" (p.username.map .string) ++
        Value.optional "password" (p.password.map .string)) p.known :=
  (takes_optional (f := fun (m : Members) a => { m with username := a }) rfl (by simp [takeMember])
    fun _ _ => reads_nullable_string).append <|
  takes_optional (f := fun (m : Members) a => { m with password := a }) rfl (by simp [takeMember])
    fun _ _ => reads_nullable_string

/-- A profile is read from every spelling of the value that it is written as. -/
theorem reads {room : Nat} (hroom : 2 < room) {p : Profile} {t : List Char}
    (h : Spells p.toJson t) : Reads (read room) p t := by
  cases h with
  | object h =>
    have htakes := (takes_required (show 1 < room - 1 by omega) p).append (takes_credentials p)
    rw [List.append_assoc] at h
    refine reads_record (by omega) h htakes fun hread => ?_
    simp [readObject, hread, bind, Except.bind, pure, Except.pure]

end Profile

/-! ## Rosters -/

namespace Roster

/-- What is known of a roster when both of its members are read. -/
def known (r : Roster) : Members where
  profiles := r.profiles
  activeId := some r.activeId

lemma reads_activeId {o : Option String} {t : List Char}
    (h : Spells (match o with | some id => .string id | none => .null) t) :
    Reads (nullable readText) o t := by
  cases o with
  | none => cases h; exact reads_null readText
  | some id => exact reads_nullable_string h

/-- A roster is read from every spelling of the value that it is written as. -/
theorem reads {room : Nat} (hroom : 4 < room) {r : Roster} {t : List Char}
    (h : Spells r.toJson t) : Reads (read room) r t := by
  have hprofiles : ∀ t, Spells (.array (r.profiles.map Profile.toJson)) t →
      Reads (readArray (room - 1) (Profile.read (room - 2))) r.profiles t := by
    intro t ht
    cases ht with
    | array ht =>
      exact reads_array (by omega) (ht.of_map fun _ _ => Profile.reads (by omega))
  cases h with
  | object h =>
    refine reads_record (by omega) h (?_ : Takes (takeMember (room - 1)) _ {} _ r.known) ?_
    · exact
        .cons (reads_taken (f := fun m a => { m with profiles := a })
          (by simp [takeMember, Nat.sub_sub]) hprofiles) <|
        .cons (reads_taken (f := fun m a => { m with activeId := a }) (by simp [takeMember])
          fun _ => reads_activeId) .nil
    · intro s rest hread
      simp [readObject, hread, Except.map, ofMembers, known]

end Roster

/-! ## Rule tables -/

namespace Server

lemma reads_integer {i : Int64} {t : List Char} (h : Spells (.integer i.toInt) t) :
    Reads readInt64 i t := by
  cases h with
  | integer => exact reads_int64 i

/-- A proxy is read from every spelling of the value that it is written as. -/
theorem reads {room : Nat} (hroom : 1 < room) {s : Server} {t : List Char}
    (h : Spells s.toJson t) : Reads (read room) s t := by
  cases h with
  | object h =>
    refine reads_record (by omega) h
      (?_ : Takes takeMember _ {} _ { scheme := s.scheme, host := s.host, port := s.port }) ?_
    · exact
        .cons (reads_taken (f := fun m a => { m with scheme := a }) (by simp [takeMember])
          fun _ => reads_string) <|
        .cons (reads_taken (f := fun m a => { m with host := a }) (by simp [takeMember])
          fun _ => reads_string) <|
        .cons (reads_taken (f := fun m a => { m with port := a }) (by simp [takeMember])
          fun _ => reads_integer) .nil
    · intro s rest hread
      simp [readObject, hread, ofMembers, needMember, bind, Except.bind, pure, Except.pure]

end Server

namespace RuleTable

lemma reads_server {room : Nat} (hroom : 1 < room) {s : Server} {t : List Char}
    (h : Spells s.toJson t) : Reads (readServer room) (some s) t := by
  have hs : Reads (Server.read room) s t := Server.reads hroom h
  cases h with
  | object h => exact hs.nullable (by simp)

/-- What is known of a rule table when all of its members are read. -/
def known (r : RuleTable) : Members where
  singleProxy := r.singleProxy.map some
  proxyForHttp := r.proxyForHttp.map some
  proxyForHttps := r.proxyForHttps.map some
  fallbackProxy := r.fallbackProxy.map some
  bypassList := r.bypassList

@[simp] lemma ofMembers_known (r : RuleTable) : ofMembers r.known = .ok r := by
  rcases r with ⟨_ | a, _ | b, _ | c, _ | d, bypass⟩ <;> rfl

/-- The members for proxies add all but the bypass list. -/
lemma takes_servers {room : Nat} (hroom : 1 < room) (r : RuleTable) :
    Takes (takeMember room) Spells {}
      (Value.optional "singleProxy" (r.singleProxy.map Server.toJson) ++
        Value.optional "proxyForHttp" (r.proxyForHttp.map Server.toJson) ++
        Value.optional "proxyForHttps" (r.proxyForHttps.map Server.toJson) ++
        Value.optional "fallbackProxy" (r.fallbackProxy.map Server.toJson))
      { r.known with bypassList := none } :=
  (((takes_optional (f := fun (m : Members) a => { m with singleProxy := a }) rfl
      (by simp [takeMember]) fun _ _ => reads_server hroom).append <|
    takes_optional (f := fun (m : Members) a => { m with proxyForHttp := a }) rfl
      (by simp [takeMember]) fun _ _ => reads_server hroom).append <|
    takes_optional (f := fun (m : Members) a => { m with proxyForHttps := a }) rfl
      (by simp [takeMember]) fun _ _ => reads_server hroom).append <|
    takes_optional (f := fun (m : Members) a => { m with fallbackProxy := a }) rfl
      (by simp [takeMember]) fun _ _ => reads_server hroom

lemma takes_bypassList {room : Nat} (hroom : 1 < room) (r : RuleTable) :
    Takes (takeMember room) Spells { r.known with bypassList := none }
      [("bypassList", .array (r.bypassList.map .string))] r.known :=
  .cons (reads_taken (f := fun m a => { m with bypassList := a }) (by simp [takeMember])
    fun _ => reads_strings hroom) .nil

/-- A rule table is read from every spelling of the value that it is written as. -/
theorem reads {room : Nat} (hroom : 2 < room) {r : RuleTable} {t : List Char}
    (h : Spells r.toJson t) : Reads (read room) r t := by
  have hroom' : 1 < room - 1 := by omega
  cases h with
  | object h =>
    have htakes := (takes_servers hroom' r).append (takes_bypassList hroom' r)
    refine reads_record (by omega) h htakes fun hread => ?_
    simp [readObject, hread, bind, Except.bind, pure, Except.pure]

end RuleTable

/-! ## Written forms -/

/-- A reader that reads every spelling of a value reads both of its written forms. -/
lemma readWhole_written {α : Type} {r : Reader α} {a : α} {v : Value}
    (h : ∀ t, Spells v t → Reads r a t) :
    readWhole r v.compactText = .ok a ∧ readWhole r v.prettyText = .ok a :=
  ⟨(h _ (spells_compact v)).whole, (h _ (spells_pretty v 0)).whole⟩

/-- A stored roster is read back. -/
theorem Roster.ofText_text (r : Roster) : Roster.ofText r.text = .ok r :=
  (readWhole_written fun _ => Roster.reads (show 4 < depthLimit by decide)).2

/-- Reading undoes writing, over one line and over several: of every roster, every profile and every
rule table. -/
theorem written_values_read_back :
    (∀ r : Roster, Roster.ofText r.toJson.compactText = .ok r ∧ Roster.ofText r.text = .ok r) ∧
    (∀ p : Profile, Profile.ofText p.toJson.compactText = .ok p ∧
      Profile.ofText p.toJson.prettyText = .ok p) ∧
    (∀ t : RuleTable, RuleTable.ofText t.toJson.compactText = .ok t ∧
      RuleTable.ofText t.text = .ok t) := by
  refine ⟨fun r => ?_, fun p => ?_, fun t => ?_⟩
  · exact readWhole_written fun _ => Roster.reads (by decide)
  · exact readWhole_written fun _ => Profile.reads (by decide)
  · exact readWhole_written fun _ => RuleTable.reads (by decide)

end ProxyProfiles

import ProxyProfiles.Proofs.Json.Fields
import ProxyProfiles.Proofs.StoredForm
/-!
# Layouts of stored profiles

A stored profile can be laid out in many ways. Its members may stand in any order, `protocol` may
stand for `type`, a port of 0 may be left out or be `null`, and so may the user name and the
password of a profile without any; the policy mode and the domain list may be left out where they
are the defaults. Members of other names may stand anywhere and hold any value (`Profile.Layouts`).
The same goes for a roster, whose list holds such profiles (`Roster.Layouts`).

All of them are read as the profile or the roster that they lay out (`layouts_read`). A record is
described by the values of its fields (`Field.valueIn`), and its reader by a schema, which says
where it keeps what it has read of each field. What is left is one lemma for each record on how the
texts are read that may stand for a field (`Profile.reads_stands`, `Roster.reads_stands`).
-/

namespace ProxyProfiles

open Json

namespace Profile

/-- The fields of a stored profile. -/
inductive Field where
  | id | name | protocol | host | port | policyMode | domainList | username | password
deriving DecidableEq

namespace Field

/-- The names under which a field may stand. -/
def names : Field → List String
  | id => ["id"]
  | name => ["name"]
  | protocol => ["type", "protocol"]
  | host => ["host"]
  | port => ["port"]
  | policyMode => ["policyMode"]
  | domainList => ["domainList"]
  | username => ["username"]
  | password => ["password"]

/-- What a field holds. -/
def Content : Field → Type
  | id | name | host => String
  | protocol => Protocol
  | port => Int64
  | policyMode => PolicyMode
  | domainList => List String
  | username | password => Option String

/-- What a profile has in a field. -/
def valueIn (p : Profile) : (f : Field) → f.Content
  | id => p.id
  | name => p.name
  | protocol => p.protocol
  | host => p.host
  | port => p.port
  | policyMode => p.policyMode
  | domainList => p.domainList
  | username => p.username
  | password => p.password

/-- What is known of a field. -/
def slot : (f : Field) → Members → Option f.Content
  | id, m => m.id
  | name, m => m.name
  | protocol, m => m.protocol
  | host, m => m.host
  | port, m => m.port
  | policyMode, m => m.policyMode
  | domainList, m => m.domainList
  | username, m => m.username
  | password, m => m.password

/-- What is known when a field is found to have a value. -/
def put : (f : Field) → f.Content → Members → Members
  | id, a, m => { m with id := some a }
  | name, a, m => { m with name := some a }
  | protocol, a, m => { m with protocol := some a }
  | host, a, m => { m with host := some a }
  | port, a, m => { m with port := some a }
  | policyMode, a, m => { m with policyMode := some a }
  | domainList, a, m => { m with domainList := some a }
  | username, a, m => { m with username := some a }
  | password, a, m => { m with password := some a }

/-- The reader of the value of a field. -/
def reader (room : Nat) : (f : Field) → Reader f.Content
  | id | name | host => readText
  | protocol => readProtocol room
  | port => Port.read room
  | policyMode => readMode room
  | domainList => readArray room readText
  | username | password => nullable readText

end Field

/-- How the reader of a profile handles the members of an object. -/
def schema (room : Nat) : Schema Field.Content (takeMember room) where
  names := Field.names
  reader := Field.reader room
  slot := Field.slot
  put := Field.put
  slot_put_self f a m := by cases f <;> rfl
  slot_put_of_ne {f g} h a m := by cases f <;> cases g <;> first | rfl | exact absurd rfl h
  names_disjoint {f g k} hf hg := by cases f <;> cases g <;> simp_all [Field.names]
  take_known {f k} h m := by
    cases f <;> simp only [Field.names, List.mem_cons, List.not_mem_nil, or_false] at h
    all_goals first | subst h | rcases h with rfl | rfl
    all_goals exact ⟨_, fun s => by simp [takeMember]; rfl⟩
  take_other {k} h m := by
    have hid := h .id
    have hname := h .name
    have hprotocol := h .protocol
    have hhost := h .host
    have hport := h .port
    have hmode := h .policyMode
    have hdomains := h .domainList
    have husername := h .username
    have hpassword := h .password
    simp only [Field.names, List.mem_cons, List.not_mem_nil, or_false] at *
    funext s
    simp [takeMember, hid, hname, hprotocol, hhost, hport, hmode, hdomains, husername, hpassword]

/-! ## What may stand under a name -/

/-- `Stands p f t` if `t` may be the text of the value of a field in an object for a profile. -/
inductive Stands (p : Profile) : Field → List Char → Prop
  | id {t : List Char} (h : Spells (.string p.id) t) : Stands p .id t
  | name {t : List Char} (h : Spells (.string p.name) t) : Stands p .name t
  | protocol {t : List Char} (h : Spells (.string p.protocol.name) t) : Stands p .protocol t
  | host {t : List Char} (h : Spells (.string p.host) t) : Stands p .host t
  | port {t : List Char} (h : Spells (.integer p.port.toInt) t) : Stands p .port t
  | minusZero (hport : p.port = 0) : Stands p .port ['-', '0']
  | noPort {t : List Char} (hport : p.port = 0) (h : Spells .null t) : Stands p .port t
  | policyMode {t : List Char} (h : Spells (.string p.policyMode.name) t) : Stands p .policyMode t
  | domainList {t : List Char} (h : Spells (.array (p.domainList.map .string)) t) :
    Stands p .domainList t
  | username {u : String} {t : List Char} (hu : p.username = some u) (h : Spells (.string u) t) :
    Stands p .username t
  | noUsername {t : List Char} (hu : p.username = none) (h : Spells .null t) : Stands p .username t
  | password {u : String} {t : List Char} (hu : p.password = some u) (h : Spells (.string u) t) :
    Stands p .password t
  | noPassword {t : List Char} (hu : p.password = none) (h : Spells .null t) : Stands p .password t

/-- `LeftOut p f` if a field may be missing in an object for a profile. -/
inductive LeftOut (p : Profile) : Field → Prop
  | port (h : p.port = 0) : LeftOut p .port
  | policyMode (h : p.policyMode = .blacklist) : LeftOut p .policyMode
  | domainList (h : p.domainList = []) : LeftOut p .domainList
  | username (h : p.username = none) : LeftOut p .username
  | password (h : p.password = none) : LeftOut p .password

/-- The texts of the objects for a profile. -/
def Layouts (p : Profile) (t : List Char) : Prop :=
  Json.Layouts Field.names (Stands p) (LeftOut p) t

/-! ## Reading -/

lemma reads_null_nullable {α : Type} (r : Reader α) {t : List Char} (h : Spells .null t) :
    Reads (nullable r) none t := by
  cases h
  exact reads_null r

/-- A zero with a sign is a double, and reads as the whole number. -/
lemma reads_minusZero (room : Nat) : Reads (Port.readPresent room) 0 ['-', '0'] where
  opens := opens_cons (by decide) _
  read {w rest} hw hrest := by
    have hread : Number.read true ('0' :: rest) = .ok (Number.whole true 0, rest) :=
      Number.read_digits_append true (n := 0) (by decide) hrest
    have hzero : Port.ofNumber (Number.whole true 0) = 0 := by decide
    rw [Port.readPresent, List.cons_append, List.singleton_append, skipSpace_append_cons hw rfl]
    simp [hread, hzero, Except.map]

/-- A port that is left out by `null` reads as 0. -/
lemma reads_noPort (room : Nat) {t : List Char} (h : Spells .null t) :
    Reads (Port.read room) 0 t :=
  (reads_null_nullable (Port.readPresent room) h).map fun o : Option Int64 => o.getD 0

lemma reads_stands {room : Nat} (hroom : 1 < room) {p : Profile} {f : Field} {t : List Char}
    (h : Stands p f t) : Reads (f.reader room) (f.valueIn p) t := by
  cases h with
  | id h => exact reads_string h
  | name h => exact reads_string h
  | protocol h => exact reads_protocol room h
  | host h => exact reads_string h
  | port h => exact reads_port room h
  | minusZero hport =>
    rw [show Field.valueIn p .port = (0 : Int64) from hport]
    exact ((reads_minusZero room).nullable (by simp)).map fun o => o.getD 0
  | noPort hport h =>
    rw [show Field.valueIn p .port = (0 : Int64) from hport]
    exact reads_noPort room h
  | policyMode h => exact reads_mode room h
  | domainList h => exact reads_strings hroom h
  | username hu h =>
    rw [show Field.valueIn p .username = some _ from hu]
    exact reads_nullable_string h
  | noUsername hu h =>
    rw [show Field.valueIn p .username = none from hu]
    exact reads_null_nullable readText h
  | password hu h =>
    rw [show Field.valueIn p .password = some _ from hu]
    exact reads_nullable_string h
  | noPassword hu h =>
    rw [show Field.valueIn p .password = none from hu]
    exact reads_null_nullable readText h

/-- A profile is made up of the values that are known, and of defaults for those that are not. -/
lemma ofMembers_eq {p : Profile} {m : Members}
    (h : ∀ f : Field, f.slot m = some (f.valueIn p) ∨ f.slot m = none ∧ LeftOut p f) :
    ofMembers m = .ok p := by
  have hneeded {f : Field} (hf : ¬ LeftOut p f) : f.slot m = some (f.valueIn p) :=
    (h f).resolve_right fun hf' => hf hf'.2
  have hid : m.id = some p.id := hneeded (f := .id) nofun
  have hname : m.name = some p.name := hneeded (f := .name) nofun
  have hprotocol : m.protocol = some p.protocol := hneeded (f := .protocol) nofun
  have hhost : m.host = some p.host := hneeded (f := .host) nofun
  have hport : m.port.getD 0 = p.port := getD_eq (h .port) fun | .port h => h
  have hmode : m.policyMode.getD .blacklist = p.policyMode :=
    getD_eq (h .policyMode) fun | .policyMode h => h
  have hdomains : m.domainList.getD [] = p.domainList :=
    getD_eq (h .domainList) fun | .domainList h => h
  have husername : m.username.getD none = p.username :=
    getD_eq (h .username) fun | .username h => h
  have hpassword : m.password.getD none = p.password :=
    getD_eq (h .password) fun | .password h => h
  simp [ofMembers, needMember, hid, hname, hprotocol, hhost, hport, hmode, hdomains, husername,
    hpassword, bind, Except.bind, pure, Except.pure]

/-- A profile is read from an object if its fields are, wherever their members stand. -/
lemma reads_object {room : Nat} (hroom : 1 < room) {p : Profile} {Stands : Field → List Char → Prop}
    {t : List Char} (hstands : ∀ f t, Stands f t → Reads (f.reader (room - 1)) (f.valueIn p) t)
    (h : Json.Layouts Field.names Stands (LeftOut p) t) : Reads (read room) p t := by
  obtain ⟨hms, hseries⟩ := h
  obtain ⟨m, htakes, hm⟩ := (schema (room - 1)).exists_known (m := {}) (fun f => f.valueIn p) hms
    (fun f => by cases f <;> rfl) hstands
  refine reads_record hroom hseries htakes fun hread => ?_
  simp [readObject, hread, ofMembers_eq hm, bind, Except.bind, pure, Except.pure]

/-- A profile is read from every object for it. -/
theorem Layouts.reads {room : Nat} (hroom : 2 < room) {p : Profile} {t : List Char}
    (h : p.Layouts t) : Reads (read room) p t :=
  reads_object (by omega) (fun _ _ => reads_stands (by omega)) h

end Profile

/-! ## Rosters -/

namespace Roster

/-- The fields of a stored roster. -/
inductive Field where
  | profiles | activeId

namespace Field

/-- The names under which a field may stand. -/
def names : Field → List String
  | profiles => ["proxies"]
  | activeId => ["activeProxyId"]

/-- What a field holds. -/
def Content : Field → Type
  | profiles => List Profile
  | activeId => Option String

/-- What a roster has in a field. -/
def valueIn (r : Roster) : (f : Field) → f.Content
  | profiles => r.profiles
  | activeId => r.activeId

/-- What is known of a field. -/
def slot : (f : Field) → Members → Option f.Content
  | profiles, m => m.profiles
  | activeId, m => m.activeId

/-- What is known when a field is found to have a value. -/
def put : (f : Field) → f.Content → Members → Members
  | profiles, a, m => { m with profiles := some a }
  | activeId, a, m => { m with activeId := some a }

/-- The reader of the value of a field. -/
def reader (room : Nat) : (f : Field) → Reader f.Content
  | profiles => readArray room (Profile.read (room - 1))
  | activeId => nullable readText

end Field

/-- How the reader of a roster handles the members of an object. -/
def schema (room : Nat) : Schema Field.Content (takeMember room) where
  names := Field.names
  reader := Field.reader room
  slot := Field.slot
  put := Field.put
  slot_put_self f a m := by cases f <;> rfl
  slot_put_of_ne {f g} h a m := by cases f <;> cases g <;> first | rfl | exact absurd rfl h
  names_disjoint {f g k} hf hg := by cases f <;> cases g <;> simp_all [Field.names]
  take_known {f k} h m := by
    cases f <;> simp only [Field.names, List.mem_singleton] at h
    all_goals
      subst h
      exact ⟨_, fun s => by simp [takeMember]; rfl⟩
  take_other {k} h m := by
    have hprofiles := h .profiles
    have hactive := h .activeId
    simp only [Field.names, List.mem_singleton] at *
    funext s
    simp [takeMember, hprofiles, hactive]

/-- `Stands r f t` if `t` may be the text of the value of a field in an object for a roster. -/
inductive Stands (r : Roster) : Field → List Char → Prop
  | profiles {t : List Char} (h : Series Profile.Layouts r.profiles t) :
    Stands r .profiles ('[' :: t ++ [']'])
  | activeId {id : String} {t : List Char} (hid : r.activeId = some id)
    (h : Spells (.string id) t) : Stands r .activeId t
  | noActiveId {t : List Char} (hid : r.activeId = none) (h : Spells .null t) :
    Stands r .activeId t

/-- `LeftOut r f` if a field may be missing in an object for a roster. -/
inductive LeftOut (r : Roster) : Field → Prop
  | profiles (h : r.profiles = []) : LeftOut r .profiles
  | activeId (h : r.activeId = none) : LeftOut r .activeId

/-- The texts of the objects for a roster. -/
def Layouts (r : Roster) (t : List Char) : Prop :=
  Json.Layouts Field.names (Stands r) (LeftOut r) t

lemma reads_stands {room : Nat} (hroom : 3 < room) {r : Roster} {f : Field} {t : List Char}
    (h : Stands r f t) : Reads (f.reader room) (f.valueIn r) t := by
  cases h with
  | profiles h => exact reads_array (by omega) (h.mono fun p s _ hs => hs.reads (by omega))
  | activeId hid h =>
    rw [show Field.valueIn r .activeId = some _ from hid]
    exact reads_nullable_string h
  | noActiveId hid h =>
    rw [show Field.valueIn r .activeId = none from hid]
    exact Profile.reads_null_nullable readText h

/-- A roster is made up of what is known, and of defaults for what is not. -/
lemma ofMembers_eq {r : Roster} {m : Members}
    (h : ∀ f : Field, f.slot m = some (f.valueIn r) ∨ f.slot m = none ∧ LeftOut r f) :
    ofMembers m = r := by
  have hprofiles : m.profiles.getD [] = r.profiles := getD_eq (h .profiles) fun | .profiles h => h
  have hactive : m.activeId.getD none = r.activeId := getD_eq (h .activeId) fun | .activeId h => h
  rw [ofMembers, hprofiles, hactive]

/-- A roster is read from every object for it. -/
theorem Layouts.reads {room : Nat} (hroom : 4 < room) {r : Roster} {t : List Char}
    (h : r.Layouts t) : Reads (read room) r t := by
  obtain ⟨hms, hseries⟩ := h
  obtain ⟨m, htakes, hm⟩ := (schema (room - 1)).exists_known (m := {}) (fun f => f.valueIn r) hms
    (fun f => by cases f <;> rfl) fun _ _ => reads_stands (by omega)
  refine reads_record (by omega) hseries htakes fun hread => ?_
  simp [readObject, hread, ofMembers_eq hm, Except.map]

end Roster

/-! ## Whole texts -/

/-- Every text that lays out a profile is read as this profile, and every text that lays out a
roster as this roster, with any blanks around it. -/
theorem layouts_read {w w' : List Char} (hw : Blank w) (hw' : Blank w') :
    (∀ (p : Profile) t, p.Layouts t → Profile.ofText (String.ofList (w ++ (t ++ w'))) = .ok p) ∧
    (∀ (r : Roster) t, r.Layouts t → Roster.ofText (String.ofList (w ++ (t ++ w'))) = .ok r) :=
  ⟨fun _ _ h => (h.reads (by decide)).whole_of_blank hw hw',
    fun _ _ h => (h.reads (by decide)).whole_of_blank hw hw'⟩

/-- A profile in an unusual order, with an unknown member in front, the protocol under its other
name, a zero with a sign and an escaped letter, and a roster of this profile. -/
theorem layouts_read_sample :
    let p : Profile := ⟨"1", "P", .socks5, "h", 0, .blacklist, [], none, none⟩
    let t := ("\x7b\"note\":[1e400,\"\\ud800\"],\"port\":-0,\"protocol\":\"socks5\"," ++
      "\"host\":\"h\",\"name\":\"\\u0050\",\"id\":\"1\"\x7d").toList
    let u := "\x7b\"version\":2,\"proxies\":[".toList ++ t ++ "]\x7d".toList
    p.Layouts t ∧ Roster.Layouts ⟨[p], none⟩ u ∧
      Profile.ofText (String.ofList ([' '] ++ (t ++ [' ']))) = .ok p ∧
      Roster.ofText (String.ofList ([' '] ++ (u ++ [' ']))) = .ok ⟨[p], none⟩ := by
  intro p t u
  have hname : Spells (.string "P") "\"\\u0050\"".toList := by
    have hunit : Characters [Char.ofNat 0x50] ['\\', 'u', '0', '0', '5', '0'] :=
      .unit (by decide) (by decide) (by decide) .nil
    exact .string (s := "P") hunit
  have hnote : IsValue "[1e400,\"\\ud800\"]".toList := by
    have hexponent : IsExponent ['e', '4', '0', '0'] :=
      .digits (.inl rfl) (.inl rfl) (show Text.Decimal.isRun ['4', '0', '0'] = true by decide)
    have hnumber : IsValue ['1', 'e', '4', '0', '0'] :=
      .natural (.mk ⟨show Text.Decimal.isRun ['1'] = true by decide, by decide⟩ .nil hexponent)
    have hstring : IsValue ['"', '\\', 'u', 'd', '8', '0', '0', '"'] :=
      .string (.unit (by decide) .nil)
    have hlisted : Listed (fun (_ : Unit) => IsValue) [(), ()]
        (['1', 'e', '4', '0', '0'] ++ ',' :: ['"', '\\', 'u', 'd', '8', '0', '0', '"']) :=
      .comma (w := []) blank_nil hnumber (.single (w := []) blank_nil hstring)
    exact .array (.listed hlisted)
  have hp : p.Layouts t := by
    have hms : Layout Profile.Field.names p.Stands p.LeftOut
        [("note", "[1e400,\"\\ud800\"]".toList), ("port", ['-', '0']),
          ("protocol", quote "socks5"), ("host", quote "h"), ("name", "\"\\u0050\"".toList),
          ("id", quote "1")] := by
      refine ⟨?_, fun x hx hk => ?_⟩
      · rintro (_ | _)
        · exact .inr ⟨_, rfl, .id (spells_quote "1")⟩
        · exact .inr ⟨_, rfl, .name hname⟩
        · exact .inr ⟨_, rfl, .protocol (spells_quote "socks5")⟩
        · exact .inr ⟨_, rfl, .host (spells_quote "h")⟩
        · exact .inr ⟨_, rfl, .minusZero rfl⟩
        · exact .inl ⟨rfl, .policyMode rfl⟩
        · exact .inl ⟨rfl, .domainList rfl⟩
        · exact .inl ⟨rfl, .username rfl⟩
        · exact .inl ⟨rfl, .password rfl⟩
      · simp only [List.mem_cons, List.not_mem_nil, or_false] at hx
        rcases hx with rfl | rfl | rfl | rfl | rfl | rfl
        · exact hnote
        · exact absurd (hk .port) (by decide)
        · exact absurd (hk .protocol) (by decide)
        · exact absurd (hk .host) (by decide)
        · exact absurd (hk .name) (by decide)
        · exact absurd (hk .id) (by decide)
    exact hms.compact
  have hr : Roster.Layouts ⟨[p], none⟩ u := by
    have hms : Layout Roster.Field.names (Roster.Stands ⟨[p], none⟩) (Roster.LeftOut ⟨[p], none⟩)
        [("version", ['2']), ("proxies", '[' :: t ++ [']'])] := by
      refine ⟨?_, fun x hx hk => ?_⟩
      · rintro (_ | _)
        · exact .inr ⟨_, rfl, .profiles (.listed (.single (w := []) blank_nil hp))⟩
        · exact .inl ⟨rfl, .activeId rfl⟩
      · simp only [List.mem_cons, List.not_mem_nil, or_false] at hx
        rcases hx with rfl | rfl
        · exact .natural (.mk ⟨show Text.Decimal.isRun ['2'] = true by decide, by decide⟩ .nil .nil)
        · exact absurd (hk .profiles) (by decide)
    have hu : u = compactObject [("version", ['2']), ("proxies", '[' :: t ++ [']'])] := by decide
    rw [hu]
    exact hms.compact
  have hread := layouts_read blank_space blank_space
  exact ⟨hp, hr, hread.1 p t hp, hread.2 _ u hr⟩

end ProxyProfiles

import ProxyProfiles.Proofs.Agreement
import ProxyProfiles.Proofs.FreshId
/-!
# The stored profiles as an ordered map

The list of stored profiles is an ordered map from ids to profiles. `Operation.edit` says in terms
of `map` and `filter` what an operation makes of such a map, and `Operation.fault?` which operations
are in error about it and leave it alone. What the host answers does not come into either.

A registry that begins with distinct ids keeps to this: `profiles_follow_map` compares each turn of
each run with `Operation.edit`.
-/

namespace ProxyProfiles

open Switch Text

/-! ## What an operation makes of a map -/

/-- The ids of profiles, in their order. -/
def ids (ps : List Profile) : List String :=
  ps.map Profile.id

namespace Profile

/-- The profile of an id with all fields of a draft but the credentials, which are given. -/
def written (id : String) (d : Draft) (username password : Option String) : Profile where
  id
  name := d.name
  protocol := d.protocol
  host := d.host
  port := d.port
  policyMode := d.policyMode
  domainList := d.domainList
  username
  password

/-- A stored profile after a change: a draft without a user name leaves both credentials as they
are. -/
def edited (p : Profile) (d : Draft) : Profile :=
  if d.username = none then written p.id d p.username p.password
  else written p.id d d.username d.password

/-- A profile that could have been made from a draft: name and host are not blank, and the port is a
port number. -/
structure Valid (p : Profile) : Prop where
  name : isBlankText p.name = false
  host : isBlankText p.host = false
  port : 1 ≤ p.port.toInt ∧ p.port.toInt ≤ 65535

end Profile

namespace Operation

/-- Why an operation is in error about a map, if it is. The draft is looked at first. -/
def fault? (ps : List Profile) : Operation → Option Error
  | add _ d =>
    match d.check with
    | .error e => some (.invalidProfile e)
    | .ok () => none
  | update id d =>
    match d.check with
    | .error e => some (.invalidProfile e)
    | .ok () => if id ∈ ids ps then none else some (.profileNotFound id)
  | remove id | get id => if id ∈ ids ps then none else some (.profileNotFound id)
  | list | status | activate _ | deactivate | restore => none

/-- What an operation makes of a map; an added profile gets the id `fresh`. -/
def edit (fresh : String) (ps : List Profile) (op : Operation) : List Profile :=
  if (op.fault? ps).isSome then ps
  else match op with
    | add _ d => ps ++ [.written fresh d d.username d.password]
    | update id d => ps.map fun p => if p.id = id then p.edited d else p
    | remove id => ps.filter fun p => p.id ≠ id
    | list | get _ | status | activate _ | deactivate | restore => ps

/-- The id whose profile an operation writes, if it writes one. -/
def target? (fresh : String) : Operation → Option String
  | add _ _ => some fresh
  | update id _ => some id
  | _ => none

end Operation

/-- `Evolves ps ops ps'` if the operations `ops` make `ps'` of the map `ps`, with an id for each
added profile that is not in use. -/
inductive Evolves (ps : List Profile) : List Operation → List Profile → Prop
  | refl : Evolves ps [] ps
  | step {ops : List Operation} {ps' : List Profile} {fresh : String} (h : Evolves ps ops ps')
    (op : Operation) (hfresh : fresh ∉ ids ps') :
    Evolves ps (ops ++ [op]) (op.edit fresh ps')

/-! ## Distinct ids -/

namespace Profile

@[simp] lemma edited_id (p : Profile) (d : Draft) : (p.edited d).id = p.id := by
  unfold edited
  split <;> rfl

lemma revised_eq_edited (p : Profile) (d : Draft) : p.revised p.id d = p.edited d := by
  rcases hu : d.username with _ | u <;> simp [revised, edited, ofDraft, written, hu]

lemma valid_written {id : String} {d : Draft} {username password : Option String}
    (hd : d.check = .ok ()) : (written id d username password).Valid := by
  unfold Draft.check at hd
  split at hd
  · simp at hd
  · next hname =>
    split at hd
    · simp at hd
    · next hhost =>
      split at hd
      · next hport => exact ⟨eq_false_of_ne_true hname, eq_false_of_ne_true hhost, hport⟩
      · simp at hd

lemma valid_edited {p : Profile} {d : Draft} (hd : d.check = .ok ()) : (p.edited d).Valid := by
  unfold edited
  split
  · exact valid_written hd
  · exact valid_written hd

end Profile

section Distinct

variable {ps : List Profile} {id : String} {q : Profile}

lemma map_edited_of_not_mem (f : Profile → Profile) (h : id ∉ ids ps) :
    (ps.map fun p => if p.id = id then f p else p) = ps := by
  calc (ps.map fun p => if p.id = id then f p else p)
      = ps.map fun p => p := by
        refine List.map_congr_left fun p hp => if_neg ?_
        rintro rfl
        exact h (List.mem_map_of_mem hp)
    _ = ps := List.map_id' ps

/-- If ids are distinct, only one profile is replaced. -/
lemma replace_eq_map (f : Profile → Profile) (hps : (ids ps).Nodup)
    (hq : (ps.find? fun p => p.id = id) = some q) :
    Roster.replace id (f q) ps = ps.map fun p => if p.id = id then f p else p := by
  induction ps with
  | nil => simp at hq
  | cons p ps ih =>
    obtain ⟨hp, hps⟩ := List.nodup_cons.1 hps
    by_cases hid : p.id = id
    · obtain rfl : p = q := by simpa [hid] using hq
      subst hid
      simp [Roster.replace, map_edited_of_not_mem f hp]
    · have hq' : (ps.find? fun p => p.id = id) = some q := by simpa [hid] using hq
      simp [Roster.replace, hid, ih hps hq']

/-- If ids are distinct, only one profile is taken out. -/
lemma without_eq_filter (hps : (ids ps).Nodup) :
    Roster.without id ps = ps.filter fun p => p.id ≠ id := by
  induction ps with
  | nil => rfl
  | cons p ps ih =>
    obtain ⟨hp, hps⟩ := List.nodup_cons.1 hps
    by_cases hid : p.id = id
    · subst hid
      have hrest : (ps.filter fun p' => p'.id ≠ p.id) = ps := by
        refine List.filter_eq_self.2 fun p' hp' => decide_eq_true ?_
        intro heq
        exact hp (heq ▸ List.mem_map_of_mem hp')
      rw [Roster.without, if_pos rfl, List.filter_cons_of_neg (by simp), hrest]
    · rw [Roster.without, if_neg hid, List.filter_cons_of_pos (by simpa using hid), ih hps]

/-- A profile with a new id may stand behind the others. -/
lemma nodup_ids_append_singleton (hps : (ids ps).Nodup) (hq : q.id ∉ ids ps) :
    (ids (ps ++ [q])).Nodup := by
  rw [ids, List.map_append]
  refine List.nodup_append.2 ⟨hps, List.nodup_singleton _, ?_⟩
  rintro id hold id' hnew rfl
  obtain rfl : id = q.id := by simpa using hnew
  exact hq hold

/-- What an operation makes of a map is a map. -/
lemma nodup_ids_edit {fresh : String} (op : Operation) (hps : (ids ps).Nodup)
    (hfresh : fresh ∉ ids ps) : (ids (op.edit fresh ps)).Nodup := by
  unfold Operation.edit
  split
  · exact hps
  · cases op with
    | add milliseconds d => exact nodup_ids_append_singleton hps hfresh
    | update id d =>
      have hids : ids (ps.map fun p => if p.id = id then p.edited d else p) = ids ps := by
        rw [ids, List.map_map]
        refine List.map_congr_left fun p _ => ?_
        simp only [Function.comp_apply]
        split
        · exact Profile.edited_id p d
        · rfl
      exact hids ▸ hps
    | remove id => exact hps.sublist (List.filter_sublist.map _)
    | list | get | status | activate | deactivate | restore => exact hps

end Distinct

/-! ## One operation -/

namespace Roster

variable {r : Roster} {id : String} {p : Profile}

lemma mem_ids_of_find? (h : r.find? id = some p) : id ∈ ids r.profiles :=
  List.mem_map.2 ⟨p, mem_of_find? h, id_of_find? h⟩

lemma not_mem_ids_of_find? (h : r.find? id = none) : id ∉ ids r.profiles :=
  find?_eq_none_iff.1 h

/-- If ids are distinct, every stored profile is found by its id. -/
lemma find?_of_mem (hr : (ids r.profiles).Nodup) (hp : p ∈ r.profiles) : r.find? p.id = some p := by
  rcases hq : r.find? p.id with _ | q
  · exact absurd (List.mem_map_of_mem hp) (not_mem_ids_of_find? hq)
  · rw [List.inj_on_of_nodup_map hr (mem_of_find? hq) hp (id_of_find? hq)]

end Roster

namespace Step

variable {s s' : State World} {op : Operation} {x : Except Error Answer}

/-- An operation that is in error fails with that error and does nothing. -/
lemma fault (hs : Step s op x s') {e : Error}
    (he : op.fault? s.world.roster.profiles = some e) : x = .error e ∧ s' = s := by
  cases hs with
  | list | status | activate | activateUnknown | activateRefused | deactivate | deactivateRefused
  | restoreDirect | restoreDangling | restore | restoreRefused => simp [Operation.fault?] at he
  | addInvalid hd | updateInvalid hd =>
    simp only [Operation.fault?, hd, Option.some.injEq] at he
    exact ⟨by rw [he], rfl⟩
  | add hd hp => simp [Operation.fault?, hd] at he
  | getUnknown hf | removeUnknown hf =>
    rw [Operation.fault?, if_neg (Roster.not_mem_ids_of_find? hf), Option.some.injEq] at he
    exact ⟨by rw [he], rfl⟩
  | updateUnknown hd hf =>
    simp only [Operation.fault?, hd, if_neg (Roster.not_mem_ids_of_find? hf),
      Option.some.injEq] at he
    exact ⟨by rw [he], rfl⟩
  | get hf | remove hf | removeActive hf | removeRefused hf =>
    simp [Operation.fault?, Roster.mem_ids_of_find? hf] at he
  | update hd hf | updateActive hd hf | updateRefused hd hf =>
    simp [Operation.fault?, hd, Roster.mem_ids_of_find? hf] at he

end Step

namespace Operation

variable {r : Roster} {fresh id : String} {d : Draft} {q : Profile}

lemma edit_of_fault {ps : List Profile} {op : Operation} {e : Error} (h : op.fault? ps = some e) :
    op.edit fresh ps = ps := by
  unfold edit
  rw [h]
  rfl

lemma edit_update (hr : (ids r.profiles).Nodup) (hd : d.check = .ok ())
    (hq : r.find? id = some q) :
    (update id d).edit fresh r.profiles = Roster.replace id (q.revised id d) r.profiles := by
  have hfault : (update id d).fault? r.profiles = none := by
    simp [fault?, hd, Roster.mem_ids_of_find? hq]
  have hrevised : q.revised id d = q.edited d := by
    rw [← Roster.id_of_find? hq, Profile.revised_eq_edited]
  rw [hrevised, replace_eq_map (·.edited d) hr hq]
  unfold edit
  rw [hfault]
  rfl

lemma edit_remove (hr : (ids r.profiles).Nodup) (hq : r.find? id = some q) :
    (remove id).edit fresh r.profiles = Roster.without id r.profiles := by
  have hfault : (remove id).fault? r.profiles = none := by
    simp [fault?, Roster.mem_ids_of_find? hq]
  rw [without_eq_filter hr]
  unfold edit
  rw [hfault]
  rfl

/-- Whatever is written is valid. -/
lemma valid_of_target {ps : List Profile} {op : Operation} {p : Profile}
    (hop : op.fault? ps = none) (hfresh : fresh ∉ ids ps) (hp : p ∈ op.edit fresh ps)
    (htarget : op.target? fresh = some p.id) : p.Valid := by
  unfold edit at hp
  rw [hop, if_neg (by simp)] at hp
  cases op with
  | add milliseconds d =>
    have hd : d.check = .ok () := by
      rcases hd : d.check with e | ⟨⟩
      · simp [fault?, hd] at hop
      · rfl
    rcases List.mem_append.1 hp with hold | hnew
    · -- a profile that was there has another id
      obtain rfl : fresh = p.id := by simpa [target?] using htarget
      exact absurd (List.mem_map_of_mem hold) hfresh
    · rw [List.mem_singleton.1 hnew]
      exact Profile.valid_written hd
  | update id d =>
    have hd : d.check = .ok () := by
      rcases hd : d.check with e | ⟨⟩
      · simp [fault?, hd] at hop
      · rfl
    obtain ⟨p', -, rfl⟩ := List.mem_map.1 hp
    by_cases hid : p'.id = id
    · rw [if_pos hid]
      exact Profile.valid_edited hd
    · rw [if_neg hid] at htarget
      exact absurd (Option.some.inj htarget).symm hid
  | list | get | status | remove | activate | deactivate | restore => simp [target?] at htarget

end Operation

variable {s s' : State World}

/-- An operation makes of the stored profiles what it makes of a map. -/
lemma Step.edit {op : Operation} {x : Except Error Answer} (hs : Step s op x s')
    (hids : (ids s.world.roster.profiles).Nodup) :
    ∃ fresh ∉ ids s.world.roster.profiles,
      s'.world.roster.profiles = op.edit fresh s.world.roster.profiles := by
  rcases hfault : op.fault? s.world.roster.profiles with _ | e
  · cases hs with
    | @add milliseconds d p hd hp =>
      refine ⟨s.world.roster.freshId milliseconds, Roster.freshId_not_mem _ _, ?_⟩
      unfold Operation.edit
      rw [hfault, hp]
      rfl
    | update hd hf hp | updateActive hd hf hp | updateRefused hd hf hp =>
      refine ⟨s.world.roster.freshId 0, Roster.freshId_not_mem _ _, ?_⟩
      rw [Operation.edit_update hids hd hf, hp]
      rfl
    | remove hf | removeActive hf | removeRefused hf =>
      refine ⟨s.world.roster.freshId 0, Roster.freshId_not_mem _ _, ?_⟩
      rw [Operation.edit_remove hids hf]
      rfl
    | addInvalid hd | updateInvalid hd => simp [Operation.fault?, hd] at hfault
    | updateUnknown hd hf =>
      simp [Operation.fault?, hd, Roster.not_mem_ids_of_find? hf] at hfault
    | getUnknown hf | removeUnknown hf =>
      simp [Operation.fault?, Roster.not_mem_ids_of_find? hf] at hfault
    | list | get | status | activate | activateUnknown | activateRefused | deactivate
    | deactivateRefused | restoreDirect | restoreDangling | restore | restoreRefused =>
      refine ⟨s.world.roster.freshId 0, Roster.freshId_not_mem _ _, ?_⟩
      unfold Operation.edit
      rw [hfault]
      rfl
  · obtain ⟨-, rfl⟩ := hs.fault hfault
    exact ⟨_, Roster.freshId_not_mem _ 0, (Operation.edit_of_fault hfault).symm⟩

/-! ## Runs -/

namespace Turn

/-- A turn makes of the stored profiles what its operation makes of a map. -/
lemma edit (t : Turn) (hids : (ids s.world.roster.profiles).Nodup) :
    ∃ fresh ∉ ids s.world.roster.profiles,
      (t.after s).world.roster.profiles = t.operation.edit fresh s.world.roster.profiles :=
  (t.step_after s).edit hids

/-- Ids that are distinct stay so, and the stored profiles evolve as a map does. -/
lemma evolves (ts : List Turn) (hids : (ids s.world.roster.profiles).Nodup) :
    (ids (run ts s).world.roster.profiles).Nodup ∧
      Evolves s.world.roster.profiles (ts.map operation) (run ts s).world.roster.profiles := by
  induction ts using List.reverseRecOn with
  | nil => exact ⟨hids, .refl⟩
  | append_singleton ts t ih =>
    obtain ⟨hnodup, hevolves⟩ := ih
    obtain ⟨fresh, hfresh, hedit⟩ := t.edit hnodup
    rw [run_append_singleton, List.map_append, hedit]
    exact ⟨nodup_ids_edit _ hnodup hfresh, hevolves.step _ hfresh⟩

end Turn

/-- A registry whose profiles have distinct ids keeps them like an ordered map, whatever the clock
shows and whatever the host answers. After all turns `ts` the profiles are what the operations make
of the map that was there, and their ids are distinct. The next turn `t` fails if it is in error
about this map, and makes of it what its operation makes of a map; the profile that it writes, if it
writes one, has a name, a host and a port number. -/
theorem profiles_follow_map (s : State World) (hs : (ids s.world.roster.profiles).Nodup)
    (ts : List Turn) (t : Turn) :
    let before := Turn.run ts s
    let ps := before.world.roster.profiles
    let ps' := (t.after before).world.roster.profiles
    Evolves s.world.roster.profiles (ts.map Turn.operation) ps ∧ (ids ps).Nodup ∧
    (∀ e, t.operation.fault? ps = some e → t.result before = .error e) ∧
    ∃ fresh ∉ ids ps, ps' = t.operation.edit fresh ps ∧
      (t.operation.fault? ps = none →
        ∀ p ∈ ps', t.operation.target? fresh = some p.id → p.Valid) := by
  intro before ps ps'
  obtain ⟨hnodup, hevolves⟩ := Turn.evolves ts hs
  obtain ⟨fresh, hfresh, hedit⟩ := t.edit hnodup
  have herror : ∀ e, t.operation.fault? ps = some e → t.result before = .error e :=
    fun e he => ((t.step_after before).fault he).1
  refine ⟨hevolves, hnodup, herror, fresh, hfresh, hedit, ?_⟩
  intro hfault p hp htarget
  rw [show ps' = _ from hedit] at hp
  exact Operation.valid_of_target hfault hfresh hp htarget

/-- Two profiles are stored; the first one has credentials and is active. -/
def Switch.State.twoProfiles : State World :=
  .fresh { roster :=
    ⟨[.ofDraft "1" ((Draft.new "Office" .http "proxy.office" 8080).withCredentials "alice" "secret"),
      .ofDraft "2" (Draft.new "Home" .socks5 "proxy.home" 1080)], some "1"⟩ }

/-- The id `2` is free again only after `3` was given away; then a change of the active profile is
stored although the host refuses it. -/
theorem profiles_follow_map_sample :
    let turns : List Turn := [⟨.add 1 (Draft.new "Lab" .all "proxy.lab" 3128), false⟩,
      ⟨.remove "2", false⟩]
    let before := Turn.run turns .twoProfiles
    let t : Turn := ⟨.update "1" (Draft.new "Office" .http "proxy.office" 3128), true⟩
    (ids State.twoProfiles.world.roster.profiles).Nodup ∧
    ids before.world.roster.profiles = ["1", "3"] ∧
    t.result before = .error (.hostApply .refused) ∧
    (∃ fresh, (t.after before).world.roster.profiles =
      t.operation.edit fresh before.world.roster.profiles) ∧
    ∀ p ∈ (t.after before).world.roster.profiles, p.id = "1" → p.Valid := by
  intro turns before t
  have hids : (ids State.twoProfiles.world.roster.profiles).Nodup := by decide
  obtain ⟨-, -, -, fresh, -, hedit, hvalid⟩ := profiles_follow_map .twoProfiles hids turns t
  have hfault : t.operation.fault? before.world.roster.profiles = none := by decide
  refine ⟨hids, by decide, by decide, ⟨fresh, hedit⟩, fun p hp hid => hvalid hfault p hp ?_⟩
  rw [hid]
  rfl

end ProxyProfiles

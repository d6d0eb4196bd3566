import ProxyProfiles.Proofs.Bypass
import ProxyProfiles.Proofs.StoredForm
import ProxyProfiles.Routing.Payload
/-!
# Where a blacklist sends requests

The proxy of a rule table stands in the place that the protocol of its profile has there. So there
is no proxy for a request whose host an entry covers, nor for one over a scheme that the protocol
does not serve, and for all others it is the one of the profile (`blacklist_routes`).
-/

namespace ProxyProfiles

open Network Json

/-- The schemes of the requests that go to a proxy of a protocol. -/
def Protocol.Serves (protocol : Protocol) (scheme : String) : Prop :=
  match protocol with
  | http => scheme = "http"
  | https => scheme = "https"
  | _ => True

variable {p : Profile} {scheme host : String} {s : Server}

namespace RuleTable

/-- The one proxy of the table stands where requests over the schemes of its protocol find it. -/
lemma select_of_serves (hbypassed : (ofProfile p).isBypassed host = false)
    (h : p.protocol.Serves scheme) : (ofProfile p).select scheme host = some (serverOf p) := by
  rw [select, hbypassed]
  cases hprotocol : p.protocol with
  | all | socks4 | socks5 => simp [ofProfile, hprotocol, slot]
  | http | https =>
    rw [hprotocol] at h
    obtain rfl := h
    simp [ofProfile, hprotocol, slot]

lemma select_of_not_serves (h : ¬ p.protocol.Serves scheme) :
    (ofProfile p).select scheme host = none := by
  cases hprotocol : p.protocol with
  | all | socks4 | socks5 => exact absurd trivial (by rwa [hprotocol] at h)
  | http | https =>
    rw [hprotocol] at h
    have hscheme : scheme ≠ _ := h
    simp [select, ofProfile, hprotocol, slot, hscheme]

lemma select_ofProfile_eq_none_iff : (ofProfile p).select scheme host = none ↔
    (ofProfile p).isBypassed host = true ∨ ¬ p.protocol.Serves scheme := by
  constructor
  · intro h
    by_cases hserves : p.protocol.Serves scheme
    · cases hbypassed : (ofProfile p).isBypassed host with
      | true => exact .inl rfl
      | false =>
        rw [select_of_serves hbypassed hserves] at h
        contradiction
    · exact .inr hserves
  · rintro (h | h)
    · rw [select, if_pos h]
    · exact select_of_not_serves h

lemma eq_serverOf_of_select (h : (ofProfile p).select scheme host = some s) : s = serverOf p := by
  have hnone : (ofProfile p).select scheme host ≠ none := by simp [h]
  rw [ne_eq, select_ofProfile_eq_none_iff, not_or, Classical.not_not, Bool.not_eq_true] at hnone
  rw [select_of_serves hnone.1 hnone.2] at h
  exact (Option.some.inj h).symm

/-- A rule table is read back from both forms in which it is written. -/
lemma ofText_written (t : RuleTable) :
    ofText t.toJson.compactText = .ok t ∧ ofText t.text = .ok t :=
  readWhole_written fun _ => reads (show 2 < depthLimit by decide)

end RuleTable

lemma Protocol.scheme_eq (protocol : Protocol) :
    protocol.scheme = if protocol = .all then "http" else protocol.name := by
  cases protocol <;> rfl

/-- A blacklist routes as its profile says. It is compiled to a rule table, which is the same when
it is written and read back. There is no proxy for a request exactly if an entry covers its host,
where `localhost` and `127.0.0.1` stand in for an empty list of domains, or if the protocol of the
profile does not serve its scheme. Otherwise the proxy is the one of the profile. -/
theorem blacklist_routes (hp : p.policyMode = .blacklist) :
    ∃ t, p.compile = .rules t ∧
      (RuleTable.ofText t.toJson.compactText = .ok t ∧ RuleTable.ofText t.text = .ok t) ∧
      ∀ scheme host,
        (t.select scheme host = none ↔
          (∃ entry ∈ if p.domainList = [] then ["localhost", "127.0.0.1"] else p.domainList,
            Covers entry host) ∨ ¬ p.protocol.Serves scheme) ∧
        ∀ s, t.select scheme host = some s →
          s = ⟨if p.protocol = .all then "http" else p.protocol.name, p.host, p.port⟩ := by
  refine ⟨RuleTable.ofProfile p, ?_, RuleTable.ofText_written _, fun scheme host => ⟨?_, ?_⟩⟩
  · rw [Profile.compile, hp]
  · rw [RuleTable.select_ofProfile_eq_none_iff, RuleTable.isBypassed_iff,
      RuleTable.bypassList_ofProfile]
    rfl
  · intro s hs
    rw [RuleTable.eq_serverOf_of_select hs, RuleTable.serverOf, Protocol.scheme_eq]

/-- A profile for HTTP with a block of addresses and the domains below `example.com`: of the hosts
`2001:db8::7`, `www.example.com` and `a.org`, only the last has a proxy, and only over HTTP. -/
theorem blacklist_routes_sample :
    let p := Profile.ofDraft "1" ((Draft.new "P" .http "10.0.0.1" 8080).withPolicy .blacklist
      ["2001:db8::/32", "*.example.com"])
    p.policyMode = .blacklist ∧ ∃ t, p.compile = .rules t ∧
      t.select "http" "2001:db8::7" = none ∧ t.select "http" "www.example.com" = none ∧
      t.select "https" "a.org" = none ∧
      t.select "http" "a.org" = some ⟨"http", "10.0.0.1", 8080⟩ := by
  intro p
  have hp : p.policyMode = .blacklist := rfl
  obtain ⟨t, ht, -, hroutes⟩ := blacklist_routes hp
  have hblock : Covers "2001:db8::/32" "2001:db8::7" := by
    have hb : Block.parse? "2001:db8::/32" =
        some (.v6 (Ipv6.ofGroups [0x2001, 0xdb8, 0, 0, 0, 0, 0, 0]) 32) := by decide
    have ha : Address.parse? "2001:db8::7" =
        some (.v6 (Ipv6.ofGroups [0x2001, 0xdb8, 0, 0, 0, 0, 0, 7])) := by decide
    have hbits : ∀ i < 32, (Ipv6.ofGroups [0x2001, 0xdb8, 0, 0, 0, 0, 0, 7]).getMsbD i =
        (Ipv6.ofGroups [0x2001, 0xdb8, 0, 0, 0, 0, 0, 0]).getMsbD i := by decide
    exact .block (by decide) (by decide) (Block.parse?_eq_some_iff.1 hb)
      (Address.parse?_eq_some_iff.1 ha) hbits
  have hstar : Covers "*.example.com" "www.example.com" :=
    .star rfl (.inl ⟨"www".toList, by decide⟩)
  have hnone : ∀ entry ∈ ["2001:db8::/32", "*.example.com"], ¬ Covers entry "a.org" := by
    simp only [← bypassCovers_iff]
    decide
  have hsome : t.select "http" "a.org" ≠ none := by
    rw [ne_eq, (hroutes "http" "a.org").1]
    rintro (⟨entry, hentry, hcovers⟩ | hserves)
    · exact hnone entry hentry hcovers
    · exact hserves rfl
  obtain ⟨s, hs⟩ := Option.ne_none_iff_exists'.1 hsome
  refine ⟨hp, t, ht, ?_, ?_, ?_, ?_⟩
  · exact (hroutes "http" "2001:db8::7").1.2 (.inl ⟨_, .head _, hblock⟩)
  · exact (hroutes "http" "www.example.com").1.2 (.inl ⟨_, .tail _ (.head _), hstar⟩)
  · exact (hroutes "https" "a.org").1.2
      (.inr (show ¬ ("https" : String) = "http" by decide))
  · rw [hs, (hroutes "http" "a.org").2 s hs]
    rfl

end ProxyProfiles

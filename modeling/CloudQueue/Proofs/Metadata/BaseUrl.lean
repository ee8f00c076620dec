import CloudQueue.Proofs.Metadata.Protocol

/-!
# Base URLs

What a client keeps of a base URL is the longest beginning that does not end in a slash
(`isStem_iff`), and nothing else of the text has a part in what it does. So slashes at the end of a
base URL never matter, whichever way leads to the client (`slashes_never_matter`).
-/

namespace CloudQueue.Metadata

open Http (Server)

variable {base s s' : String} {timeout time : Nat}

/-! ## Stems -/

/-- A text is the longest beginning of another that does not end in a slash. -/
structure IsStem (base stem : String) : Prop where
  begins : stem.toList <+: base.toList
  noSlash : stem.toList.getLast? ≠ some '/'
  longest : ∀ other : String, other.toList <+: base.toList →
    other.toList.getLast? ≠ some '/' → other.toList.length ≤ stem.toList.length

theorem IsStem.unique (h : IsStem base s) (h' : IsStem base s') : s = s' := by
  have hle : s.toList.length ≤ s'.toList.length := h'.longest s h.begins h.noSlash
  have hge : s'.toList.length ≤ s.toList.length := h.longest s' h'.begins h'.noSlash
  have hbegins : s.toList <+: s'.toList := List.prefix_of_prefix_length_le h.begins h'.begins hle
  exact String.toList_injective (hbegins.eq_of_length (Nat.le_antisymm hle hge))

/-- A longer beginning than a text ends in a slash if only slashes come behind the text. -/
theorem isStem_of_slashes {k : Nat} (hbase : base.toList = s.toList ++ List.replicate k '/')
    (hlast : s.toList.getLast? ≠ some '/') : IsStem base s := by
  refine ⟨⟨_, hbase.symm⟩, hlast, fun other hother hclean => ?_⟩
  rw [hbase] at hother
  rcases List.prefix_or_prefix_of_prefix hother (List.prefix_append _ _) with hshort | hlong
  · exact hshort.length_le
  · obtain ⟨more, hmore⟩ := hlong
    rw [← hmore, List.prefix_append_right_inj, List.prefix_replicate_iff] at hother
    have hlast_other : other.toList.getLast? = (List.replicate more.length '/').getLast?.or
        s.toList.getLast? := by
      rw [← hmore, ← hother.2, List.getLast?_append]
    by_cases hmore_nil : more = []
    · rw [← hmore, hmore_nil, List.append_nil]
    · have hlength : more.length ≠ 0 := mt List.length_eq_zero_iff.mp hmore_nil
      rw [List.getLast?_replicate, if_neg hlength] at hlast_other
      exact absurd hlast_other hclean

theorem isStem_normalize (base : String) : IsStem base (Client.normalize base) := by
  obtain ⟨⟨k, hbase⟩, hlast⟩ := Client.normalize_spec base
  exact isStem_of_slashes hbase hlast

/-- Normalizing finds the stem. -/
theorem isStem_iff : IsStem base s ↔ s = Client.normalize base := by
  constructor
  · exact fun h => h.unique (isStem_normalize base)
  · rintro rfl
    exact isStem_normalize base

theorem normalize_pushn (base : String) (n : Nat) :
    Client.normalize (base.pushn '/' n) = Client.normalize base := by
  rw [String.pushn_eq_repeat_push]
  induction n with
  | zero => rfl
  | succ n ih => exact (Client.normalize_push_slash _).trans ih

theorem normalize_eq_empty_iff : Client.normalize base = "" ↔ ∀ c ∈ base.toList, c = '/' := by
  obtain ⟨⟨k, hbase⟩, hlast⟩ := Client.normalize_spec base
  constructor
  · intro hempty c hc
    rw [hempty] at hbase
    rw [hbase] at hc
    exact List.eq_of_mem_replicate hc
  · intro hslashes
    rcases hstem : (Client.normalize base).toList.getLast? with _ | c
    · exact String.toList_injective (List.getLast?_eq_none_iff.mp hstem)
    · have hmem : c ∈ base.toList := by
        rw [hbase]
        exact List.mem_append_left _ (List.mem_of_getLast? hstem)
      rw [hstem, hslashes c hmem] at hlast
      exact absurd rfl hlast

/-! ## Ways to a client -/

/-- The ways from a base URL to a client, directly or in a detector, with a timeout or the usual
one. -/
def ways (timeout : Nat) : List (String → Client) :=
  [Client.new timeout, Client.withBaseUrl,
    fun base => (Detector.withOptions base timeout).client,
    fun base => (Detector.withBaseUrl base).client]

theorem exists_new_of_mem_ways {make : String → Client} (h : make ∈ ways timeout) :
    ∃ time, make = Client.new time := by
  simp only [ways, List.mem_cons, List.not_mem_nil, or_false] at h
  rcases h with rfl | rfl | rfl | rfl
  · exact ⟨timeout, rfl⟩
  · exact ⟨probeTimeout, rfl⟩
  · exact ⟨timeout, rfl⟩
  · exact ⟨probeTimeout, rfl⟩

theorem new_pushn (time : Nat) (base : String) (n : Nat) :
    Client.new time (base.pushn '/' n) = Client.new time base := by
  rw [Client.new, normalize_pushn]
  rfl

theorem new_baseUrl (time : Nat) (base : String) :
    Client.new time (Client.new time base).baseUrl = Client.new time base :=
  congrArg (Client.mk · time) (Client.normalize_normalize base)

/-- **Slashes at the end of a base URL never matter.** Every way from a base URL to a client keeps
its stem, the longest beginning that does not end in a slash, which is empty if and only if there
are only slashes; and it keeps the same of the base URL with more slashes at its end. A client of
what a client has kept is that client again, and the URL of a path is the stem with the path behind
it. So for every server the probes of the two clients come to the same, in their results, hops and
errors, and so do detections, as many as there may be, in their verdicts, hops and events. -/
theorem slashes_never_matter {σ : Type} (server : Server σ) (state : σ) (base : String)
    (n timeout : Nat) : ∃ stem,
      (∀ s, IsStem base s ↔ s = stem) ∧ (stem = "" ↔ ∀ c ∈ base.toList, c = '/') ∧
      ∀ make ∈ ways timeout,
        let client := make base
        let slashed := make (base.pushn '/' n)
        client.baseUrl = stem ∧ slashed.baseUrl = stem ∧ make client.baseUrl = client ∧
        (∀ path, client.url path = stem ++ path ∧ slashed.url path = stem ++ path) ∧
        (∀ probe : Probe, probe.run slashed server state = probe.run client server state) ∧
        ∀ count,
          detectTimes slashed server count state = detectTimes client server count state := by
  refine ⟨Client.normalize base, fun s => isStem_iff, normalize_eq_empty_iff, fun make hmake => ?_⟩
  obtain ⟨time, rfl⟩ := exists_new_of_mem_ways hmake
  intro client slashed
  have hslashed : slashed = client := new_pushn time base n
  rw [hslashed]
  exact ⟨rfl, rfl, new_baseUrl time base, fun path => ⟨rfl, rfl⟩, fun probe => rfl,
    fun count => rfl⟩

/-- Characters of several bytes stand in front of the slashes like any others. -/
example : (Client.new 2000 "http://é//").url "/latest" = "http://é/latest" := by decide

end CloudQueue.Metadata

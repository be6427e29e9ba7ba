import ReadThrough.Proofs.Peer.Path

/-!
# The paths that ask for a key

A path that asks for a key is meant to have exactly two segments behind the base path: the group,
which is not empty, and the key. A reader keeps to that but for one thing. It looks for the slash
between the two and not for a further one, so that a path with more segments is read as well, and
the key has slashes then. Every path that is not read is a fault of the protocol.

## Main definitions

* `PeerPath.TwoSegments base path group key`: the path asks for the key of the group
* `PeerPath.KeepsGrammar base path`: the path is read just as its segments say

## Main results

* `PeerPath.isProtocol_of_parse`: what is not read is a fault of the protocol
* `PeerPath.grammar`: which paths are read, and which of them just as their segments say
* `PeerPath.not_keepsGrammar`: a path of three segments that is read
-/

namespace ReadThrough.PeerPath

variable {base path group key first rest : String}

/-! ## Faults -/

theorem isProtocol_of_segment {cs : List Char} {fault : Fault} (h : segment cs = .error fault) :
    ∃ text, fault = .protocol text := by
  unfold segment at h
  dsimp only at h
  split at h
  · contradiction
  · exact ⟨_, (Except.error.inj h).symm⟩

/-- **What is not read is a fault of the protocol.** -/
theorem isProtocol_of_parse {fault : Fault} (h : parse base path = .error fault) :
    ∃ text, fault = .protocol text := by
  rcases splits_or_protocol base path with ⟨first, rest, hsplit⟩ | ⟨text, htext⟩
  · rw [hsplit.parse_eq] at h
    cases hfirst : segment first.toList with
    | error fault' =>
      rw [hfirst] at h
      obtain rfl := Except.error.inj h
      exact isProtocol_of_segment hfirst
    | ok s =>
      cases hrest : segment rest.toList with
      | error fault' =>
        rw [hfirst, hrest] at h
        obtain rfl := Except.error.inj h
        exact isProtocol_of_segment hrest
      | ok t =>
        rw [hfirst, hrest] at h
        contradiction
  · rw [htext] at h
    exact ⟨text, (Except.error.inj h).symm⟩

theorem ok_or_protocol (base path : String) : (∃ group key, parse base path = .ok (group, key)) ∨
    ∃ text, parse base path = .error (.protocol text) := by
  cases hparse : parse base path with
  | ok p => exact .inl ⟨p.1, p.2, rfl⟩
  | error fault =>
    obtain ⟨text, rfl⟩ := isProtocol_of_parse hparse
    exact .inr ⟨text, rfl⟩

/-! ## Segments -/

/-- A path is split in one way only. -/
theorem Splits.unique {first' rest' : String} (h : Splits base path first rest)
    (h' : Splits base path first' rest') : first = first' ∧ rest = rest' := by
  obtain ⟨rfl, -, hslash⟩ := h
  obtain ⟨he, -, hslash'⟩ := h'
  -- Both first segments end at the first slash behind the base path.
  have hchars : first.toList ++ '/' :: rest.toList = first'.toList ++ '/' :: rest'.toList := by
    simpa using congrArg String.toList he
  have hcut := cutSlash?_append hslash rest.toList
  rw [hchars, cutSlash?_append hslash'] at hcut
  obtain ⟨hfirst, hrest⟩ := Prod.mk.inj (Option.some.inj hcut)
  exact ⟨String.toList_injective hfirst.symm, String.toList_injective hrest.symm⟩

/-- The path is the base path and two segments, which encode the group and the key. -/
def TwoSegments (base path group key : String) : Prop :=
  ∃ first rest, Splits base path first rest ∧ '/' ∉ rest.toList ∧
    Encodes first group ∧ Encodes rest key

theorem TwoSegments.parse_eq (h : TwoSegments base path group key) :
    parse base path = .ok (group, key) := by
  obtain ⟨first, rest, hsplit, -, hcodes⟩ := h
  exact hsplit.parse_eq_ok_iff.mpr hcodes

/-- The path is read just as its segments say: it asks for the group and the key that its two
segments encode, and if it has no two such segments, it is a fault of the protocol. -/
structure KeepsGrammar (base path : String) : Prop where
  /-- What is read are two segments, and two segments are read. -/
  ok_iff : ∀ group key, parse base path = .ok (group, key) ↔ TwoSegments base path group key
  /-- All else is a fault. -/
  protocol : (∀ group key, ¬ TwoSegments base path group key) →
    ∃ text, parse base path = .error (.protocol text)

/-- A path is read just as its segments say, unless it has more than two of them and is read all
the same. -/
theorem keepsGrammar_iff : KeepsGrammar base path ↔ ¬ ∃ first rest group key,
    Splits base path first rest ∧ '/' ∈ rest.toList ∧ Encodes first group ∧ Encodes rest key := by
  constructor
  · -- A path is split in one way only, so it has no two segments if it has more.
    rintro h ⟨first, rest, group, key, hsplit, hslash, hcodes⟩
    have hparse := hsplit.parse_eq_ok_iff.mpr hcodes
    obtain ⟨first', rest', hsplit', hslash', -⟩ := (h.ok_iff group key).mp hparse
    obtain ⟨-, rfl⟩ := hsplit.unique hsplit'
    exact hslash' hslash
  · intro h
    have ok_iff : ∀ group key,
        parse base path = .ok (group, key) ↔ TwoSegments base path group key := by
      intro group key
      refine ⟨fun hparse => ?_, TwoSegments.parse_eq⟩
      obtain ⟨first, rest, hsplit, hcodes⟩ := parse_eq_ok_iff.mp hparse
      refine ⟨first, rest, hsplit, fun hslash => ?_, hcodes⟩
      exact h ⟨first, rest, group, key, hsplit, hslash, hcodes⟩
    refine ⟨ok_iff, fun hnone => ?_⟩
    rcases ok_or_protocol base path with ⟨group, key, hparse⟩ | hprotocol
    · exact absurd ((ok_iff group key).mp hparse) (hnone group key)
    · exact hprotocol

/-- **Which paths are read.** A path is read if, behind the base path, a slash follows a first
segment of some characters, and both the first segment and all that follows the slash encode a text;
every other path is a fault of the protocol. So a path is read just as its segments say, unless a
further slash stands in what follows, and that and the first segment encode a text all the same. -/
theorem grammar (base path : String) :
    (∀ group key, parse base path = .ok (group, key) ↔
      ∃ first rest, Splits base path first rest ∧ Encodes first group ∧ Encodes rest key) ∧
    ((∃ group key, parse base path = .ok (group, key)) ∨
      ∃ text, parse base path = .error (.protocol text)) ∧
    (KeepsGrammar base path ↔ ¬ ∃ first rest group key, Splits base path first rest ∧
      '/' ∈ rest.toList ∧ Encodes first group ∧ Encodes rest key) :=
  ⟨fun _ _ => parse_eq_ok_iff, ok_or_protocol base path, keepsGrammar_iff⟩

/-- A path of three segments is read, with the last two of them as the key. -/
theorem not_keepsGrammar :
    parse "/_cache_/" "/_cache_/scores/a/b" = .ok ("scores", "a/b") ∧
      ¬ KeepsGrammar "/_cache_/" "/_cache_/scores/a/b" := by
  have hparse : parse "/_cache_/" "/_cache_/scores/a/b" = .ok ("scores", "a/b") := rfl
  have hsplit : Splits "/_cache_/" "/_cache_/scores/a/b" "scores" "a/b" :=
    ⟨rfl, by decide, by decide⟩
  refine ⟨hparse, fun h => ?_⟩
  obtain ⟨first, rest, hsplit', hslash, -⟩ := (h.ok_iff _ _).mp hparse
  obtain ⟨-, rfl⟩ := hsplit.unique hsplit'
  exact hslash (by decide)

end ReadThrough.PeerPath

import ReadThrough.Proofs.Http.Path
import ReadThrough.Proofs.Http.Url
import ReadThrough.Proofs.Peer.Path
import ReadThrough.Proofs.Peer.Pool

/-!
# Requests on the web

A request for a key goes to the URL that a client's address and the path for the key make, and what
a server reads is the path that parsing leaves of it. That is the path as it was written, and the
server reads the group and the key that were asked for, whatever they contain, unless one of them is
`.` or `..`. Such a name is encoded as itself and resolved as a segment of the path, so that the
request asks for something else, or for nothing.

## Main definitions

* `Client.ofServer host port`: the client of the server at a host and a port
* `PeerPath.IsDotName s`: the name is one of the two that get lost

## Main results

* `PeerPath.parse_resolved_iff`: when a server reads what was asked for
* `Client.arrives_iff`: when a request arrives as what it was sent for
* `Client.not_arrives`: a key that gets lost
-/

namespace ReadThrough

open Url (IsDots nameSegment renderSegments resolveAfter resolveDots)

namespace PeerPath

variable {base path group key : String}

/-- The name is resolved where it is a segment of a path. -/
def IsDotName (s : String) : Prop := s = "." ∨ s = ".."

/-! ## Three segments -/

/-- The segments of a path that asks for a key, behind the default base path. -/
def segments (group key : String) : List (List Char) :=
  ["_cache_", group, key].map nameSegment

theorem toList_render_defaultBase (group key : String) :
    (render defaultBase group key).toList = renderSegments (segments group key) := by
  have hbase : defaultBase.toList = '/' :: (nameSegment "_cache_" ++ ['/']) := by decide +kernel
  rw [toList_render, hbase]
  simp [renderSegments, segments, nameSegment]

/-- A path that asks for a key has a slash behind the base path. -/
theorem count_lt_of_parse (h : parse base path = .ok (group, key)) :
    base.toList.count '/' < path.toList.count '/' := by
  obtain ⟨first, rest, hsplit, -⟩ := parse_eq_ok_iff.mp h
  rw [hsplit.path_eq]
  simp only [String.toList_append, List.count_append]
  have hslash : "/".toList.count '/' = 1 := by decide
  omega

/-- With a segment lost, a path asks for no key. -/
theorem parse_resolved_ne (h : (resolveDots (segments group key)).length < 3) {p : String × String} :
    parse defaultBase (String.ofList (renderSegments (resolveDots (segments group key)))) ≠
      .ok p := by
  intro hparse
  -- There is a slash for each segment that is left, and the base path alone has two.
  have hcount := count_lt_of_parse hparse
  have hnone : ∀ s ∈ resolveDots (segments group key), '/' ∉ s := by
    intro s hs
    obtain ⟨name, rfl⟩ := Url.exists_nameSegment_of_mem hs
    exact Text.Percent.slash_not_mem_encodeText name
  have hbase : defaultBase.toList.count '/' = 2 := by decide
  rw [String.toList_ofList, Url.count_renderSegments hnone, hbase] at hcount
  omega

/-! ## Dots among them -/

theorem resolveDots_segments (group key : String) : resolveDots (segments group key) =
    (resolveAfter [nameSegment "_cache_"] [nameSegment group, nameSegment key]).reverse := by
  have hbase : ¬ IsDots (nameSegment "_cache_") := by
    rw [Url.isDots_nameSegment]
    decide
  exact congrArg List.reverse (Url.resolveAfter_cons_of_not hbase _ _ _)

theorem length_resolveDots_of_group (hgroup : IsDotName group) :
    (resolveDots (segments group key)).length < 3 := by
  rw [resolveDots_segments, List.length_reverse]
  exact Url.length_resolveAfter_lt (Url.isDots_nameSegment.mpr hgroup)

theorem resolveDots_of_group_ne (hgroup : ¬ IsDotName group) : resolveDots (segments group key) =
    (resolveAfter [nameSegment group, nameSegment "_cache_"] [nameSegment key]).reverse := by
  rw [resolveDots_segments, Url.resolveAfter_cons_of_not (mt Url.isDots_nameSegment.mp hgroup)]

/-- The key `..` stands for the parent of what follows the group, and the group gets lost. -/
theorem length_resolveDots_of_parent (hgroup : ¬ IsDotName group) :
    (resolveDots (segments group "..")).length < 3 := by
  rw [resolveDots_of_group_ne hgroup, resolveAfter, if_pos (Url.isParent_nameSegment.mpr rfl),
    Url.parent, if_neg (by simp [Url.isDrive_nameSegment])]
  decide

/-- The key `.` stands for nothing, and what is left of it is the empty key. -/
theorem resolveDots_of_self (hgroup : ¬ IsDotName group) :
    resolveDots (segments group ".") = segments group "" := by
  have hself : Url.isSelf (nameSegment ".") = true := Url.isSelf_nameSegment.mpr rfl
  have hparent : ¬ Url.isParent (nameSegment ".") = true := by
    rw [Url.isParent_nameSegment]
    decide
  rw [resolveDots_of_group_ne hgroup, resolveAfter, if_neg hparent, if_pos hself]
  rfl

/-- **When a server reads what was asked for**: if neither group nor key is one of the names that
get lost. -/
theorem parse_resolved_iff (hne : group ≠ "") :
    parse defaultBase (String.ofList (renderSegments (resolveDots (segments group key)))) =
      .ok (group, key) ↔ ¬ IsDotName group ∧ ¬ IsDotName key := by
  have written : ∀ key, String.ofList (renderSegments (segments group key)) =
      render defaultBase group key := by
    intro key
    rw [← toList_render_defaultBase, String.ofList_toList]
  constructor
  · intro h
    have hgroup : ¬ IsDotName group :=
      fun hgroup => parse_resolved_ne (length_resolveDots_of_group hgroup) h
    refine ⟨hgroup, ?_⟩
    -- The key `.` is read as the empty one, and with the key `..` no key is asked for at all.
    rintro (rfl | rfl)
    · rw [resolveDots_of_self hgroup, written, parse_render hne] at h
      have hkey : ("" : String) = "." := (Prod.mk.inj (Except.ok.inj h)).2
      exact absurd hkey (by decide)
    · exact parse_resolved_ne (length_resolveDots_of_parent hgroup) h
  · rintro ⟨hgroup, hkey⟩
    have hdots : ∀ s ∈ segments group key, ¬ IsDots s := by
      intro s hs
      obtain ⟨name, hname, rfl⟩ := List.mem_map.mp hs
      rw [Url.isDots_nameSegment]
      simp only [List.mem_cons, List.not_mem_nil, or_false] at hname
      rcases hname with rfl | rfl | rfl
      · decide
      · exact hgroup
      · exact hkey
    rw [Url.resolveDots_eq_self hdots, written, parse_render hne]

end PeerPath

namespace Client

variable {host : List Char} {h : Host} {port : Nat} {group key : String}

/-! ## Requests -/

/-- The client of the server at a host and a port, with the default base path. -/
def ofServer (host : List Char) (port : Nat) : Client :=
  create (Url.serverAddress host port) PeerPath.defaultBase

theorem normalizeAddress_serverAddress (host : List Char) (port : Nat) :
    normalizeAddress (Url.serverAddress host port) = Url.serverAddress host port := by
  apply normalizeAddress_eq_self
  intro c hc
  rw [Url.serverAddress, String.toList_append,
    List.getLast?_append_of_ne_nil _ (Text.Numeral.toList_toString_ne_nil port)] at hc
  have hdigit := Text.Numeral.isDigit_of_mem_toString (List.mem_of_getLast? hc)
  rintro rfl
  contradiction

theorem url_ofServer (host : List Char) (port : Nat) (group key : String) :
    (ofServer host port).url group key =
      Url.serverAddress host port ++ PeerPath.render PeerPath.defaultBase group key :=
  congrArg (· ++ PeerPath.render PeerPath.defaultBase group key)
    (normalizeAddress_serverAddress host port)

/-- No character of a request path ends the path or is cut off. -/
theorem plain_render {c : Char} (hc : c ∈ (PeerPath.render PeerPath.defaultBase group key).toList) :
    0x20 < c.toNat ∧ c ∉ ['?', '#'] := by
  rw [PeerPath.toList_render_defaultBase] at hc
  obtain ⟨s, hs, hc⟩ := List.mem_flatMap.mp hc
  obtain ⟨name, -, rfl⟩ := List.mem_map.mp hs
  rcases List.mem_cons.mp hc with rfl | hc
  · decide
  · -- What is written for a name are letters, digits, percent signs and four marks.
    have hwritten := Url.written_of_mem_nameSegment hc
    refine ⟨?_, ?_⟩
    · by_contra hlow
      have all : ∀ n ≤ 0x20, ¬ Text.Percent.Written (UInt8.ofNat n) := by decide +kernel
      exact all _ (Nat.not_lt.mp hlow) hwritten
    · intro hmem
      simp only [List.mem_cons, List.not_mem_nil, or_false] at hmem
      rcases hmem with rfl | rfl <;> revert hwritten <;> decide

/-- The URL of a request. -/
theorem parse?_url (hhost : Host.Spelled host h) (hport : port < 65536) :
    Url.parse? ((ofServer host port).url group key) = some {
      scheme := "http"
      authority := some ⟨none, h, if port = 80 then none else some port⟩
      path := String.ofList (renderSegments (resolveDots (PeerPath.segments group key)))
      query := none
      fragment := none } := by
  have hslash : (PeerPath.render PeerPath.defaultBase group key).toList.head? = some '/' := by
    rw [PeerPath.toList_render_defaultBase]
    rfl
  rw [url_ofServer, Url.parse?_serverAddress_append hhost hport hslash fun c hc => plain_render hc,
    PeerPath.toList_render_defaultBase, PeerPath.segments, Url.parsePath_names (List.cons_ne_nil _ _)]

/-- **When a request arrives as what it was sent for.** The URL of a request for a key is one, and if
a request can be sent there, it asks for the path of that URL. A server reads there the group and the
key that were asked for, unless one of them is `.` or `..`. -/
theorem arrives_iff (hhost : Host.Spelled host h) (hport : port < 65536) (hgroup : group ≠ "") :
    ∃ u, Url.parse? ((ofServer host port).url group key) = some u ∧
      (u.isReachable = true →
        Route.web (ofServer host port) group key = .ok (Route.dispatch u)) ∧
      (PeerPath.parse PeerPath.defaultBase (Route.dispatch u).path = .ok (group, key) ↔
        ¬ PeerPath.IsDotName group ∧ ¬ PeerPath.IsDotName key) := by
  refine ⟨_, parse?_url hhost hport, fun hreach => ?_, PeerPath.parse_resolved_iff hgroup⟩
  rw [Route.web, parse?_url hhost hport]
  exact if_pos hreach

/-- A slash in the group's name and a key that reads like an escaped dot arrive at a server whose
host is an address with colons. -/
theorem arrives_iff_escaped :
    Host.Spelled "[::1]".toList (.ip6 ⟨[0, 0, 0, 0, 0, 0, 0, 1], rfl⟩) ∧
      ∃ u, Route.web (ofServer "[::1]".toList 8001) "a/b" "%2e" = .ok (Route.dispatch u) ∧
        PeerPath.parse PeerPath.defaultBase (Route.dispatch u).path = .ok ("a/b", "%2e") := by
  have hhost : Host.Spelled "[::1]".toList (.ip6 ⟨[0, 0, 0, 0, 0, 0, 0, 1], rfl⟩) := {
    parse := by decide +kernel
    plain := by simp
    bounds := .inr ⟨"::1".toList, by simp, by simp⟩ }
  obtain ⟨u, hu, hweb, hread⟩ :=
    @arrives_iff _ _ 8001 "a/b" "%2e" hhost (by decide) (by decide)
  have hreach : (Url.parse? ((ofServer "[::1]".toList 8001).url "a/b" "%2e")).any Url.isReachable =
      true := by
    decide +kernel
  rw [hu] at hreach
  refine ⟨hhost, u, hweb hreach, hread.mpr ?_⟩
  unfold PeerPath.IsDotName
  decide

/-- The key `..` does not arrive: the request asks for the base path alone. -/
theorem not_arrives : Host.Spelled "n2".toList (.name "n2") ∧
    ¬ ∃ u, Url.parse? ((ofServer "n2".toList 8002).url "scores" "..") = some u ∧
      PeerPath.parse PeerPath.defaultBase (Route.dispatch u).path = .ok ("scores", "..") := by
  refine ⟨⟨by decide +kernel, by simp, .inl (by simp)⟩, ?_⟩
  rintro ⟨u, hu, hread⟩
  have hpath : (Url.parse? ((ofServer "n2".toList 8002).url "scores" "..")).map
      (fun u => (Route.dispatch u).path) = some "/_cache_/" := by
    decide +kernel
  rw [hu, Option.map_some, Option.some.injEq] at hpath
  rw [hpath] at hread
  have hfault : PeerPath.parse PeerPath.defaultBase "/_cache_/" =
      .error (.protocol "expected /_cache_/<group>/<key>: /_cache_/") := rfl
  rw [hfault] at hread
  contradiction

end Client

end ReadThrough

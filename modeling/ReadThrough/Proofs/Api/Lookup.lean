import ReadThrough.Api.Server
import ReadThrough.Proofs.Peer.Transparency

/-!
# Front end and peer server serve the same data

A key can be looked up at the front end, where group and key are parts of a form, and at the peer
server, where they are parts of a path. The two read what they are asked in different ways, write
values and faults in different ways, and count differently. But whoever writes group and key as they
are meant to be written gets the same value from both, or none from either, and the groups do not
tell which way the lookup came, except by the number of peer requests.

## Main definitions

* `Api.uri group key`: the URI that asks the front end for a key
* `Api.Answers v response`, `PeerServer.Answers v response`: a response that answers with a value
* `SameData group front peer`: the two servers have done the same about a key

## Main results

* `Target.parse_path`, `Target.parse_query`: what a URI asks for
* `Api.handle_uri`: a request at the front end is a lookup in a group
* `Registry.same_data`: front end and peer server serve the same data
-/

namespace ReadThrough

/-! ## Targets -/

namespace Target

/-- A URI that begins with a slash has the target it shows. -/
theorem parse_of_head {uri : String} (hslash : uri.toList.head? = some '/')
    (hhash : '#' ∉ uri.toList) : parse uri =
      ⟨String.ofList (uri.toList.takeWhile (· != '?')),
        String.ofList ((uri.toList.dropWhile (· != '?')).drop 1)⟩ := by
  have hall : uri.toList.takeWhile (· != '#') = uri.toList := by
    have h := Text.takeWhile_bne_append hhash []
    rwa [List.append_nil, List.takeWhile_nil, List.append_nil] at h
  have hpath : (uri.toList.takeWhile (· != '?')).isEmpty = false := by
    obtain ⟨cs, hcs⟩ := List.head?_eq_some_iff.mp hslash
    rw [hcs, List.takeWhile_cons_of_pos (by decide)]
    rfl
  unfold parse
  dsimp only
  rw [hall, if_pos hslash, if_neg (by simp [hpath])]

variable {path query : String}

/-- A path is asked for without a query. -/
theorem parse_path (hslash : path.toList.head? = some '/') (hhash : '#' ∉ path.toList)
    (hq : '?' ∉ path.toList) : parse path = ⟨path, ""⟩ := by
  have htake := Text.takeWhile_bne_append hq []
  have hdrop := Text.dropWhile_bne_append hq []
  rw [List.append_nil] at htake hdrop
  rw [parse_of_head hslash hhash, htake, hdrop]
  simp

/-- What follows a question mark is the query. -/
theorem parse_query (hslash : path.toList.head? = some '/') (hhash : '#' ∉ path.toList)
    (hq : '?' ∉ path.toList) (hquery : '#' ∉ query.toList) :
    parse (path ++ "?" ++ query) = ⟨path, query⟩ := by
  have huri : (path ++ "?" ++ query).toList = path.toList ++ '?' :: query.toList := by simp
  rw [parse_of_head, huri, Text.takeWhile_bne_append hq, Text.dropWhile_bne_append hq,
    List.takeWhile_cons_of_neg (by decide), List.dropWhile_cons_of_neg (by decide)]
  · simp
  · rw [huri, List.head?_append, hslash, Option.some_or]
  · rw [huri, List.mem_append, List.mem_cons, not_or, not_or]
    exact ⟨hhash, by decide, hquery⟩

end Target

/-! ## Requests at the front end -/

namespace Api

variable {group key defaultGroup : String} {r : Registry}

/-- The query that asks for a key of a group. -/
def query (group key : String) : String :=
  "group=" ++ Text.Percent.encodeText group ++ "&key=" ++ Text.Percent.encodeText key

/-- The URI that asks the front end for a key of a group. -/
def uri (group key : String) : String := "/api?" ++ query group key

theorem parse_uri (group key : String) :
    Target.parse (uri group key) = ⟨"/api", query group key⟩ := by
  have hhash : '#' ∉ (query group key).toList := by
    have hencoded := Text.Percent.not_mem_encodeText (c := '#') (by decide)
    simp [query, hencoded]
  have huri : uri group key = "/api" ++ "?" ++ query group key := rfl
  rw [huri]
  exact Target.parse_query rfl (by simp) (by simp) hhash

/-- The query is read as it was written. -/
theorem ofPairs_query (group key : String) :
    Query.ofPairs (Text.Form.pairs (Text.utf8 (query group key))) = .ok ⟨some group, key⟩ := by
  have hform : Text.utf8 (query group key) =
      Text.Form.render [("group", group), ("key", key)] := by
    have hgroup : Text.utf8 "group=" = Text.Percent.encode (Text.utf8 "group") ++ [0x3D] := by
      decide +kernel
    have hkey : Text.utf8 "&key=" = 0x26 :: Text.Percent.encode (Text.utf8 "key") ++ [0x3D] := by
      decide +kernel
    rw [query, Text.utf8_append, Text.utf8_append, Text.utf8_append, hgroup, hkey,
      Text.Percent.utf8_encodeText, Text.Percent.utf8_encodeText]
    simp [Text.Form.render, Text.Form.piece]
  rw [hform, Text.Form.pairs_render]
  rfl

/-- **A request at the front end is a lookup in a group.** -/
theorem handle_uri (defaultGroup : String) (r : Registry) (group key : String) :
    handle defaultGroup r ⟨"GET", Target.parse (uri group key)⟩ =
      ((lookup defaultGroup r ⟨some group, key⟩).1,
        (lookup defaultGroup r ⟨some group, key⟩).2.map (·.withHeaders sharing)) := by
  rw [parse_uri]
  unfold handle answer get lookupEncoded
  rw [ofPairs_query]
  simp [paths]

theorem lookup_of_known (hhas : (r.find? group).isSome = true) :
    lookup defaultGroup r ⟨some group, key⟩ =
      ((r.get group key).1, (r.get group key).2.map respond) := by
  unfold lookup
  exact if_pos hhas

theorem lookup_of_unknown (hhas : (r.find? group).isSome = false) :
    lookup defaultGroup r ⟨some group, key⟩ =
      (r, some (refuse (.notFound ("no such group: " ++ group)))) := by
  unfold lookup
  exact if_neg (Bool.eq_false_iff.mp hhas)

end Api

/-- A path that asks the peer server for a key has no query. -/
theorem PeerPath.parse_target (group key : String) :
    Target.parse (render defaultBase group key) = ⟨render defaultBase group key, ""⟩ := by
  have hhash := Text.Percent.not_mem_encodeText (c := '#') (by decide)
  have hquery := Text.Percent.not_mem_encodeText (c := '?') (by decide)
  apply Target.parse_path
  · rw [toList_render]
    rfl
  · simp [toList_render, hhash, defaultBase]
  · simp [toList_render, hquery, defaultBase]

/-! ## Two ways to answer -/

/-- The front end answers with the value `v`. -/
def Api.Answers (v : Bytes) (response : Option Response) : Prop :=
  ∃ headers, response = some ⟨200, headers, .bytes v⟩

/-- The peer server answers with the value `v`, in an envelope. -/
def PeerServer.Answers (v : Bytes) (response : Option Response) : Prop :=
  ∃ headers body, response = some ⟨200, headers, .bytes body⟩ ∧ Envelope.decode body = .ok v

/-- The answer is a success. -/
def Succeeds (response : Option Response) : Prop := response.map (·.status) = some 200

/-- What a client outside the cluster and a peer are answered. -/
structure SameAnswer (front peer : Option Response) : Prop where
  /-- Both learn the same value, -/
  value_iff : ∀ v, Api.Answers v front ↔ PeerServer.Answers v peer
  /-- or neither has success, -/
  succeeds_iff : Succeeds front ↔ Succeeds peer
  /-- and if one of them has no answer at all, neither has the other. -/
  isSome_eq : front.isSome = peer.isSome

namespace SameAnswer

variable {front peer : Option Response} {headers : List (String × String)}

theorem of_failure (hfront : ¬ Succeeds front) (hpeer : ¬ Succeeds peer)
    (hsome : front.isSome = peer.isSome) : SameAnswer front peer where
  value_iff v := by
    constructor
    · rintro ⟨_, rfl⟩
      exact absurd rfl hfront
    · rintro ⟨_, _, rfl, -⟩
      exact absurd rfl hpeer
  succeeds_iff := iff_of_false hfront hpeer
  isSome_eq := hsome

theorem of_value {value : Value} (hsize : value.bytes.length < 2 ^ 64) :
    SameAnswer (some ((Api.respond (.ok value)).withHeaders headers))
      (some (PeerServer.respond (.ok value))) where
  value_iff v := by
    constructor
    · rintro ⟨_, h⟩
      obtain rfl : value.bytes = v := by cases h; rfl
      exact ⟨_, _, rfl, Envelope.decode_encode hsize⟩
    · rintro ⟨_, _, h, hdecode⟩
      cases h
      rw [Envelope.decode_encode hsize] at hdecode
      exact ⟨_, by rw [← Except.ok.inj hdecode]; rfl⟩
  succeeds_iff := iff_of_true rfl rfl
  isSome_eq := rfl

theorem not_succeeds_none : ¬ Succeeds none := by
  intro h
  cases h

theorem not_succeeds_ofText {status : Nat} {text : String} (hne : status ≠ 200) :
    ¬ Succeeds (some (.ofText status text)) := by
  intro h
  exact hne (Option.some.inj h)

/-- A fault never looks like a success. -/
theorem not_succeeds_fault (fault : Fault) :
    ¬ Succeeds (some ((Api.refuse fault).withHeaders headers)) := by
  intro h
  have hstatus : fault.status = 200 := Option.some.inj h
  cases fault <;> cases hstatus

/-- **What becomes of a lookup is answered alike**, by front end and peer server. -/
theorem respond {outcome : Option Outcome}
    (hsize : ∀ value, outcome = some (.ok value) → value.bytes.length < 2 ^ 64) :
    SameAnswer ((outcome.map Api.respond).map (·.withHeaders headers))
      (outcome.map PeerServer.respond) := by
  rcases outcome with - | fault | value
  · -- A lookup that is stuck is not answered.
    exact of_failure not_succeeds_none not_succeeds_none rfl
  · exact of_failure (not_succeeds_fault fault) (not_succeeds_ofText (by decide)) rfl
  · exact of_value (hsize value rfl)

end SameAnswer

/-! ## Two servers of one registry -/

/-- What two servers answer about one key of a group, one to a client outside the cluster and one to
a peer, and in which states they leave the groups. -/
structure SameData (group : String) (front peer : Registry × Option Response) : Prop where
  /-- The answers agree. -/
  answer : SameAnswer front.2 peer.2
  /-- The stores of all groups are the same, -/
  stores : ∀ name,
    (peer.1.find? name).map (·.group.store) = (front.1.find? name).map (·.group.store)
  /-- and so are the counts, but for one peer request to the group, if there is such a group. -/
  counters : ∀ name, (peer.1.find? name).map (·.group.counters) =
    (front.1.find? name).map fun m =>
      if name = group then
        { m.group.counters with serverRequests := m.group.counters.serverRequests + 1 }
      else m.group.counters
  /-- The same sources were asked. -/
  calls : peer.1.calls = front.1.calls

/-- A registry that has counted a request holds the same data. -/
theorem SameData.of_countRequest {front peer : Option Response} (answer : SameAnswer front peer)
    (r : Registry) (group : String) : SameData group (r, front) (r.countRequest group, peer) where
  answer := answer
  stores name := by
    show ((r.countRequest group).find? name).map _ = (r.find? name).map _
    rw [Registry.find?_countRequest, Option.map_map]
    congr 1
    funext m
    dsimp only [Function.comp]
    split
    · rfl
    · rfl
  counters name := by
    show ((r.countRequest group).find? name).map _ = (r.find? name).map _
    rw [Registry.find?_countRequest, Option.map_map]
    congr 1
    funext m
    dsimp only [Function.comp]
    split
    · rfl
    · rfl
  calls := r.calls_countRequest group

/-- **Front end and peer server serve the same data.** Let a key of a group be asked for at the
front end, as a part of its form, and at the peer server, as a part of its path. Both answer with
the same value, or both have none, and they leave the groups in the same state, but for the peer
request that is counted.

The length of a value has to fit into a machine word. -/
theorem Registry.same_data (defaultGroup : String) {group : String} (hg : group ≠ "")
    (key : String) (r : Registry)
    (hsize : ∀ value, (r.get group key).2 = some (.ok value) → value.bytes.length < 2 ^ 64) :
    SameData group
      (Api.handle defaultGroup r ⟨"GET", Target.parse (Api.uri group key)⟩)
      (PeerServer.handle directory PeerPath.defaultBase r
        ⟨"GET", Target.parse (PeerPath.render PeerPath.defaultBase group key)⟩) := by
  rw [Api.handle_uri, PeerPath.parse_target, PeerServer.handle_eq_serve (by decide)]
  cases hhas : (r.find? group).isSome with
  | true =>
    -- The request is counted before the lookup, which makes no difference.
    have hget : directory.get (directory.countRequest r group) group key =
        ((r.get group key).1.countRequest group, (r.get group key).2) :=
      get_countRequest r group key
    have hserve : PeerServer.serve directory PeerPath.defaultBase r
        (PeerPath.render PeerPath.defaultBase group key) =
          ((r.get group key).1.countRequest group, (r.get group key).2.map PeerServer.respond) := by
      rw [PeerServer.serve_render hg hhas, hget]
    rw [Api.lookup_of_known hhas, hserve]
    exact .of_countRequest (.respond hsize) _ group
  | false =>
    -- Without the group there is nothing to be counted.
    have hcount : r.countRequest group = r := by
      rw [countRequest, Option.not_isSome_iff_eq_none.mp (Bool.eq_false_iff.mp hhas)]
    have hserve : PeerServer.serve directory PeerPath.defaultBase r
        (PeerPath.render PeerPath.defaultBase group key) =
          (r.countRequest group, some (.ofText 404 ("no such group: " ++ group))) := by
      rw [PeerServer.serve_render_of_unknown hg hhas, hcount]
    have answer : SameAnswer
        (some ((Api.refuse (.notFound ("no such group: " ++ group))).withHeaders Api.sharing))
        (some (.ofText 404 ("no such group: " ++ group))) :=
      .of_failure (SameAnswer.not_succeeds_fault _)
        (SameAnswer.not_succeeds_ofText (by decide)) rfl
    rw [Api.lookup_of_unknown hhas, hserve]
    exact .of_countRequest answer r group

/-- The two requests for a key with characters that mean something in forms and in paths. -/
theorem Registry.same_data_encoded :
    SameData "a/b"
      (Api.handle "main" mirror
        ⟨"GET", Target.parse "/api?group=a%2Fb&key=50%25%2B%26%3D%20%C3%A9"⟩)
      (PeerServer.handle directory PeerPath.defaultBase mirror
        ⟨"GET", Target.parse "/_cache_/a%2Fb/50%25%2B%26%3D%20%C3%A9"⟩) ∧
    Api.Answers (Text.utf8 "50%+&= é")
      (Api.handle "main" mirror
        ⟨"GET", Target.parse "/api?group=a%2Fb&key=50%25%2B%26%3D%20%C3%A9"⟩).2 := by
  have huri : Api.uri "a/b" "50%+&= é" = "/api?group=a%2Fb&key=50%25%2B%26%3D%20%C3%A9" := by
    decide +kernel
  have hpath : PeerPath.render PeerPath.defaultBase "a/b" "50%+&= é" =
      "/_cache_/a%2Fb/50%25%2B%26%3D%20%C3%A9" := by
    decide +kernel
  have hvalue : (mirror.get "a/b" "50%+&= é").2 = some (.ok (.ofText "50%+&= é")) := by
    show ((Group.create "a/b" 100 none).serve _ "50%+&= é").2.1 = _
    rw [Group.serve_of_absent _ (by decide) (Store.Sound.find?_empty 100)]
    rfl
  have hsize : ∀ value, (mirror.get "a/b" "50%+&= é").2 = some (.ok value) →
      value.bytes.length < 2 ^ 64 := by
    intro value h
    rw [hvalue] at h
    cases h
    decide
  rw [← huri, ← hpath]
  refine ⟨same_data "main" (by decide) "50%+&= é" mirror hsize, ?_⟩
  rw [Api.handle_uri, Api.lookup_of_known rfl, hvalue]
  exact ⟨_, rfl⟩

end ReadThrough

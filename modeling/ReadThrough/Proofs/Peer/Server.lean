import ReadThrough.Peer.Pool
import ReadThrough.Peer.Server
import ReadThrough.Proofs.Peer.Envelope
import ReadThrough.Proofs.Peer.Path

/-!
# What the peer server makes of a client's request

The path that a client writes is one that the server with the same base path serves, and the server
reads group and key from it as the client meant them. So a request comes down to a lookup in the
group, and a value comes back as it was found.

## Main results

* `PeerServer.fits_render`: the path of a client is served
* `PeerServer.serve_render`: a client's request is a lookup in a group
* `Client.accept_respond`: a value comes back as it was found
-/

namespace ReadThrough

namespace PeerServer

variable {base group key : String}

/-! ## Routing -/

theorem segmentFits_self (p : List Char) : segmentFits p p = true := by
  induction p with
  | nil => rfl
  | cons c p ih =>
    by_cases hc : c = ':'
    · rw [hc, segmentFits]
    · rw [segmentFits, ih, beq_self_eq_true]
      · rfl
      · exact hc

theorem afterSegments?_append (patterns rest : List (List Char)) :
    afterSegments? patterns (patterns ++ rest) = some rest := by
  induction patterns with
  | nil => rfl
  | cons p patterns ih =>
    rw [List.cons_append, afterSegments?, if_pos (segmentFits_self p), ih]

/-- A base path ends with a slash. -/
theorem exists_eq_concat_slash (hb : Pool.isBasePath base) :
    ∃ front, base.toList = front ++ ['/'] := by
  unfold Pool.isBasePath at hb
  rw [Bool.and_eq_true] at hb
  exact List.getLast?_eq_some_iff.mp (eq_of_beq hb.2)

/-- The path of a client is served. -/
theorem fits_render (hb : Pool.isBasePath base) :
    fits base (PeerPath.render base group key) = true := by
  obtain ⟨front, hfront⟩ := exists_eq_concat_slash hb
  have hslash := Text.Percent.slash_not_mem_encodeText
  -- Behind the segments of the base path there are two more, one for the group and one for the key.
  have hbase : (base.toList.splitOn '/').dropLast = front.splitOn '/' := by
    rw [hfront, List.splitOn_append_cons_self, List.splitOn_nil, List.dropLast_concat]
  have hpath : (PeerPath.render base group key).toList.splitOn '/' = front.splitOn '/' ++
      [(Text.Percent.encodeText group).toList, (Text.Percent.encodeText key).toList] := by
    rw [PeerPath.toList_render, hfront, List.append_assoc, List.singleton_append,
      List.splitOn_append_cons_self, List.splitOn_append_cons_self_of_not_mem (hslash group),
      List.splitOn_eq_singleton (hslash key)]
  unfold fits
  rw [hbase, hpath, afterSegments?_append]
  simp

/-! ## Serving -/

section Serving

variable {σ : Type} {dir : Directory σ} {s : σ}

/-- A client's request gets to where lookups are made. -/
theorem handle_eq_serve (hb : Pool.isBasePath base) :
    handle dir base s ⟨"GET", ⟨PeerPath.render base group key, ""⟩⟩ =
      serve dir base s (PeerPath.render base group key) := by
  unfold handle
  rw [if_pos (fits_render hb), if_pos rfl]

/-- **A client's request is a lookup in a group**, for which the group counts a request. -/
theorem serve_render (hg : group ≠ "") (hhas : dir.has s group) :
    serve dir base s (PeerPath.render base group key) =
      ((dir.get (dir.countRequest s group) group key).1,
        (dir.get (dir.countRequest s group) group key).2.map respond) := by
  unfold serve
  rw [PeerPath.parse_render hg]
  dsimp only
  rw [if_pos hhas]

/-- A request for a group that there is not changes nothing. -/
theorem serve_render_of_unknown (hg : group ≠ "") (hhas : dir.has s group = false) :
    serve dir base s (PeerPath.render base group key) =
      (s, some (.ofText 404 ("no such group: " ++ group))) := by
  unfold serve
  rw [PeerPath.parse_render hg]
  dsimp only
  rw [hhas]
  rfl

theorem handle_render (hb : Pool.isBasePath base) (hg : group ≠ "") (hhas : dir.has s group) :
    handle dir base s ⟨"GET", ⟨PeerPath.render base group key, ""⟩⟩ =
      ((dir.get (dir.countRequest s group) group key).1,
        (dir.get (dir.countRequest s group) group key).2.map respond) :=
  (handle_eq_serve hb).trans (serve_render hg hhas)

end Serving

end PeerServer

/-- **A value comes back as it was found.** -/
theorem Client.accept_respond {client : Client} {group key : String} {d : Dispatch} {value : Value}
    (h : value.bytes.length < 2 ^ 64) :
    client.accept group key d (.answered 200 (Envelope.encode value.bytes)) = .ok value := by
  unfold Client.accept
  dsimp only
  rw [Envelope.decode_encode h]
  rfl

end ReadThrough

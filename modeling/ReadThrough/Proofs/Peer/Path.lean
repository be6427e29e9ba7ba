import ReadThrough.Peer.Path
import ReadThrough.Proofs.Text.Encoding

/-!
# Paths that are written and read

What is percent-encoded has no slashes, so the first slash behind the base path is the one that was
written between group and key, whatever the two contain.

The converse does not hold, since a reader accepts more spellings of a path than a writer uses: it
takes escapes in lower-case digits, and slashes and other characters as they are. What has been read
can still be written and is then read again as the same.

## Main definitions

* `PeerPath.Splits base path first rest`: what stands behind the base path
* `PeerPath.Encodes segment text`: the text of a segment

## Main results

* `PeerPath.parse_render`: a path is read as it was written
* `PeerPath.render_inj`: a path is written for one group and key only
* `PeerPath.parse_eq_ok_iff`: which paths are read, and as what
* `PeerPath.group_ne_of_parse`: no path asks for the group without a name
* `PeerPath.round_trip`: the three of them together
-/

namespace ReadThrough.PeerPath

variable {base path group key : String}

theorem dropStart?_append (start cs : List Char) : dropStart? start (start ++ cs) = some cs := by
  induction start with
  | nil => rfl
  | cons a start ih => rw [List.cons_append, dropStart?, if_pos rfl, ih]

theorem cutSlash?_append {cs : List Char} (h : '/' ∉ cs) (rest : List Char) :
    cutSlash? (cs ++ '/' :: rest) = some (cs, rest) := by
  induction cs with
  | nil => rfl
  | cons c cs ih =>
    rw [List.mem_cons, not_or] at h
    rw [List.cons_append, cutSlash?, ih h.2]
    · rfl
    · exact fun he => h.1 he.symm

/-- A segment is read as the text it encodes. -/
theorem segment_encodeText (s : String) :
    segment (Text.Percent.encodeText s).toList = .ok s := by
  unfold segment
  dsimp only
  rw [String.ofList_toList, Text.Percent.decode_utf8_encodeText, Text.decode_utf8]

theorem toList_render : (render base group key).toList =
    base.toList ++ ((Text.Percent.encodeText group).toList ++
      '/' :: (Text.Percent.encodeText key).toList) := by
  simp [render]

/-- **A path is read as it was written.** -/
theorem parse_render (hg : group ≠ "") : parse base (render base group key) = .ok (group, key) := by
  unfold parse
  rw [toList_render, dropStart?_append]
  dsimp only
  rw [cutSlash?_append (Text.Percent.slash_not_mem_encodeText group)]
  -- The group is not missing, because its name is not encoded as nothing.
  have hne := Text.Percent.encodeText_ne_nil hg
  have hsegment := segment_encodeText group
  generalize (Text.Percent.encodeText group).toList = cs at hne hsegment
  cases cs with
  | nil => contradiction
  | cons c cs =>
    dsimp only
    rw [hsegment, segment_encodeText]
    rfl

/-! ## One path for one pair -/

theorem cutSlash?_toList_encodeText (s t : String) :
    cutSlash? ((Text.Percent.encodeText s).toList ++ '/' :: (Text.Percent.encodeText t).toList) =
      some ((Text.Percent.encodeText s).toList, (Text.Percent.encodeText t).toList) :=
  cutSlash?_append (Text.Percent.slash_not_mem_encodeText s) _

/-- **A path is written for one group and key only.** -/
theorem render_inj {group' key' : String} :
    render base group key = render base group' key' ↔ group = group' ∧ key = key' := by
  constructor
  · intro h
    -- Behind the base path, the first slash tells the two segments apart.
    have hchars := congrArg String.toList h
    rw [toList_render, toList_render] at hchars
    have hcut := congrArg cutSlash? (List.append_cancel_left hchars)
    rw [cutSlash?_toList_encodeText, cutSlash?_toList_encodeText] at hcut
    obtain ⟨hgroup, hkey⟩ := Prod.mk.inj (Option.some.inj hcut)
    exact ⟨Text.Percent.encodeText_injective (String.toList_injective hgroup),
      Text.Percent.encodeText_injective (String.toList_injective hkey)⟩
  · rintro ⟨rfl, rfl⟩
    rfl

/-! ## What has been read -/

theorem dropStart?_eq_some_iff {start cs rest : List Char} :
    dropStart? start cs = some rest ↔ cs = start ++ rest := by
  constructor
  · intro h
    induction start generalizing cs with
    | nil => exact Option.some.inj h
    | cons a start ih =>
      cases cs with
      | nil => contradiction
      | cons c cs =>
        rw [dropStart?] at h
        split at h
        · next he => rw [he, ih h, List.cons_append]
        · contradiction
  · rintro rfl
    exact dropStart?_append start rest

theorem cutSlash?_eq_some_iff {cs first rest : List Char} :
    cutSlash? cs = some (first, rest) ↔ cs = first ++ '/' :: rest ∧ '/' ∉ first := by
  constructor
  · intro h
    induction cs generalizing first with
    | nil => contradiction
    | cons c cs ih =>
      by_cases hc : c = '/'
      · subst hc
        obtain ⟨rfl, rfl⟩ := Prod.mk.inj (Option.some.inj h)
        exact ⟨rfl, List.not_mem_nil⟩
      · rw [cutSlash?] at h
        · obtain ⟨⟨first', rest'⟩, hcut, he⟩ := Option.map_eq_some_iff.mp h
          obtain ⟨rfl, rfl⟩ := Prod.mk.inj he
          obtain ⟨rfl, hslash⟩ := ih hcut
          refine ⟨rfl, ?_⟩
          rw [List.mem_cons, not_or]
          exact ⟨fun he => hc he.symm, hslash⟩
        · exact hc
  · rintro ⟨rfl, hslash⟩
    exact cutSlash?_append hslash rest

/-- The segment encodes the text: with its escapes resolved it has the bytes of the text. -/
def Encodes (segment text : String) : Prop :=
  Text.Percent.decode (Text.utf8 segment) = Text.utf8 text

theorem segment_eq_ok_iff {cs : List Char} {s : String} :
    segment cs = .ok s ↔ Encodes (String.ofList cs) s := by
  unfold segment Encodes
  dsimp only
  rw [← Text.decode_eq_ok_iff]
  split
  · next t ht => rw [ht, Except.ok.injEq, Except.ok.injEq]
  · next flaw hflaw =>
    rw [hflaw]
    simp

/-- A segment of some characters encodes a text of some characters. -/
theorem Encodes.ne_empty {first s : String} (h : Encodes first s) (hne : first ≠ "") : s ≠ "" := by
  rintro rfl
  -- Bytes that are decoded to none are none to begin with.
  exact hne (Text.utf8_injective (Text.Percent.eq_nil_of_decode h))

/-- Behind the base path stand a first segment of some characters, a slash and `rest`. -/
structure Splits (base path first rest : String) : Prop where
  /-- These are the parts of the path. -/
  path_eq : path = base ++ first ++ "/" ++ rest
  /-- The first segment is not missing. -/
  first_ne : first ≠ ""
  /-- It ends at the first slash. -/
  slash_not_mem : '/' ∉ first.toList

theorem Splits.parse_eq {first rest : String} (h : Splits base path first rest) :
    parse base path = do return (← segment first.toList, ← segment rest.toList) := by
  obtain ⟨rfl, hne, hslash⟩ := h
  have hdrop : dropStart? base.toList (base ++ first ++ "/" ++ rest).toList =
      some (first.toList ++ '/' :: rest.toList) := by
    apply dropStart?_eq_some_iff.mpr
    simp
  unfold parse
  rw [hdrop]
  dsimp only
  rw [cutSlash?_append hslash]
  have hcs : first.toList ≠ [] := mt String.toList_eq_nil_iff.mp hne
  generalize first.toList = cs at hcs
  cases cs with
  | nil => contradiction
  | cons c cs => rfl

/-- A path that is not split so is a fault of the protocol. -/
theorem splits_or_protocol (base path : String) : (∃ first rest, Splits base path first rest) ∨
    ∃ text, parse base path = .error (.protocol text) := by
  unfold parse
  split
  · exact .inr ⟨_, rfl⟩
  · next inside hdrop =>
    split
    · exact .inr ⟨_, rfl⟩
    · exact .inr ⟨_, rfl⟩
    · next first rest hfirst hcut =>
      obtain ⟨rfl, hslash⟩ := cutSlash?_eq_some_iff.mp hcut
      refine .inl ⟨String.ofList first, String.ofList rest, ?_, ?_, ?_⟩
      · apply String.toList_injective
        rw [dropStart?_eq_some_iff.mp hdrop]
        simp
      · rw [Ne, String.ofList_eq_empty_iff]
        exact hfirst
      · rwa [String.toList_ofList]

theorem Splits.parse_eq_ok_iff {first rest : String} (h : Splits base path first rest) :
    parse base path = .ok (group, key) ↔ Encodes first group ∧ Encodes rest key := by
  have read : ∀ s t : String, segment s.toList = .ok t ↔ Encodes s t := by
    intro s t
    rw [segment_eq_ok_iff, String.ofList_toList]
  rw [h.parse_eq, ← read, ← read]
  cases segment first.toList with
  | error fault => simp [bind, Except.bind]
  | ok s => cases segment rest.toList <;> simp [bind, Except.bind, pure, Except.pure]

/-- **Which paths are read**, and as what. -/
theorem parse_eq_ok_iff : parse base path = .ok (group, key) ↔
    ∃ first rest, Splits base path first rest ∧ Encodes first group ∧ Encodes rest key := by
  constructor
  · intro h
    rcases splits_or_protocol base path with ⟨first, rest, hsplit⟩ | ⟨text, htext⟩
    · exact ⟨first, rest, hsplit, hsplit.parse_eq_ok_iff.mp h⟩
    · rw [htext] at h
      contradiction
  · rintro ⟨first, rest, hsplit, hcodes⟩
    exact hsplit.parse_eq_ok_iff.mpr hcodes

/-- No path asks for the group without a name. -/
theorem group_ne_of_parse (h : parse base path = .ok (group, key)) : group ≠ "" := by
  obtain ⟨first, rest, hsplit, hgroup, -⟩ := parse_eq_ok_iff.mp h
  exact hgroup.ne_empty hsplit.first_ne

/-- **Request paths round-trip.** A group that has a name and a key, whatever the two contain, are
read from the path that is written for them; two pairs are never asked for by one path; and what has
been read from any path can be written, and is then read again. -/
theorem round_trip (base : String) :
    (∀ group key : String, group ≠ "" →
      parse base (render base group key) = .ok (group, key)) ∧
    (∀ group key group' key' : String, (group, key) ≠ (group', key') →
      render base group key ≠ render base group' key') ∧
    ∀ path group key : String, parse base path = .ok (group, key) →
      parse base (render base group key) = .ok (group, key) := by
  refine ⟨?_, ?_, ?_⟩
  · intro group key hgroup
    exact parse_render hgroup
  · intro group key group' key' hne h
    obtain ⟨rfl, rfl⟩ := render_inj.mp h
    exact hne rfl
  · intro path group key h
    exact parse_render (group_ne_of_parse h)

/-- A name full of separators and an empty key are read back, a slash in the name and one in the key
are told apart, and so is read again what comes from a path with escapes in lower-case digits, a
slash, a space and a percent sign of its own. -/
theorem round_trip_separators :
    parse "/_cache_/" (render "/_cache_/" "a/b%2F?x#y+z w" "") = .ok ("a/b%2F?x#y+z w", "") ∧
      render "" "a/b" "c" ≠ render "" "a" "b/c" ∧
      parse "/_cache_/" "/_cache_/%67%c3%a9/a b/c%2f%zz" = .ok ("gé", "a b/c/%zz") ∧
      parse "/_cache_/" (render "/_cache_/" "gé" "a b/c/%zz") = .ok ("gé", "a b/c/%zz") := by
  have hparse : parse "/_cache_/" "/_cache_/%67%c3%a9/a b/c%2f%zz" = .ok ("gé", "a b/c/%zz") := rfl
  obtain ⟨read, -, reread⟩ := round_trip "/_cache_/"
  obtain ⟨-, apart, -⟩ := round_trip ""
  exact ⟨read _ _ (by decide), apart _ _ _ _ (by decide), hparse, reread _ _ _ hparse⟩

end ReadThrough.PeerPath

import Mathlib.Data.List.Basic
import Mathlib.Data.List.TakeWhile
import ReadThrough.Http.Url.Basic
import ReadThrough.Proofs.Text.Ends

/-!
# URLs of servers

The address `http://host:port` of a server and a path behind it make a URL that is parsed as such:
the host and the port are those of the address, and the path is all that follows. For that the host
has to be one, and its characters have to be such that they end where the host ends.

## Main definitions

* `Host.Spelled cs h`: the characters spell a host
* `Url.hostPort host port`, `Url.serverAddress host port`: the address of a server, without the scheme
  and with it

## Main results

* `Url.Authority.parse?_append`: the authority of a server's URL
* `Url.parse?_serverAddress_append`: the URL of a path at a server
-/

namespace ReadThrough

/-- The characters spell a host, and end where the host ends: none of them begins a path or ends a
user, and a colon stands between brackets only. -/
structure Host.Spelled (cs : List Char) (h : Host) : Prop where
  /-- They are read as the host. -/
  parse : Host.parse? cs = some h
  /-- No character ends an authority or a user, or is left out of URLs. -/
  plain : ∀ c ∈ cs, c ∉ ['/', '\\', '?', '#', '@', '\t', '\n', '\r']
  /-- No colon ends the host. -/
  bounds : (':' ∉ cs ∧ '[' ∉ cs) ∨ ∃ inside, cs = '[' :: (inside ++ [']']) ∧ ']' ∉ inside

namespace Url

variable {host cs rest path : List Char} {h : Host} {port : Nat} {p : Char → Bool}

/-- The host and the port of a server, `host:port`. -/
def hostPort (host : List Char) (port : Nat) : List Char := host ++ ':' :: (toString port).toList

/-- The address of a server, `http://host:port`. -/
def serverAddress (host : List Char) (port : Nat) : String :=
  "http://" ++ String.ofList host ++ ":" ++ toString port

/-! ## Parts of a text -/

theorem cut_append (h : ∀ c ∈ cs, p c = false) (hrest : ∀ c ∈ rest.head?, p c = true) :
    cut p (cs ++ rest) = (cs, rest) := by
  have hcs : ∀ c ∈ cs, (!p c) = true := by
    intro c hc
    rw [h c hc, Bool.not_false]
  rw [cut, List.takeWhile_append_of_pos hcs, List.dropWhile_append_of_pos hcs]
  cases rest with
  | nil => simp
  | cons c rest => simp [hrest c rfl]

theorem cut_eq_self (h : ∀ c ∈ cs, p c = false) : cut p cs = (cs, []) := by
  have hcut : cut p (cs ++ []) = (cs, []) := cut_append h (by simp)
  rwa [List.append_nil] at hcut

theorem clean_eq_self (hhead : ∀ c ∈ cs.head?, 0x20 < c.toNat)
    (hlast : ∀ c ∈ cs.getLast?, 0x20 < c.toNat)
    (h : ∀ c ∈ cs, c ∉ ['\t', '\n', '\r']) : clean cs = cs := by
  show ((cs.dropWhile _).rdropWhile _).filter _ = cs
  rw [Text.dropWhile_eq_self fun c hc => decide_eq_false (Nat.not_le.mpr (hhead c hc)),
    Text.rdropWhile_eq_self fun c hc => decide_eq_false (Nat.not_le.mpr (hlast c hc)),
    List.filter_eq_self]
  intro c hc
  have hc := h c hc
  simp only [List.mem_cons, List.not_mem_nil, or_false, not_or] at hc
  simp [hc]

/-! ## Hosts and ports -/

theorem splitHost_inside (h : ']' ∉ cs) (rest : List Char) :
    splitHost true (cs ++ rest) = (cs ++ (splitHost true rest).1, (splitHost true rest).2) := by
  induction cs with
  | nil => rfl
  | cons c cs ih =>
    rw [List.mem_cons, not_or] at h
    have hc : (c == '[' || (true && c != ']')) = true := by
      simp [Ne.symm h.1]
    rw [List.cons_append, splitHost, if_neg (by simp), hc, ih h.2]
    rfl

theorem splitHost_outside (hcolon : ':' ∉ cs) (hbracket : '[' ∉ cs) (rest : List Char) :
    splitHost false (cs ++ rest) = (cs ++ (splitHost false rest).1, (splitHost false rest).2) := by
  induction cs with
  | nil => rfl
  | cons c cs ih =>
    rw [List.mem_cons, not_or] at hcolon hbracket
    have hc : (c == '[' || (false && c != ']')) = false := by
      simp [Ne.symm hbracket.1]
    rw [List.cons_append, splitHost, if_neg (by simp [Ne.symm hcolon.1]), hc,
      ih hcolon.2 hbracket.2]
    rfl

/-- A host ends at the colon behind it. -/
theorem splitHost_append (hhost : Host.Spelled host h) (rest : List Char) :
    splitHost false (host ++ ':' :: rest) = (host, ':' :: rest) := by
  have hend : splitHost false (':' :: rest) = ([], ':' :: rest) := rfl
  -- A colon in brackets does not end the host, and there are no colons but those.
  rcases hhost.bounds with ⟨hcolon, hbracket⟩ | ⟨inside, rfl, hinside⟩
  · rw [splitHost_outside hcolon hbracket, hend, List.append_nil]
  · have hopen : splitHost false ('[' :: (inside ++ ']' :: ':' :: rest)) =
        ('[' :: (splitHost true (inside ++ ']' :: ':' :: rest)).1,
          (splitHost true (inside ++ ']' :: ':' :: rest)).2) := rfl
    have hclose : splitHost true (']' :: ':' :: rest) = ([']'], ':' :: rest) := rfl
    rw [List.cons_append, List.append_assoc, List.singleton_append, hopen, splitHost_inside hinside,
      hclose]

theorem parsePort?_toString (hport : port < 65536) :
    parsePort? (':' :: (toString port).toList) = some (some port, []) := by
  have hcut : cut (!·.isDigit) (toString port).toList = ((toString port).toList, []) := by
    apply cut_eq_self
    intro c hc
    rw [Text.Numeral.isDigit_of_mem_toString hc, Bool.not_true]
  have hne : (toString port).toList.isEmpty = false :=
    List.isEmpty_eq_false_iff.mpr (Text.Numeral.toList_toString_ne_nil port)
  rw [parsePort?, hcut]
  dsimp only
  rw [hne, Text.Numeral.digits?_toString]
  simp [hport]

theorem host_ne_nil (hhost : Host.Spelled host h) : host ≠ [] := by
  rintro rfl
  have hnone : Host.parse? [] = none := by decide +kernel
  have hparse := hhost.parse
  rw [hnone] at hparse
  contradiction

/-- A port and the colon before it do not end an authority either. -/
theorem plain_hostPort (hhost : Host.Spelled host h) (port : Nat) : ∀ c ∈ hostPort host port,
      c ∉ ['/', '\\', '?', '#', '@', '\t', '\n', '\r'] := by
  intro c hc
  rcases List.mem_append.mp hc with hc | hc
  · exact hhost.plain c hc
  · rcases List.mem_cons.mp hc with rfl | hc
    · decide
    · have hdigit := Text.Numeral.isDigit_of_mem_toString hc
      intro hmem
      simp only [List.mem_cons, List.not_mem_nil, or_false] at hmem
      rcases hmem with rfl | rfl | rfl | rfl | rfl | rfl | rfl | rfl <;> contradiction

/-! ## Authorities -/

theorem splitUser_eq_none (h : '@' ∉ cs) : splitUser cs = (none, cs) := by
  have hcut : cut (· == '@') cs.reverse = (cs.reverse, []) := by
    apply cut_eq_self
    intro c hc
    rw [beq_eq_false_iff_ne]
    rintro rfl
    exact h (List.mem_reverse.mp hc)
  rw [splitUser, hcut]

/-- **The authority of a server's URL** is its host and its port, unless the port is the scheme's
own. -/
theorem Authority.parse?_append (hhost : Host.Spelled host h) (hport : port < 65536)
    (path : List Char) :
    Authority.parse? true (some 80) (hostPort host port ++ '/' :: path) =
      some (⟨none, h, if port = 80 then none else some port⟩, '/' :: path) := by
  have hplain := plain_hostPort hhost port
  have hcut : cut (fun c => c == '/' || c == '?' || c == '#' || (true && c == '\\'))
      (hostPort host port ++ '/' :: path) =
        (hostPort host port, '/' :: path) := by
    apply cut_append
    · intro c hc
      have hc := hplain c hc
      simp only [List.mem_cons, List.not_mem_nil, or_false, not_or] at hc
      simp [hc]
    · simp
  have huser : splitUser (hostPort host port) =
      (none, hostPort host port) :=
    splitUser_eq_none fun hat => hplain _ hat (by simp)
  -- An authority of nothing but an at sign names a user without a host, which this one does not.
  have hat : ¬ (hostPort host port = ['@'] ∧ '/' :: path ≠ []) := by
    rintro ⟨he, -⟩
    have hmem : '@' ∈ hostPort host port := by
      rw [he]
      exact List.mem_cons_self
    exact hplain _ hmem (by simp)
  have hsplit : splitHost false (hostPort host port) = (host, ':' :: (toString port).toList) :=
    splitHost_append hhost (toString port).toList
  have hempty : host.isEmpty = false := List.isEmpty_eq_false_iff.mpr (host_ne_nil hhost)
  rw [Authority.parse?]
  simp only [hcut]
  rw [if_neg hat]
  simp only [huser, hsplit, hempty, hhost.parse, parsePort?_toString hport]
  simp

theorem parseWeb?_append (hhost : Host.Spelled host h) (hport : port < 65536)
    (hpath : ∀ c ∈ path, c ∉ ['?', '#']) :
    parseWeb? 80 ("//".toList ++ (hostPort host port ++ '/' :: path)) =
      some (some ⟨none, h, if port = 80 then none else some port⟩,
        parsePath isSlash ('/' :: path), []) := by
  have hslashes : ("//".toList ++ (hostPort host port ++ '/' :: path)).dropWhile
      isSlash = hostPort host port ++ '/' :: path := by
    -- All slashes are skipped, however many there are, so the host must not begin with one.
    have htwo : ∀ cs, ("//".toList ++ cs).dropWhile isSlash = cs.dropWhile isSlash := fun _ => rfl
    rw [htwo]
    obtain ⟨c, host, rfl⟩ := List.exists_cons_of_ne_nil (host_ne_nil hhost)
    have hc := hhost.plain c List.mem_cons_self
    simp only [List.mem_cons, List.not_mem_nil, or_false, not_or] at hc
    apply List.dropWhile_eq_self_iff.mpr
    simp [isSlash, hostPort, hc]
  have hend : cut endsPath ('/' :: path) = ('/' :: path, []) := by
    apply cut_eq_self
    rw [List.forall_mem_cons]
    refine ⟨rfl, fun c hc => ?_⟩
    have hc := hpath c hc
    simp only [List.mem_cons, List.not_mem_nil, or_false, not_or] at hc
    simp [endsPath, hc]
  rw [parseWeb?, hslashes, Authority.parse?_append hhost hport, Option.bind_eq_bind,
    Option.bind_some]
  dsimp only
  rw [hend]
  rfl

/-! ## URLs -/

theorem clean_server (hhost : Host.Spelled host h) (port : Nat)
    (hpath : ∀ c ∈ '/' :: path, 0x20 < c.toNat) :
    clean ("http:".toList ++
      ("//".toList ++ (hostPort host port ++ '/' :: path))) =
        "http:".toList ++
          ("//".toList ++ (hostPort host port ++ '/' :: path)) := by
  apply clean_eq_self
  · simp
  · intro c hc
    apply hpath c
    apply List.mem_of_getLast?
    rwa [← List.append_assoc, ← List.append_assoc,
      List.getLast?_append_of_ne_nil _ (List.cons_ne_nil _ _)] at hc
  · rw [List.forall_mem_append, List.forall_mem_append, List.forall_mem_append]
    refine ⟨by simp, by simp, fun c hc => ?_, fun c hc => ?_⟩
    · have hc := plain_hostPort hhost port c hc
      simp only [List.mem_cons, List.not_mem_nil, or_false, not_or] at hc
      simp [hc]
    · have hc := hpath c hc
      intro hmem
      simp only [List.mem_cons, List.not_mem_nil, or_false] at hmem
      rcases hmem with rfl | rfl | rfl <;> contradiction

/-- **The URL of a path at a server**: the path is parsed on its own, and there is nothing else. -/
theorem parse?_serverAddress_append (hhost : Host.Spelled host h) (hport : port < 65536)
    {path : String} (hslash : path.toList.head? = some '/')
    (hpath : ∀ c ∈ path.toList, 0x20 < c.toNat ∧ c ∉ ['?', '#']) :
    parse? (serverAddress host port ++ path) = some {
      scheme := "http"
      authority := some ⟨none, h, if port = 80 then none else some port⟩
      path := parsePath isSlash path.toList
      query := none
      fragment := none } := by
  obtain ⟨cs, hcs⟩ := List.head?_eq_some_iff.mp hslash
  rw [hcs] at hpath
  have htext : (serverAddress host port ++ path).toList = "http:".toList ++
      ("//".toList ++ (hostPort host port ++ '/' :: cs)) := by
    simp [serverAddress, hostPort, hcs]
  have hclean := clean_server hhost port fun c hc => (hpath c hc).1
  -- The scheme, the authority and the path are taken off one after the other.
  have hscheme : ∀ cs, parseScheme? ("http:".toList ++ cs) = some ("http", cs) := fun _ => rfl
  have hhttp : webPort? "http" = some 80 := by decide +kernel
  have hweb := parseWeb?_append hhost hport fun c hc => (hpath c (List.mem_cons_of_mem _ hc)).2
  rw [parse?, htext, hclean, hscheme, Option.bind_eq_bind, Option.bind_some]
  dsimp only
  rw [hhttp]
  dsimp only
  rw [hweb, Option.bind_eq_bind, Option.bind_some, hcs]
  rfl

end Url

end ReadThrough

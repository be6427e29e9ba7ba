import ReadThrough.Config
import ReadThrough.Proofs.Peer.Selection

/-!
# Whether a node recognises itself among its peers

A node is told its own address and the addresses of its peers in different variables, and it
compares them to see which keys are its own. White space around a peer in the list does not count,
and neither do slashes at the end of an address. White space around the node's own address does
count: then the node takes its own entry in the list for another node, and asks itself.

## Main definitions

* `bareAddress s`: an address without white space around it and slashes behind it
* `Pool.Recognises q a`: a pool takes the keys at an address for its node's own
* `Config.pool c`: the pool of a configured node
* `Config.Lists var entry`: an entry in the list of peers

## Main results

* `normalizeAddress_trim_iff`: an address with white space around it is another address
* `Pool.Selects.recognises_iff`: a pool recognises its node's address only
* `Config.recognises_entry_iff`: when a configured node recognises its own entry
-/

namespace ReadThrough

variable {s a : String}

/-! ## Addresses with white space around them -/

/-- An address without white space around it, and then without trailing slashes. -/
def bareAddress (s : String) : String := normalizeAddress (Text.trim s)

theorem toList_bareAddress (s : String) :
    (bareAddress s).toList = (Text.trimChars s.toList).rdropWhile (· == '/') := by
  rw [bareAddress, toList_normalizeAddress, Text.trim, String.toList_ofList]

theorem beq_slash_of_isBlank {c : Char} (h : Text.isBlank c = true) : (c == '/') = false := by
  apply beq_eq_false_iff_ne.mpr
  rintro rfl
  revert h
  decide

theorem isBlank_of_isDigit {c : Char} (h : c.isDigit = true) : Text.isBlank c = false := by
  rw [Char.isDigit_iff_toNat] at h
  change 48 ≤ c.toNat ∧ c.toNat ≤ 57 at h
  simp [Text.isBlank, Text.blankRanges]
  omega

section Trimming

variable {cs : List Char} {c : Char}
  (h : cs.rdropWhile (· == '/') = (Text.trimChars cs).rdropWhile (· == '/'))
include h

/-- White space in front would stay in front of the address, and after trimming there is none. -/
theorem not_isBlank_of_head? : ∀ c ∈ cs.head?, Text.isBlank c = false := by
  intro c hc
  by_contra hblank
  rw [Bool.not_eq_false] at hblank
  have hfront : (cs.rdropWhile (· == '/')).head? = some c :=
    Text.head?_rdropWhile hc (beq_slash_of_isBlank hblank)
  rw [h] at hfront
  rw [Text.head?_trimChars c (Text.head?_of_rdropWhile hfront)] at hblank
  cases hblank

/-- White space at the back keeps all slashes, so that trimming cannot have removed anything. -/
theorem trimChars_eq_of_getLast? (hc : c ∈ cs.getLast?) (hblank : Text.isBlank c = true) :
    Text.trimChars cs = cs := by
  have hself : cs.rdropWhile (· == '/') = cs := by
    apply Text.rdropWhile_eq_self
    intro d hd
    rw [hc] at hd
    cases hd
    exact beq_slash_of_isBlank hblank
  apply Text.trimChars_sublist.eq_of_length_le
  calc cs.length = ((Text.trimChars cs).rdropWhile (· == '/')).length := by rw [← h, hself]
    _ ≤ (Text.trimChars cs).length := (List.rdropWhile_prefix _ _).length_le

end Trimming

/-- **An address with white space around it is another address.** Removing the white space makes no
difference to the address only if there is none. -/
theorem normalizeAddress_trim_iff : normalizeAddress s = bareAddress s ↔ Text.trim s = s := by
  rw [← String.toList_inj, ← String.toList_inj, toList_normalizeAddress, toList_bareAddress,
    Text.trim, String.toList_ofList]
  constructor
  · intro h
    by_cases hlast : ∀ c ∈ s.toList.getLast?, Text.isBlank c = false
    · exact Text.trimChars_eq_self (not_isBlank_of_head? h) hlast
    · push Not at hlast
      obtain ⟨c, hc, hblank⟩ := hlast
      exact trimChars_eq_of_getLast? h hc (Bool.not_eq_false _ ▸ hblank)
  · intro h
    rw [h]

/-! ## Pools -/

namespace Pool

variable {q : Pool} {options : Options} {own : String} {nodes : List String}

/-- A pool takes the keys at an address for its node's own: it asks the client there for no key, and
nobody for the keys that belong there. -/
def Recognises (q : Pool) (a : String) : Prop :=
  ∀ key, (∀ base, q.pick? key ≠ some ⟨a, base⟩) ∧
    (q.ring.owner? key = some a → q.pick? key = none)

/-- A pool recognises the address of its node, and addresses to which no key belongs. -/
theorem Selects.recognises_iff (h : Selects own options nodes q) :
    q.Recognises a ↔ own = a ∨ ∀ key, q.ring.owner? key ≠ some a := by
  constructor
  · intro hrec
    by_contra hnot
    push Not at hnot
    obtain ⟨hown, key, howner⟩ := hnot
    have hpick := (h.pick?_eq_some key ⟨a, options.basePath⟩).mpr ⟨howner, hown.symm, rfl⟩
    exact (hrec key).1 _ hpick
  · intro hor key
    have hown : q.ring.owner? key = some a → own = a := fun howner =>
      hor.resolve_right fun hno => hno key howner
    refine ⟨fun base hpick => ?_, fun howner => ?_⟩
    · obtain ⟨howner, hne, -⟩ := (h.pick?_eq_some key _).mp hpick
      exact hne (hown howner).symm
    · rw [h.pick?_eq_none, hown howner]
      exact .inr howner

end Pool

/-! ## Configurations -/

namespace Config

variable {c : Config} {var : String → Option String} {q : Pool} {list entry : String}

/-- The pool of a configured node. -/
def pool (c : Config) : Except Fault Pool :=
  (Pool.create c.selfAddr c.poolOptions).map (·.set c.peers)

theorem selects_of_pool (h : c.pool = .ok q) : Pool.Selects (normalizeAddress c.selfAddr)
    c.poolOptions (c.peers.map normalizeAddress) q := by
  cases hcreate : Pool.create c.selfAddr c.poolOptions with
  | error fault =>
    rw [pool, hcreate] at h
    cases h
  | ok p =>
    rw [pool, hcreate] at h
    obtain rfl := Except.ok.inj h
    have hselects := Pool.selects_set p c.peers
    obtain ⟨-, hp⟩ := Pool.create_eq_ok_iff.mp hcreate
    rw [hp] at hselects ⊢
    exact hselects

/-- A configuration with a base path has a pool. -/
theorem exists_pool (h : Pool.isBasePath c.poolOptions.basePath) : ∃ q, c.pool = .ok q := by
  rw [pool, Pool.create_of_isBasePath h]
  exact ⟨_, rfl⟩

/-- What stands between the commas of a list of peers. -/
def entries (list : String) : List String := (list.toList.splitOn ',').map String.ofList

/-- The addresses in a list are its entries without white space around them, where that leaves
anything. -/
theorem mem_addresses :
    a ∈ addresses list ↔ a ≠ "" ∧ ∃ entry ∈ entries list, Text.trim entry = a := by
  -- An entry that is left empty is dropped, so no address is the empty text.
  have hsome : ∀ cs : List Char, (if cs.isEmpty then none else some (String.ofList cs)) = some a ↔
      a ≠ "" ∧ String.ofList cs = a := by
    intro cs
    cases cs with
    | nil => simp [eq_comm]
    | cons c cs =>
      constructor
      · rintro h
        cases h
        simp
      · rintro ⟨-, rfl⟩
        rfl
  simp only [addresses, entries, List.mem_filterMap, hsome, List.mem_map, exists_exists_and_eq_and,
    Text.trim, String.toList_ofList]
  tauto

/-- `entry` is an entry in the list of peers. -/
def Lists (var : String → Option String) (entry : String) : Prop :=
  ∃ list, var "PEERS" = some list ∧ entry ∈ entries list

theorem mem_listed : a ∈ ((var "PEERS").map addresses).getD [] ↔
    a ≠ "" ∧ ∃ entry, Lists var entry ∧ Text.trim entry = a := by
  cases hlist : var "PEERS" with
  | none => simp [Lists, hlist]
  | some list => simp [Lists, hlist, mem_addresses]

theorem peers_ofVars : (ofVars var).peers =
    if (((var "PEERS").map addresses).getD []).isEmpty then [(ofVars var).selfAddr]
    else ((var "PEERS").map addresses).getD [] := rfl

/-- The peers of a configured node are the addresses in the list. -/
theorem trim_mem_peers (h : Lists var entry) (hne : Text.trim entry ≠ "") :
    Text.trim entry ∈ (ofVars var).peers := by
  have hmem := mem_listed.mpr ⟨hne, entry, h, rfl⟩
  rw [peers_ofVars, if_neg]
  · exact hmem
  · intro hempty
    rw [List.isEmpty_iff.mp hempty] at hmem
    cases hmem

/-- Without addresses in the list, a configured node is its only peer. -/
theorem peers_of_blank (h : ∀ entry, Lists var entry → Text.trim entry = "") :
    (ofVars var).peers = [(ofVars var).selfAddr] := by
  rw [peers_ofVars, if_pos]
  rw [List.isEmpty_iff, List.eq_nil_iff_forall_not_mem]
  intro a ha
  obtain ⟨hne, entry, hentry, rfl⟩ := mem_listed.mp ha
  exact hne (h entry hentry)

/-- A node that is not told its address makes one up, without white space around it. -/
theorem trim_selfAddr_of_none (h : var "SELF_ADDR" = none) :
    Text.trim (ofVars var).selfAddr = (ofVars var).selfAddr := by
  have hself : (ofVars var).selfAddr = "http://localhost:" ++ toString (ofVars var).port := by
    show (var "SELF_ADDR").getD _ = _
    rw [h]
    rfl
  rw [hself, Text.trim]
  -- It begins with a letter, and ends with a digit of the port.
  generalize (ofVars var).port = port
  apply String.toList_injective
  rw [String.toList_ofList]
  apply Text.trimChars_eq_self
  · rw [String.toList_append]
    simp
    decide
  · intro c hc
    rw [String.toList_append,
      List.getLast?_append_of_ne_nil _ (Text.Numeral.toList_toString_ne_nil port)] at hc
    exact isBlank_of_isDigit (Text.Numeral.isDigit_of_mem_toString (List.mem_of_getLast? hc))

/-- **When a configured node recognises its own entry** in the list of peers: if there is no white
space around the address it was told, or if no key belongs to the entry anyway. -/
theorem recognises_entry_iff (h : (ofVars var).pool = .ok q) :
    (∀ entry, Lists var entry → Text.trim entry ≠ "" → bareAddress entry ∈ q.peers) ∧
      (∀ entry, Lists var entry → bareAddress entry = bareAddress (ofVars var).selfAddr →
        (q.Recognises (bareAddress entry) ↔
          Text.trim (ofVars var).selfAddr = (ofVars var).selfAddr ∨
            ∀ key, q.ring.owner? key ≠ some (bareAddress entry))) ∧
      (var "SELF_ADDR" = none → Text.trim (ofVars var).selfAddr = (ofVars var).selfAddr) ∧
      ((∀ entry, Lists var entry → Text.trim entry = "") → ∀ key, q.pick? key = none) := by
  have hselects := selects_of_pool h
  refine ⟨?_, ?_, trim_selfAddr_of_none, ?_⟩
  · intro entry hentry hne
    rw [hselects.mem_peers]
    exact List.mem_map_of_mem (trim_mem_peers hentry hne)
  · intro entry _ hsame
    rw [hselects.recognises_iff, hsame, normalizeAddress_trim_iff]
  · -- The node is the only one on its ring.
    intro hblank key
    rw [Option.eq_none_iff_forall_ne_some]
    intro client hpick
    obtain ⟨howner, hne, -⟩ := (hselects.pick?_eq_some key client).mp hpick
    have hmem := hselects.placed.mem_of_owner? howner
    rw [peers_of_blank hblank] at hmem
    exact hne (List.mem_singleton.mp hmem)

/-- Variables that tell a node its address and its peers. -/
def addressVars (self peers name : String) : Option String :=
  if name = "SELF_ADDR" then some self else if name = "PEERS" then some peers else none

/-- White space around an entry and a slash behind the node's own address do not keep the node from
recognising itself. -/
theorem recognises_entry_slash :
    ∃ q, (ofVars (addressVars "http://a:8001/" "http://b:8002, http://a:8001 ")).pool = .ok q ∧
      "http://a:8001" ∈ q.peers ∧ q.Recognises "http://a:8001" := by
  let var := addressVars "http://a:8001/" "http://b:8002, http://a:8001 "
  obtain ⟨q, hq⟩ := exists_pool (c := .ofVars var) (by decide)
  have hentry : Lists var " http://a:8001 " := ⟨_, rfl, by decide +kernel⟩
  have hbare : bareAddress " http://a:8001 " = "http://a:8001" := by decide +kernel
  obtain ⟨hpeers, hrec, -, -⟩ := recognises_entry_iff hq
  have hpeers := hpeers _ hentry (by decide +kernel)
  have hrec := (hrec _ hentry (by decide +kernel)).mpr (.inl (by decide +kernel))
  rw [hbare] at hpeers hrec
  exact ⟨q, hq, hpeers, hrec⟩

/-- A node that was told its address with a blank behind it does not recognise its own entry: it is
on its own list of peers, and asks itself for every key. -/
theorem not_recognises_entry :
    ∃ q, (ofVars (addressVars "http://a:8001 " "http://a:8001")).pool = .ok q ∧
      Lists (addressVars "http://a:8001 " "http://a:8001") "http://a:8001" ∧
      bareAddress "http://a:8001" = bareAddress "http://a:8001 " ∧
      ∀ key, q.pick? key = some ⟨"http://a:8001", PeerPath.defaultBase⟩ := by
  let var := addressVars "http://a:8001 " "http://a:8001"
  obtain ⟨q, hq⟩ := exists_pool (c := .ofVars var) (by decide)
  refine ⟨q, hq, ⟨_, rfl, by decide +kernel⟩, by decide +kernel, fun key => ?_⟩
  have hselects := selects_of_pool hq
  have hnodes : (ofVars var).peers.map normalizeAddress = ["http://a:8001"] := by decide +kernel
  have hself : normalizeAddress (ofVars var).selfAddr = "http://a:8001 " := by decide +kernel
  rw [hnodes, hself] at hselects
  -- The entry is the only node on the ring, and to the pool it is not its own.
  obtain ⟨a, howner⟩ := hselects.placed.exists_owner? (by decide) (List.mem_singleton_self _) key
  obtain rfl := List.mem_singleton.mp (hselects.placed.mem_of_owner? howner)
  exact (hselects.pick?_eq_some key _).mpr ⟨howner, by simp, rfl⟩

end Config

end ReadThrough

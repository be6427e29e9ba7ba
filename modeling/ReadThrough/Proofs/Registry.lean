import ReadThrough.Proofs.Group.Lookup
import ReadThrough.Registry

/-!
# Registries under lookups

A lookup changes one group of a registry, and so does counting a request. The two can be done in
either order.

## Main results

* `Registry.find?_setGroup`, `Registry.find?_countRequest`: what setting a group changes, and what
  counting a request does
* `Registry.get_countRequest`: a request can be counted before the lookup or after it
-/

namespace ReadThrough

namespace Registry

variable {r : Registry} {g g' : Group} {m : Member} {name key : String} {outcome : Option Outcome}
  {sides : List Side}

theorem name_of_find? (h : r.find? name = some m) : m.group.name = name :=
  eq_of_beq (List.find?_some (p := fun m : Member => m.group.name == name) h)

theorem find?_setGroup : (r.setGroup g).find? name =
    if name = g.name then (r.find? name).map ({ · with group := g }) else r.find? name := by
  -- The group that is set has the name of the one it replaces, so the same member is found.
  have hname : ((·.group.name == name) ∘ fun m : Member =>
      if m.group.name = g.name then { m with group := g } else m) = (·.group.name == name) := by
    funext m
    show ((if m.group.name = g.name then { m with group := g } else m).group.name == name) = _
    split
    · rename_i h
      rw [h]
    · rfl
  show (r.members.map _).find? _ = _
  rw [List.find?_map, hname]
  show (r.find? name).map _ = _
  cases hm : r.find? name with
  | none => simp
  | some m =>
    rw [Option.map_some, name_of_find? hm]
    split
    · rfl
    · rfl

/-- Of two states of a group the later one counts. -/
theorem setGroup_setGroup (h : g.name = g'.name) : (r.setGroup g).setGroup g' = r.setGroup g' := by
  unfold setGroup
  dsimp only
  rw [List.map_map]
  congr 1
  apply List.map_congr_left
  intro m _
  dsimp only [Function.comp]
  by_cases hm : m.group.name = g.name
  · simp only [if_pos hm, if_pos h, if_pos (hm.trans h)]
  · simp only [if_neg hm]

theorem countRequest_of_find? (h : r.find? name = some m) :
    r.countRequest name = r.setGroup (m.group.record .serverRequests) := by
  rw [countRequest, h]

/-- Counting a request changes a count of one group, and nothing else. -/
theorem find?_countRequest (r : Registry) (group name : String) :
    (r.countRequest group).find? name = (r.find? name).map fun m =>
      if name = group then { m with group := m.group.record .serverRequests } else m := by
  cases h : r.find? group with
  | none =>
    have hcount : r.countRequest group = r := by rw [countRequest, h]
    rw [hcount]
    by_cases hname : name = group
    · rw [hname, h]
      rfl
    · simp [hname]
  | some m =>
    have hgroup : (m.group.record .serverRequests).name = group := name_of_find? h
    rw [countRequest_of_find? h, find?_setGroup, hgroup]
    by_cases hname : name = group
    · rw [if_pos hname, hname, h]
      simp
    · simp [hname]

theorem calls_countRequest (r : Registry) (group : String) :
    (r.countRequest group).calls = r.calls := by
  rw [countRequest]
  split
  · rfl
  · rfl

/-- Nor does any group come or go. -/
theorem names_countRequest (r : Registry) (group : String) :
    (r.countRequest group).members.map (·.group.name) = r.members.map (·.group.name) := by
  cases h : r.find? group with
  | none => rw [countRequest, h]
  | some m =>
    have hgroup : (m.group.record .serverRequests).name = group := name_of_find? h
    rw [countRequest_of_find? h]
    show (r.members.map _).map _ = _
    rw [List.map_map]
    apply List.map_congr_left
    intro m' _
    dsimp only [Function.comp]
    split
    · next heq => exact heq.symm
    · rfl

theorem get_of_find? (h : r.find? name = some m)
    (hget : m.group.get m.around key = (g, outcome, sides)) : r.get name key =
    (⟨(r.setGroup g).members, r.calls ++ sides.map fun side => ⟨name, side, key⟩⟩, outcome) := by
  rw [get, h]
  dsimp only
  rw [hget]
  rfl

theorem get_of_unknown (h : r.find? name = none) : r.get name key = (r, none) := by
  rw [get, h]

/-- **A request can be counted before the lookup or after it.** -/
theorem get_countRequest (r : Registry) (name key : String) :
    (r.countRequest name).get name key = Prod.map (·.countRequest name) id (r.get name key) := by
  cases h : r.find? name with
  | none =>
    have hcount : r.countRequest name = r := by rw [countRequest, h]
    rw [hcount, get_of_unknown h]
    exact Prod.ext hcount.symm rfl
  | some m =>
    rcases hget : m.group.get m.around key with ⟨g, outcome, sides⟩
    have hname : m.group.name = name := name_of_find? h
    have hname' : g.name = name := by
      have hsetup := Group.setup_get m.around m.group key
      rw [hget] at hsetup
      exact (Group.name_of_setup hsetup).trans hname
    -- The group is found again, once its request is counted and once it has been looked into.
    have hcounted : (r.countRequest name).find? name =
        some { m with group := m.group.record .serverRequests } := by
      rw [countRequest_of_find? h, find?_setGroup, h]
      exact if_pos hname.symm
    have hlooked : (r.get name key).1.find? name = some { m with group := g } := by
      rw [get_of_find? h hget]
      show (r.setGroup g).find? name = _
      rw [find?_setGroup, h]
      exact if_pos hname'.symm
    have hget' : (m.group.record .serverRequests).get m.around key =
        (g.record .serverRequests, outcome, sides) := by
      rw [Group.get_record, hget]
      rfl
    have hset : (r.setGroup (m.group.record .serverRequests)).setGroup (g.record .serverRequests) =
        (r.setGroup g).setGroup (g.record .serverRequests) := by
      rw [setGroup_setGroup, setGroup_setGroup]
      · rfl
      · exact hname.trans hname'.symm
    rw [get_of_find? hcounted hget', countRequest_of_find? h]
    refine Prod.ext ?_ ?_
    · show _ = (r.get name key).1.countRequest name
      rw [countRequest_of_find? hlooked, get_of_find? h hget, hset]
      rfl
    · rw [get_of_find? h hget]
      rfl

end Registry

end ReadThrough

import Turnstile.Proofs.Role.Graph

/-! The searches in a role graph end, whatever cycles the graph has. On the way up a role that has been passed is
not passed again; on the way down a role that has been visited is not visited again. In either case the roles that
are left get fewer from call to call. -/
namespace Turnstile.RoleGraph
variable {g : RoleGraph} {visited visited' : NameSet} {role r : String}

/-- The number of roles that have not been visited. -/
def unvisited (g : RoleGraph) (visited : NameSet) : Nat := (g.nodes.filter fun r _ => !visited.contains r).size

private theorem filter_visited (h : ∀ r ∈ visited, r ∈ visited') :
    (g.nodes.filter fun r _ => !visited'.contains r) =
      (g.nodes.filter fun r _ => !visited.contains r).filter fun r _ => !visited'.contains r := by
  apply Dict.ext_get?
  intro r
  rw [Dict.get?_filter, Dict.get?_filter, Dict.get?_filter, Option.filter_filter]
  refine congrArg (Option.filter · _) (funext fun _ => ?_)
  have hr := h r
  rw [Bool.eq_iff_iff, Bool.and_eq_true, Bool.not_eq_true', Bool.not_eq_true', Dict.contains_eq_false_iff,
    Dict.contains_eq_false_iff]
  tauto

theorem unvisited_le (h : ∀ r ∈ visited, r ∈ visited') : g.unvisited visited' ≤ g.unvisited visited := by
  rw [unvisited, filter_visited h]
  exact Dict.size_filter_le ..

theorem unvisited_add_lt (hr : r ∈ g.nodes) (hv : r ∉ visited) :
    g.unvisited (visited.add r) < g.unvisited visited := by
  have hgrows : ∀ a ∈ visited, a ∈ visited.add r := fun a ha => NameSet.mem_add.mpr (.inr ha)
  obtain ⟨n, hn⟩ := Dict.mem_iff.mp hr
  rw [unvisited, filter_visited hgrows]
  apply Dict.size_filter_lt (k := r)
  · exact Dict.mem_filter.mpr ⟨n, hn, by simpa using hv⟩
  · intro hm
    obtain ⟨_, -, hm⟩ := Dict.mem_filter.mp hm
    simp at hm

theorem unvisited_le_size : g.unvisited visited ≤ g.size := Dict.size_filter_le ..

section Upwards
variable {denied path : NameSet}

/-- Whether the role is denied or missing, or so is some role on each way up from it. A way that comes back to a
role that it has passed leads to no principal. -/
def deniedUpwards (g : RoleGraph) (denied path : NameSet) (role : String) : Bool :=
  if denied.contains role then true
  else
    match hn : g.node? role with
    | none => true
    | some n =>
      if !n.parentPrincipals.isEmpty then false
      else if hp : path.contains role then true
      else
        have := unvisited_add_lt (Dict.mem_of_get? hn) hp
        n.parentRoles.keys.all fun parent => deniedUpwards g denied (path.add role) parent
termination_by g.unvisited path

theorem deniedUpwards_eq_false_iff : g.deniedUpwards denied path role = false ↔
    role ∈ g.nodes ∧ role ∉ denied ∧ ((∃ q, q ∈ (g.edges role).parentPrincipals) ∨
      role ∉ path ∧ ∃ p ∈ (g.edges role).parentRoles, g.deniedUpwards denied (path.add role) p = false) := by
  rw [deniedUpwards]
  split
  · next hd => simp only [show role ∈ denied from hd, not_true_eq_false, false_and, and_false, Bool.true_eq_false]
  · next hd =>
    have hd : role ∉ denied := hd
    split
    · next hn =>
      have hn : role ∉ g.nodes := Dict.get?_eq_none_iff.mp hn
      simp only [hn, false_and, Bool.true_eq_false]
    · next n hn =>
      rw [edges_of_node? hn]
      simp only [Dict.mem_of_get? hn, hd, not_false_eq_true, true_and]
      split
      · next hq =>
        rw [Bool.not_eq_true', Dict.isEmpty_eq_false_iff] at hq
        simp only [hq, true_or]
      · next hq =>
        rw [Bool.not_eq_true', Dict.isEmpty_eq_false_iff] at hq
        simp only [hq, false_or]
        split
        · next hp => simp only [show role ∈ path from hp, not_true_eq_false, false_and, Bool.true_eq_false]
        · next hp =>
          simp only [show role ∉ path from hp, not_false_eq_true, true_and, List.all_eq_false, Dict.mem_keys,
            Bool.not_eq_true]

/-- A role that is found to be supported in some step has a role above it that is found in an earlier one. This way
up comes back to no role. -/
theorem deniedUpwards_of_mem_supportRounds {n : Nat} (hr : r ∈ g.supportRounds denied n)
    (hpath : ∀ x ∈ path, x ∉ g.supportRounds denied n) : g.deniedUpwards denied path r = false := by
  induction n generalizing r path with
  | zero => exact absurd hr (Dict.not_mem_empty r)
  | succ n ih =>
    by_cases hearlier : r ∈ g.supportRounds denied n
    · exact ih hearlier fun x hx hm => hpath x hx (supportRounds_le n hm)
    · have hfresh : r ∉ path := fun hm => hpath r hm hr
      rw [supportRounds_succ] at hr
      obtain ⟨hn, hd, hs⟩ := mem_supportStep.mp hr
      refine deniedUpwards_eq_false_iff.mpr ⟨hn, hd, hs.imp_right fun ⟨p, hp, hm⟩ => ⟨hfresh, p, hp, ?_⟩⟩
      apply ih hm
      intro x hx
      rcases NameSet.mem_add.mp hx with rfl | hx
      · exact hearlier
      · exact fun hm => hpath x hx (supportRounds_le n hm)

theorem supports_of_deniedUpwards {path : NameSet} {r : String} (h : g.deniedUpwards denied path r = false) :
    g.Supports (· ∈ denied) r := by
  obtain ⟨hn, hd, ⟨q, hq⟩ | ⟨hfresh, p, hp, hup⟩⟩ := deniedUpwards_eq_false_iff.mp h
  · exact .root hn hd hq
  · exact .step hn hd hp (supports_of_deniedUpwards hup)
termination_by g.unvisited path
decreasing_by exact unvisited_add_lt hn hfresh

/-- Searching up from a role comes to the same as spreading support from the principals. -/
theorem isUnsupported_eq_deniedUpwards (g : RoleGraph) (role : String) (denied : NameSet) :
    g.isUnsupported role denied = g.deniedUpwards denied .empty role := by
  rw [Bool.eq_iff_iff, ← not_iff_not, Bool.not_eq_true, Bool.not_eq_true, isUnsupported_eq_false_iff]
  constructor
  · intro h
    have hm : role ∈ g.supportRounds denied g.size := by
      rwa [← isUnsupported_eq_false_iff, isUnsupported, Bool.not_eq_false'] at h
    exact deniedUpwards_of_mem_supportRounds hm fun x hx => absurd hx (Dict.not_mem_empty x)
  · exact supports_of_deniedUpwards

end Upwards

section Downwards

/-- What the search below a role does about one of the roles that it grants. -/
private def visit (g : RoleGraph) (below : String → NameSet → List String × NameSet) (role : String)
    (acc : List String × NameSet) (child : String) : List String × NameSet :=
  match g.node? child with
  | none => acc
  | some c =>
    if !acc.2.contains child && c.parentPrincipals.isEmpty &&
        c.parentRoles.keys.all fun p => p = role || acc.1.contains p then
      (acc.1 ++ child :: (below child (acc.2.add child)).1, (below child (acc.2.add child)).2)
    else acc

private theorem deniableFrom_succ (fuel : Nat) : g.deniableFrom (fuel + 1) role visited =
    match g.node? role with
    | none => ([], visited)
    | some n => n.childRoles.keys.foldl (g.visit (g.deniableFrom fuel) role) ([], visited) := rfl

variable {below below' : String → NameSet → List String × NameSet} {acc : List String × NameSet}

private theorem visited_visit (hbelow : ∀ child visited, ∀ r ∈ visited, r ∈ (below child visited).2) (h : r ∈ acc.2)
    (child : String) : r ∈ (g.visit below role acc child).2 := by
  rw [visit]
  split
  · exact h
  · split
    · exact hbelow _ _ r (NameSet.mem_add.mpr (.inr h))
    · exact h

/-- A search comes back with all that was visited before. -/
theorem visited_deniableFrom (fuel : Nat) (h : r ∈ visited) : r ∈ (g.deniableFrom fuel role visited).2 := by
  induction fuel generalizing role visited r with
  | zero => exact h
  | succ fuel ih =>
    rw [deniableFrom_succ]
    split
    · exact h
    · refine List.foldlRecOn (motive := fun acc : List String × NameSet => r ∈ acc.2) _ _ h fun acc hr child _ => ?_
      exact visited_visit (fun _ _ _ => ih) hr child

/-- Only a role that is new is gone into. -/
private theorem visit_congr {child : String} (h : child ∈ g.nodes → child ∉ acc.2 →
    below child (acc.2.add child) = below' child (acc.2.add child)) :
    g.visit below role acc child = g.visit below' role acc child := by
  rw [visit, visit]
  cases hchild : g.node? child with
  | none => rfl
  | some c =>
    dsimp only
    split
    · next hnew =>
      rw [Bool.and_eq_true, Bool.and_eq_true, Bool.not_eq_true', Dict.contains_eq_false_iff] at hnew
      rw [h (Dict.mem_of_get? hchild) hnew.1.1]
    · rfl

private theorem foldl_visit_congr (hbelow : ∀ child visited, ∀ r ∈ visited, r ∈ (below child visited).2)
    (h : ∀ child ∈ g.nodes, ∀ visited' : NameSet, (∀ r ∈ visited, r ∈ visited') → child ∉ visited' →
      below child (visited'.add child) = below' child (visited'.add child))
    (children : List String) (hacc : ∀ r ∈ visited, r ∈ acc.2) :
    children.foldl (g.visit below role) acc = children.foldl (g.visit below' role) acc := by
  induction children generalizing acc with
  | nil => rfl
  | cons child children ih =>
    have hstep : g.visit below role acc child = g.visit below' role acc child :=
      visit_congr fun hn hnew => h child hn acc.2 hacc hnew
    rw [List.foldl_cons, List.foldl_cons, ← hstep]
    exact ih fun r hr => visited_visit hbelow (hacc r hr) child

/-- As many levels as there are roles left to visit are enough. -/
theorem deniableFrom_congr {fuel fuel' : Nat} (h : g.unvisited visited < fuel) (h' : g.unvisited visited < fuel') :
    g.deniableFrom fuel role visited = g.deniableFrom fuel' role visited := by
  induction fuel generalizing fuel' role visited with
  | zero => exact absurd h (Nat.not_lt_zero _)
  | succ fuel ih =>
    cases fuel' with
    | zero => exact absurd h' (Nat.not_lt_zero _)
    | succ fuel' =>
      rw [deniableFrom_succ, deniableFrom_succ]
      cases g.node? role with
      | none => rfl
      | some n =>
        refine foldl_visit_congr (fun _ _ _ => visited_deniableFrom fuel) (fun child hn visited' hgrows hnew => ?_) _
          fun _ hr => hr
        have hless : g.unvisited (visited'.add child) < g.unvisited visited :=
          Nat.lt_of_lt_of_le (unvisited_add_lt hn hnew) (unvisited_le hgrows)
        exact ih (Nat.lt_of_lt_of_le hless (Nat.le_of_lt_succ h)) (Nat.lt_of_lt_of_le hless (Nat.le_of_lt_succ h'))

/-- More levels than the roles that a denial may come to find nothing more. -/
theorem deniableDescendants_eq {fuel : Nat} (h : g.size < fuel) :
    (g.deniableFrom fuel role (.ofList [role])).1 = g.deniableDescendants role := by
  have hfuel : g.deniableFrom fuel role (.ofList [role]) = g.deniableFrom (g.size + 1) role (.ofList [role]) :=
    deniableFrom_congr (Nat.lt_of_le_of_lt unvisited_le_size h) (Nat.lt_succ_of_le unvisited_le_size)
  rw [hfuel]
  rfl

end Downwards
end Turnstile.RoleGraph

import Turnstile.Dict

/-! Roles and what grants and denies them. The graph may contain cycles, and edges may lead to roles
that are not in it. -/
namespace Turnstile

structure RoleNode where
  /-- Presented principals that grant the role. -/
  parentPrincipals : NameSet := .empty
  /-- Roles that grant the role. -/
  parentRoles : NameSet := .empty
  /-- Roles that the role grants. -/
  childRoles : NameSet := .empty
  /-- Roles that the role denies. -/
  deniedRoles : NameSet := .empty
  /-- Roles that deny the role. -/
  deniedByRoles : NameSet := .empty
  /-- Presented principals that deny the role. -/
  deniedByPrincipals : NameSet := .empty
deriving DecidableEq, Inhabited

namespace RoleNode

/-- Nothing grants the role any more. -/
def isOrphaned (n : RoleNode) : Bool := n.parentRoles.isEmpty && n.parentPrincipals.isEmpty

/-- Keeps the edges to some roles only. -/
def restrict (n : RoleNode) (keep : String → Bool) : RoleNode :=
  { n with
    parentRoles := n.parentRoles.filter fun r _ => keep r
    childRoles := n.childRoles.filter fun r _ => keep r
    deniedRoles := n.deniedRoles.filter fun r _ => keep r
    deniedByRoles := n.deniedByRoles.filter fun r _ => keep r }

end RoleNode

structure RoleGraph where
  nodes : Dict RoleNode := .empty
deriving DecidableEq, Inhabited

namespace RoleGraph

def node? (g : RoleGraph) (role : String) : Option RoleNode := g.nodes.get? role

def contains (g : RoleGraph) (role : String) : Bool := g.nodes.contains role

def size (g : RoleGraph) : Nat := g.nodes.size

def isEmpty (g : RoleGraph) : Bool := g.nodes.isEmpty

/-- The node is created if it is missing. -/
def update (g : RoleGraph) (role : String) (f : RoleNode → RoleNode) : RoleGraph :=
  ⟨g.nodes.update role {} f⟩

/-- Drops the roles that fail a test, with the edges to them. -/
def restrictTo (g : RoleGraph) (keep : String → Bool) : RoleGraph :=
  ⟨(g.nodes.filter fun r _ => keep r).map (·.restrict keep)⟩

/-- Drops all other roles, with the edges to them. -/
def restrict (g : RoleGraph) (keep : NameSet) : RoleGraph := g.restrictTo keep.contains

/-- The granted roles that some role denies. -/
def deniedRoles (g : RoleGraph) (granted : NameSet) : NameSet :=
  (g.nodes.filter fun r n => !n.deniedByRoles.isEmpty && granted.contains r).map fun _ => ()

/-- Adds the roles that a supported role grants, apart from the denied ones. -/
def supportStep (g : RoleGraph) (denied supported : NameSet) : NameSet :=
  (g.nodes.filter fun r n =>
    !denied.contains r &&
      (!n.parentPrincipals.isEmpty || n.parentRoles.keys.any supported.contains)).map fun _ => ()

/-- The roles that a presented principal grants through roles none of which is denied. After as
many steps as there are roles nothing is added any more. -/
def supported (g : RoleGraph) (denied : NameSet) : NameSet :=
  (List.range g.size).foldl (fun s _ => g.supportStep denied s) .empty

/-- The role is denied or missing, or so is some role on each way to it from a principal. -/
def isUnsupported (g : RoleGraph) (role : String) (denied : NameSet) : Bool :=
  !(g.supported denied).contains role

/-- Some role that denies the role is supported itself. -/
def canSafelyDeny (g : RoleGraph) (role : String) (denied : NameSet) : Bool :=
  (g.node? role).any fun n => n.deniedByRoles.keys.any fun d => !g.isUnsupported d denied

/-- Visits the roles that are granted through a role or through roles found before, and by no
principal. Each visit adds a role, so there are at most as many levels as roles. -/
def deniableFrom (g : RoleGraph) : Nat → String → NameSet → List String × NameSet
  | 0, _, visited => ([], visited)
  | fuel + 1, role, visited =>
    match g.node? role with
    | none => ([], visited)
    | some n => n.childRoles.keys.foldl (fun (found, visited) child =>
        match g.node? child with
        | none => (found, visited)
        | some c =>
          if !visited.contains child && c.parentPrincipals.isEmpty &&
              c.parentRoles.keys.all fun p => p = role || found.contains p then
            let (deeper, visited) := deniableFrom g fuel child (visited.add child)
            (found ++ child :: deeper, visited)
          else (found, visited)) ([], visited)

/-- The roles that are lost with a role. -/
def deniableDescendants (g : RoleGraph) (role : String) : List String :=
  (g.deniableFrom (g.size + 1) role (NameSet.ofList [role])).1

/-- Removes a role with the roles that are lost with it, and then the roles that nothing grants any
more, from the graph and from the granted roles. -/
def deny (g : RoleGraph) (role : String) (granted : NameSet) : RoleGraph × NameSet :=
  let deleted := NameSet.ofList (role :: g.deniableDescendants role)
  let left := g.restrictTo fun r => !deleted.contains r
  let kept := left.nodes.filter fun _ n => !n.isOrphaned
  (⟨kept⟩,
    granted.filter fun r _ => !deleted.contains r && (!left.contains r || kept.contains r))

end RoleGraph
end Turnstile

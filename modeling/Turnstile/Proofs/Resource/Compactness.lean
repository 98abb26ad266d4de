import Turnstile.Proofs.Resource.Keys

/-! The shape of a prefix tree after any history. A node is there because it holds identifiers or because keys part at
it, so a tree has at most two nodes below its root for each key. -/
namespace Turnstile.PrefixTree

namespace Node

mutual
/-- The node and all nodes below it, each with the labels that lead there. -/
def nodes : Node → List (List Char × Node)
  | mk label ids children => ([], mk label ids children) :: nodesAmong children

def nodesAmong : List Node → List (List Char × Node)
  | [] => []
  | n :: others => (nodes n).map (fun p => (n.label ++ p.1, p.2)) ++ nodesAmong others
end

/-- The node holds an identifier, or keys part at it. -/
def Earns (n : Node) : Prop := n.ids.isEmpty = false ∨ 2 ≤ n.children.length

mutual
/-- All nodes below the node earn their place. -/
def Compact : Node → Prop
  | mk _ _ children => CompactAmong children

def CompactAmong : List Node → Prop
  | [] => True
  | n :: others => n.Earns ∧ Compact n ∧ CompactAmong others
end

variable {id i : String} {n m : Node} {others ns : List Node} {key : List Char}

theorem nodes_eq (n : Node) : n.nodes = ([], n) :: nodesAmong n.children := by
  cases n
  rfl

theorem nodesAmong_cons :
    nodesAmong (n :: others) = (nodes n).map (fun p => (n.label ++ p.1, p.2)) ++ nodesAmong others := rfl

theorem compact_children : Compact n ↔ CompactAmong n.children := by
  cases n
  rfl

theorem compactAmong_cons : CompactAmong (n :: others) ↔ n.Earns ∧ Compact n ∧ CompactAmong others := Iff.rfl

theorem compactAmong_append : CompactAmong (ns ++ others) ↔ CompactAmong ns ∧ CompactAmong others := by
  induction ns with
  | nil => exact (and_iff_right trivial).symm
  | cons n ns ih => rw [List.cons_append, compactAmong_cons, compactAmong_cons, ih, and_assoc, and_assoc]

section Insert

private theorem compactAmong_split (h : Compact n) (hn : n.Earns) (shared rest : List Char) :
    (n.split shared rest id).Earns ∧ Compact (n.split shared rest id) := by
  have hmoved : Compact (mk (n.label.drop shared.length) n.ids n.children) := compact_children.mp h
  have hleaf : (leaf rest id).Earns := .inl isEmpty_add
  cases rest with
  | nil => exact ⟨.inl isEmpty_add, hn, hmoved, trivial⟩
  | cons c rest => exact ⟨.inr (Nat.le_refl 2), hn, hmoved, hleaf, trivial, trivial⟩

private theorem length_insertAmong (ns : List Node) (key : List Char) :
    ns.length ≤ (insertAmong id ns key).1.length := by
  induction ns with
  | nil => exact Nat.zero_le _
  | cons n others ih =>
    rcases insertAmong_cases id n others key with
      ⟨rest, -, hins⟩ | ⟨shared, below, rest, -, -, -, -, -, hins⟩ | ⟨-, hins⟩
    all_goals rw [hins]
    · exact Nat.le_refl _
    · exact Nat.le_refl _
    · exact Nat.succ_le_succ ih

private theorem earns_insert (h : n.Earns) (key : List Char) : (insert id n key).1.Earns := by
  obtain ⟨l, ids, children⟩ := n
  cases key with
  | nil => exact .inl isEmpty_add
  | cons c r => exact h.imp_right fun hn => hn.trans (length_insertAmong children (c :: r))

mutual
theorem compact_insert : (n : Node) → (key : List Char) → Compact n → Compact (insert id n key).1
  | mk _ _ _, [], h => h
  | mk _ _ children, c :: r, h => compactAmong_insertAmong children (c :: r) h

theorem compactAmong_insertAmong : (ns : List Node) → (key : List Char) → CompactAmong ns →
    CompactAmong (insertAmong id ns key).1
  | [], key, _ => ⟨.inl isEmpty_add, trivial, trivial⟩
  | n :: others, key, h => by
    obtain ⟨hn, hbelow, ho⟩ := h
    rcases insertAmong_cases id n others key with
      ⟨rest, -, hins⟩ | ⟨shared, below, rest, -, -, -, -, -, hins⟩ | ⟨-, hins⟩
    all_goals rw [hins]
    · exact ⟨earns_insert hn rest, compact_insert n rest hbelow, ho⟩
    · obtain ⟨hdivided, hparts⟩ := compactAmong_split hbelow hn shared rest
      exact ⟨hdivided, hparts, ho⟩
    · exact ⟨hn, hbelow, compactAmong_insertAmong others key ho⟩
end

end Insert

section Remove

/-- What a node is made into earns its place, even where the node itself does not. -/
private theorem compactAmong_compact (h : Compact n) : CompactAmong n.compact.toList := by
  have hchildren := compact_children.mp h
  rw [compact]
  split
  · next hids =>
    split
    · exact trivial
    · next child hc =>
      -- The only child earned its place below the node, and takes the place of both.
      rw [hc] at hchildren
      obtain ⟨hchild, hbelow, -⟩ := hchildren
      exact ⟨hchild, compact_children.mp hbelow, trivial⟩
    · next hnone hone =>
      refine ⟨.inr ?_, h, trivial⟩
      cases hc : n.children with
      | nil => exact absurd hc hnone
      | cons child r =>
        cases r with
        | nil => exact absurd hc (hone child)
        | cons _ _ => exact Nat.le_add_left 2 _
  · next hids => exact ⟨.inl (eq_false_of_ne_true hids), h, trivial⟩

mutual
theorem compact_remove : (n : Node) → (key : List Char) → Compact n → Compact (remove id n key).1
  | mk _ _ _, [], h => h
  | mk _ _ children, c :: r, h => compactAmong_removeAmong children (c :: r) h

theorem compactAmong_removeAmong : (ns : List Node) → (key : List Char) → CompactAmong ns →
    CompactAmong (removeAmong id ns key).1
  | [], key, _ => trivial
  | n :: others, key, h => by
    obtain ⟨hn, hbelow, ho⟩ := h
    rcases removeAmong_cases id n others key with ⟨rest, -, hrem⟩ | ⟨-, -, hrem⟩ | ⟨-, hrem⟩
    all_goals rw [hrem]
    · exact compactAmong_append.mpr ⟨compactAmong_compact (compact_remove n rest hbelow), ho⟩
    · exact ⟨hn, hbelow, ho⟩
    · exact ⟨hn, hbelow, compactAmong_removeAmong others key ho⟩
end

end Remove

section Nodes

mutual
/-- What holds of siblings and passes on to the nodes below them holds of all nodes among them. -/
theorem forall_nodes {P : Node → Prop} {Q : List Node → Prop}
    (hstep : ∀ n others, Q (n :: others) → P n ∧ Q n.children ∧ Q others) :
    (n : Node) → P n → Q n.children → ∀ p ∈ nodes n, P p.2
  | mk l ids children, hn, hchildren, p, hp => by
    rcases List.mem_cons.mp hp with rfl | hp
    · exact hn
    · exact forall_nodesAmong hstep children hchildren p hp

theorem forall_nodesAmong {P : Node → Prop} {Q : List Node → Prop}
    (hstep : ∀ n others, Q (n :: others) → P n ∧ Q n.children ∧ Q others) :
    (ns : List Node) → Q ns → ∀ p ∈ nodesAmong ns, P p.2
  | [], _, p, hp => absurd hp List.not_mem_nil
  | n :: others, h, p, hp => by
    obtain ⟨hn, hchildren, ho⟩ := hstep n others h
    rcases List.mem_append.mp hp with hp | hp
    · obtain ⟨q, hq, rfl⟩ := List.mem_map.mp hp
      exact forall_nodes hstep n hn hchildren q hq
    · exact forall_nodesAmong hstep others ho p hp
end

theorem CompactAmong.earns (h : CompactAmong ns) : ∀ p ∈ nodesAmong ns, p.2.Earns := by
  refine forall_nodesAmong (Q := CompactAmong) (fun n others h => ?_) ns h
  exact ⟨h.1, compact_children.mp h.2.1, h.2.2⟩

theorem SoundAmong.labelled (h : SoundAmong ns) : ∀ p ∈ nodesAmong ns, p.2.label ≠ [] ∧ Sound p.2 := by
  refine forall_nodesAmong (P := fun n => n.label ≠ [] ∧ Sound n) (Q := SoundAmong) (fun n others h => ?_) ns h
  exact ⟨⟨h.1, h.2.1⟩, sound_children.mp h.2.1, h.2.2.2⟩

theorem Sound.of_mem_nodes (h : Sound n) : ∀ p ∈ nodes n, Sound p.2 := by
  rw [nodes_eq]
  refine List.forall_mem_cons.mpr ⟨h, fun p hp => ?_⟩
  exact ((sound_children.mp h).labelled p hp).2

/-- Siblings start with different characters. -/
theorem SoundAmong.nodup_heads (h : SoundAmong ns) : (ns.map fun m => m.label.head?).Nodup := by
  induction ns with
  | nil => exact List.nodup_nil
  | cons n others ih =>
    obtain ⟨-, -, hhead, ho⟩ := h
    refine List.nodup_cons.mpr ⟨fun hn => ?_, ih ho⟩
    obtain ⟨m, hm, he⟩ := List.mem_map.mp hn
    exact hhead m hm he

/-- The labels that lead to a node among some siblings start as the label of one of them does. -/
private theorem exists_head_of_mem (h : SoundAmong ns) {p : List Char × Node} (hp : p ∈ nodesAmong ns) :
    ∃ m ∈ ns, p.1.head? = m.label.head? ∧ p.1 ≠ [] := by
  induction ns with
  | nil => exact absurd hp List.not_mem_nil
  | cons n others ih =>
    obtain ⟨hl, -, -, ho⟩ := h
    rcases List.mem_append.mp hp with hp | hp
    · obtain ⟨q, -, rfl⟩ := List.mem_map.mp hp
      exact ⟨n, List.mem_cons_self, head?_append hl _, List.append_ne_nil_of_left_ne_nil hl _⟩
    · obtain ⟨m, hm, he⟩ := ih ho hp
      exact ⟨m, List.mem_cons_of_mem n hm, he⟩

mutual
/-- A node holds the identifiers that are stored at the labels that lead to it. -/
theorem stores_path : (n : Node) → Sound n → ∀ p ∈ nodes n, (Stores i n p.1 ↔ i ∈ p.2.ids)
  | mk l ids children, h, p, hp => by
    rw [stores_mk_iff]
    rcases List.mem_cons.mp hp with rfl | hp
    · exact (or_iff_left (not_storesAmong_empty h)).trans (and_iff_right rfl)
    · obtain ⟨-, -, -, hne⟩ := exists_head_of_mem h hp
      rw [or_iff_right fun hs => hne hs.1]
      exact storesAmong_path children h p hp

theorem storesAmong_path : (ns : List Node) → SoundAmong ns → ∀ p ∈ nodesAmong ns,
    (StoresAmong i ns p.1 ↔ i ∈ p.2.ids)
  | [], _, p, hp => absurd hp List.not_mem_nil
  | n :: others, h, p, hp => by
    rcases List.mem_append.mp hp with hp | hp
    · obtain ⟨q, hq, rfl⟩ := List.mem_map.mp hp
      exact (storesAmong_below h).trans (stores_path n h.2.1 q hq)
    · obtain ⟨m, hm, he, -⟩ := exists_head_of_mem h.2.2.2 hp
      rw [storesAmong_cons, or_iff_right]
      · exact storesAmong_path others h.2.2.2 p hp
      · rintro ⟨rest, hpath, -⟩
        rw [hpath, head?_append h.1] at he
        exact h.2.2.1 m hm he.symm
end

mutual
/-- The keys are the labels that lead to the nodes with identifiers. -/
theorem keys_eq : (n : Node) → keys n = ((nodes n).filter fun p => !p.2.ids.isEmpty).map (·.1)
  | mk l ids children => by
    have hbelow := keysAmong_eq children
    have hids : (mk l ids children).ids = ids := rfl
    rw [keys, nodes, hbelow]
    cases h : ids.isEmpty with
    | true => rw [List.filter_cons_of_neg (by rw [hids, h]; decide), if_pos rfl, List.nil_append]
    | false => rw [List.filter_cons_of_pos (by rw [hids, h]; rfl), if_neg Bool.false_ne_true]; rfl

theorem keysAmong_eq : (ns : List Node) →
    keysAmong ns = ((nodesAmong ns).filter fun p => !p.2.ids.isEmpty).map (·.1)
  | [] => rfl
  | n :: others => by
    rw [keysAmong, keys_eq n, keysAmong_eq others, nodesAmong_cons, List.filter_append, List.map_append,
      List.filter_map, List.map_map, List.map_map]
    rfl
end

mutual
/-- A node that earns its place has less than two nodes for each set of identifiers. -/
theorem length_nodes_lt : (n : Node) → n.Earns → Compact n → (nodes n).length + 1 ≤ 2 * (all n).length
  | mk l ids children, hn, h => by
    have hbelow := length_nodesAmong_le children h
    rw [nodes, List.length_cons, length_all_mk]
    rcases hn with hids | hchildren
    · have hown : (!ids.isEmpty).toNat = 1 := congrArg (fun b => (!b).toNat) hids
      omega
    · have hparts : 2 ≤ children.length := hchildren
      omega

theorem length_nodesAmong_le : (ns : List Node) → CompactAmong ns →
    (nodesAmong ns).length + ns.length ≤ 2 * (allAmong ns).length
  | [], _ => Nat.le_refl 0
  | n :: others, h => by
    have hn := length_nodes_lt n h.1 h.2.1
    have ho := length_nodesAmong_le others h.2.2
    rw [nodesAmong_cons, List.length_append, List.length_map, List.length_cons, length_allAmong_cons]
    omega
end

end Nodes

end Node

/-- The nodes below the root, each with the labels that lead there. -/
def below (t : PrefixTree) : List (List Char × Node) := Node.nodesAmong t.root.children

/-- The root, to which no label leads, and the nodes below it. -/
def nodes (t : PrefixTree) : List (List Char × Node) := ([], t.root) :: t.below

/-- The root has no label, and all nodes below it earn their place. -/
structure Compact (t : PrefixTree) : Prop where
  rooted : t.root.label = []
  earned : t.root.Compact

variable {t : PrefixTree} {history : List Step}

theorem nodes_eq (t : PrefixTree) : t.nodes = t.root.nodes := (Node.nodes_eq t.root).symm

theorem Compact.insert (h : t.Compact) (key : List Char) (id : String) : (t.insert key id).Compact :=
  ⟨(Node.label_insert ..).trans h.rooted, Node.compact_insert t.root key h.earned⟩

theorem Compact.remove (h : t.Compact) (key : List Char) (id : String) : (t.remove key id).Compact :=
  ⟨(Node.label_remove ..).trans h.rooted, Node.compact_remove t.root key h.earned⟩

theorem compact_after (history : List Step) : (after history).Compact := by
  refine List.foldlRecOn (motive := Compact) history step ⟨rfl, trivial⟩ fun t ht s _ => ?_
  cases s with
  | insert key id => exact ht.insert key id
  | remove key id => exact ht.remove key id

/-- A compact tree has at most two nodes below the root for each key. -/
theorem Compact.length_below_le (h : t.Compact) (hs : t.Sound) :
    t.below.length + t.root.children.length ≤ 2 * t.size := by
  have hbelow := Node.length_nodesAmong_le _ (Node.compact_children.mp h.earned)
  have hsize : t.size = (!t.root.ids.isEmpty).toNat + (Node.allAmong t.root.children).length := by
    rw [hs.size]
    obtain ⟨⟨l, ids, children⟩, size⟩ := t
    exact Node.length_all_mk
  rw [below]
  omega

/-- A compact tree without keys is its root. -/
theorem Compact.eq_empty (h : t.Compact) (hs : t.Sound) (hempty : t.isEmpty = true) : t = empty := by
  have hnone := hs.isEmpty_iff.mp hempty
  have hbelow := h.length_below_le hs
  have hrooted := h.rooted
  obtain ⟨⟨l, ids, children⟩, size⟩ := t
  obtain rfl : size = 0 := of_decide_eq_true hempty
  obtain rfl : l = [] := hrooted
  obtain rfl : ids = .empty := NameSet.ext_mem fun i => iff_of_false (fun hi => hnone i [] (.inl ⟨rfl, hi⟩))
    (Dict.not_mem_empty i)
  obtain rfl : children = [] := List.length_eq_zero_iff.mp (Nat.eq_zero_of_add_eq_zero_left (Nat.le_zero.mp hbelow))
  rfl

/-- A node holds what is held under the labels that lead to it. -/
theorem ids_eq_held {p : List Char × Node} (hp : p ∈ (after history).nodes) : p.2.ids = held history p.1 := by
  rw [nodes_eq] at hp
  refine NameSet.ext_mem fun i => ?_
  rw [← stores_after]
  exact (Node.stores_path _ (sound_after history).root p hp).symm

/-- The labels that lead to the nodes with identifiers are the stored keys, each once. -/
theorem perm_stored (history : List Step) :
    (((after history).nodes.filter fun p => !p.2.ids.isEmpty).map (·.1)).Perm (stored history) := by
  rw [nodes_eq, ← Node.keys_eq]
  exact perm_keys history

/-- Below the root every node has a label and earns its place, siblings start with different characters, and the
labels that lead to a node with identifiers are a stored key, each key at one node. There are at most two nodes below
the root for each stored key, and a tree without keys is the empty root. -/
theorem shape_after (history : List Step) :
    (∀ p ∈ (after history).below, p.2.label ≠ [] ∧ (p.2.ids.isEmpty = false ∨ 2 ≤ p.2.children.length)) ∧
      (∀ p ∈ (after history).nodes, (p.2.children.map fun m => m.label.head?).Nodup) ∧
      (∀ p ∈ (after history).nodes, p.2.ids = held history p.1) ∧
      (((after history).nodes.filter fun p => !p.2.ids.isEmpty).map (·.1)).Perm (stored history) ∧
      (((after history).nodes.filter fun p => !p.2.ids.isEmpty).map (·.1)).Nodup ∧
      (after history).below.length ≤ 2 * (after history).size ∧
      ((after history).isEmpty = true ↔ after history = empty) := by
  have hsound := sound_after history
  have hcompact := compact_after history
  have hperm := perm_stored history
  refine ⟨fun p hp => ⟨?_, ?_⟩, fun p hp => ?_, fun p hp => ids_eq_held hp, hperm, ?_, ?_,
    hcompact.eq_empty hsound, fun h => h ▸ rfl⟩
  · exact ((Node.sound_children.mp hsound.root).labelled p hp).1
  · exact (Node.compact_children.mp hcompact.earned).earns p hp
  · rw [nodes_eq] at hp
    exact (Node.sound_children.mp (hsound.root.of_mem_nodes p hp)).nodup_heads
  · exact hperm.nodup_iff.mpr ((List.nodup_dedup _).filter _)
  · exact Nat.le_of_add_right_le (hcompact.length_below_le hsound)

example : (after [.insert ['a', 'b'] "p", .insert ['a', 'c'] "q", .remove ['a', 'b'] "p"]).below.map (·.2.label) =
    [['a', 'c']] := rfl

end Turnstile.PrefixTree

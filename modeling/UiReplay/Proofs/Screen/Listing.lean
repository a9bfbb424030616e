import UiReplay.CommandLine.Inspect
import UiReplay.Proofs.Selector.Search
import Mathlib.Data.List.Lex

/-!
# The order of nodes

A node has a place in its forest: which root, which child of this root, and so on.  Two nodes may be
alike in all they hold, so it is by their places that they are told apart.  Places are ordered as the
words of a dictionary: a node comes before those below it, and all of these come before its next
sibling.  A forest has just one listing of its nodes with ascending places (`Node.IsListing`).

The search lists a forest in rounds.  A round takes a node off the stack, lists it and puts its
children on (`Node.Rounds`).  What is listed and what the stack would still list make up the same
list after each round (`Node.Rounds.flatten_eq`).  Each round lists one node, so there are as many
rounds as nodes.  The tree is shown by a recursion instead, with a line for each node.

Both come to the listing by places (`Node.flatten_lists`).
-/

namespace UiReplay

namespace Node

/-! ## Places -/

/-- Which root of a forest, which child of it, and so on. -/
abbrev Place := List Nat

/-- The node at a place below a node, or the node itself. -/
def at? : Node → Place → Option Node
  | n, [] => some n
  | n, i :: rest => n.children[i]?.bind fun child => child.at? rest

/-- The node at a place of a forest. -/
def nodeAt? (tree : List Node) : Place → Option Node
  | [] => none
  | i :: rest => tree[i]?.bind fun n => n.at? rest

/-- A list holds the nodes of a forest with their places, all of them, and each once, since the
places ascend. -/
structure IsListing (tree : List Node) (listing : List (Place × Node)) : Prop where
  ascending : listing.Pairwise fun x y => x.1 < y.1
  mem_iff : ∀ p n, (p, n) ∈ listing ↔ nodeAt? tree p = some n

theorem IsListing.unique {tree : List Node} {a b : List (Place × Node)} (ha : IsListing tree a)
    (hb : IsListing tree b) : a = b := by
  have nodup {l : List (Place × Node)} (h : IsListing tree l) : l.Nodup :=
    h.ascending.imp fun lt eq => absurd (congrArg Prod.fst eq) (ne_of_lt lt)
  have perm : a.Perm b := by
    rw [List.perm_ext_iff_of_nodup (nodup ha) (nodup hb)]
    exact fun x => (ha.mem_iff x.1 x.2).trans (hb.mem_iff x.1 x.2).symm
  refine perm.eq_of_pairwise ?_ ha.ascending hb.ascending
  exact fun x y _ _ lt gt => absurd gt (lt_asymm lt)

/-! ## The listing by places -/

mutual

/-- The nodes of a tree with the places that they have below its root. -/
def located : Node → List (Place × Node)
  | ⟨index, text, className, resourceId, contentDesc, bounds, clickable, children⟩ =>
      ([], ⟨index, text, className, resourceId, contentDesc, bounds, clickable, children⟩) ::
        locatedFrom 0 children

/-- The nodes of a forest with their places, when its first root has a number. -/
def locatedFrom : Nat → List Node → List (Place × Node)
  | _, [] => []
  | i, n :: rest => n.located.map (fun x => (i :: x.1, x.2)) ++ locatedFrom (i + 1) rest

end

mutual

theorem map_snd_located : ∀ n : Node, n.located.map Prod.snd = n.preorder
  | ⟨_, _, _, _, _, _, _, children⟩ => by
      rw [located, preorder, List.map_cons, map_snd_locatedFrom 0 children]

theorem map_snd_locatedFrom : ∀ (i : Nat) (nodes : List Node),
    (locatedFrom i nodes).map Prod.snd = preorders nodes
  | _, [] => by rw [locatedFrom, preorders, List.map_nil]
  | i, n :: rest => by
      rw [locatedFrom, preorders, List.map_append, List.map_map, map_snd_locatedFrom (i + 1) rest,
        ← map_snd_located n]
      rfl

end

mutual

theorem mem_located : ∀ (n : Node) (p : Place) (m : Node),
    (p, m) ∈ n.located ↔ n.at? p = some m
  | ⟨index, text, className, resourceId, contentDesc, bounds, clickable, children⟩, p, m => by
      rw [located, List.mem_cons, mem_locatedFrom 0 children]
      cases p with
      | nil => simp [at?, eq_comm]
      | cons i rest => simp [at?, Option.bind_eq_some_iff]

theorem mem_locatedFrom : ∀ (i : Nat) (nodes : List Node) (p : Place) (m : Node),
    (p, m) ∈ locatedFrom i nodes ↔
      ∃ j rest n, p = (i + j) :: rest ∧ nodes[j]? = some n ∧ n.at? rest = some m
  | _, [], _, _ => by simp [locatedFrom]
  | i, n :: nodes, p, m => by
      rw [locatedFrom, List.mem_append, mem_locatedFrom (i + 1) nodes]
      constructor
      · rintro (first | ⟨j, rest, child, rfl, here, below⟩)
        · obtain ⟨⟨rest, _⟩, mem, same⟩ := List.mem_map.mp first
          cases same
          exact ⟨0, rest, n, rfl, rfl, (mem_located n rest _).mp mem⟩
        · exact ⟨j + 1, rest, child, by rw [Nat.add_right_comm, Nat.add_assoc], here, below⟩
      · rintro ⟨j, rest, child, rfl, here, below⟩
        cases j with
        | zero =>
            cases here
            exact .inl (List.mem_map.mpr ⟨(rest, m), (mem_located n rest m).mpr below, rfl⟩)
        | succ j =>
            exact .inr ⟨j, rest, child, by rw [Nat.add_right_comm, Nat.add_assoc], here, below⟩

end

mutual

theorem located_ascending : ∀ n : Node, n.located.Pairwise fun x y => x.1 < y.1
  | ⟨_, _, _, _, _, _, _, children⟩ => by
      rw [located, List.pairwise_cons]
      refine ⟨fun x hx => ?_, locatedFrom_ascending 0 children⟩
      obtain ⟨j, rest, -, place, -⟩ := (mem_locatedFrom 0 children x.1 x.2).mp hx
      rw [place]
      exact List.Lex.nil

theorem locatedFrom_ascending : ∀ (i : Nat) (nodes : List Node),
    (locatedFrom i nodes).Pairwise fun x y => x.1 < y.1
  | _, [] => List.Pairwise.nil
  | i, n :: nodes => by
      rw [locatedFrom, List.pairwise_append, List.pairwise_map]
      refine ⟨(located_ascending n).imp .cons, locatedFrom_ascending (i + 1) nodes, ?_⟩
      -- what is below a root comes before all roots with a greater number
      intro x hx y hy
      obtain ⟨⟨rest, _⟩, -, rfl⟩ := List.mem_map.mp hx
      obtain ⟨j, rest', -, place, -⟩ := (mem_locatedFrom (i + 1) nodes y.1 y.2).mp hy
      rw [place]
      exact .rel (by omega)

end

/-- The listing by places is one. -/
theorem isListing_locatedFrom (tree : List Node) : IsListing tree (locatedFrom 0 tree) where
  ascending := locatedFrom_ascending 0 tree
  mem_iff p n := by
    rw [mem_locatedFrom]
    cases p with
    | nil => simp [nodeAt?]
    | cons i rest => simp [nodeAt?, Option.bind_eq_some_iff]

/-! ## Lines -/

theorem length_pos_of_mem_locatedFrom {i : Nat} {nodes : List Node} {x : Place × Node}
    (h : x ∈ locatedFrom i nodes) : 0 < x.1.length := by
  obtain ⟨j, rest, -, place, -⟩ := (mem_locatedFrom i nodes x.1 x.2).mp h
  rw [place, List.length_cons]
  exact Nat.succ_pos _

mutual

theorem outline_eq_map (g : Generator) : ∀ (depth : Nat) (n : Node),
    outline g depth n = n.located.map fun x => outlineLine g (depth + x.1.length) x.2
  | depth, ⟨_, _, _, _, _, _, _, children⟩ => by
      rw [outline, located, List.map_cons, outlines_eq_map g (depth + 1) 0 children]
      refine congrArg (_ :: ·) (List.map_congr_left fun x hx => ?_)
      have below := length_pos_of_mem_locatedFrom hx
      have level : depth + 1 + (x.1.length - 1) = depth + x.1.length := by omega
      rw [level]

/-- A node is shown as many levels deep as nodes are above it. -/
theorem outlines_eq_map (g : Generator) : ∀ (depth i : Nat) (nodes : List Node),
    outlines g depth nodes =
      (locatedFrom i nodes).map fun x => outlineLine g (depth + (x.1.length - 1)) x.2
  | _, _, [] => by rw [outlines, locatedFrom, List.map_nil]
  | depth, i, n :: nodes => by
      rw [outlines, locatedFrom, List.map_append, List.map_map, outline_eq_map g depth n,
        outlines_eq_map g depth (i + 1) nodes]
      rfl

end

/-! ## Rounds -/

/-- What is listed so far, and the stack.  The top of the stack is its last node. -/
structure Listing where
  /-- What is listed. -/
  listed : List Node
  /-- What is still to be listed, each node with those below it. -/
  stack : List Node

/-- So many rounds into the listing of a forest. -/
inductive Rounds (tree : List Node) : Nat → Listing → Prop
  /-- At first the roots are stacked, the last one first. -/
  | start : Rounds tree 0 ⟨[], tree.reverse⟩
  /-- The top of the stack is listed, and its children are put on, the last one first. -/
  | round {k : Nat} {listed stack : List Node} {n : Node} :
      Rounds tree k ⟨listed, stack ++ [n]⟩ →
      Rounds tree (k + 1) ⟨listed ++ [n], stack ++ n.children.reverse⟩

variable {tree : List Node} {k : Nat} {l : Listing}

theorem length_flatten (tree : List Node) : (flatten tree).length = sizes tree := by
  induction tree using flatten.induct with
  | case1 => rw [flatten, sizes, List.length_nil]
  | case2 n stack ih =>
      rw [flatten, List.length_cons, ih, sizes_append, sizes, size_eq]
      omega

/-- Each round lists one node, and leaves together what is listed and what the stack lists. -/
theorem Rounds.flatten_eq (h : Rounds tree k l) :
    l.listed.length = k ∧ l.listed ++ flatten l.stack.reverse = flatten tree := by
  induction h with
  | start => exact ⟨rfl, by rw [List.reverse_reverse, List.nil_append]⟩
  | @round k listed stack n _ ih =>
      obtain ⟨length, same⟩ := ih
      refine ⟨by rw [List.length_append, length, List.length_singleton], ?_⟩
      rw [← same, List.reverse_append, List.reverse_reverse, List.reverse_concat, flatten,
        List.append_assoc, List.singleton_append]

theorem Rounds.sizes_eq (h : Rounds tree k l) : k + sizes l.stack.reverse = sizes tree := by
  obtain ⟨length, same⟩ := h.flatten_eq
  rw [← length_flatten, ← length_flatten, ← same, List.length_append, length]

/-- There are no more rounds than nodes. -/
theorem Rounds.le_sizes (h : Rounds tree k l) : k ≤ sizes tree :=
  h.sizes_eq ▸ Nat.le_add_right k _

/-- The list begins with what is listed after some rounds. -/
theorem Rounds.listed_eq (h : Rounds tree k l) : l.listed = (flatten tree).take k := by
  obtain ⟨length, same⟩ := h.flatten_eq
  rw [← same, ← length, List.take_left]

/-- While a node is left there is a round, since the stack holds one. -/
theorem exists_rounds (tree : List Node) : ∀ {k : Nat}, k ≤ sizes tree → ∃ l, Rounds tree k l
  | 0, _ => ⟨_, .start⟩
  | k + 1, left => by
      obtain ⟨⟨listed, stack⟩, rounds⟩ := exists_rounds tree (Nat.le_of_succ_le left)
      rcases List.eq_nil_or_concat' stack with rfl | ⟨below, n, rfl⟩
      · have nothing := rounds.sizes_eq
        rw [List.reverse_nil, sizes] at nothing
        omega
      · exact ⟨_, rounds.round⟩

theorem eq_nil_of_sizes_eq_zero {nodes : List Node} (h : sizes nodes = 0) : nodes = [] := by
  cases nodes with
  | nil => rfl
  | cons n rest =>
      rw [sizes, size_eq] at h
      omega

/-- After as many rounds as nodes the stack is empty. -/
theorem rounds_sizes (tree : List Node) : Rounds tree (sizes tree) ⟨flatten tree, []⟩ := by
  obtain ⟨⟨listed, stack⟩, rounds⟩ := exists_rounds tree (Nat.le_refl (sizes tree))
  have empty : sizes stack.reverse = 0 := Nat.left_eq_add.mp rounds.sizes_eq.symm
  obtain rfl : stack = [] := List.reverse_eq_nil_iff.mp (eq_nil_of_sizes_eq_zero empty)
  obtain rfl : listed = flatten tree := by
    have whole : listed = (flatten tree).take (sizes tree) := rounds.listed_eq
    rw [whole, ← length_flatten, List.take_length]
  exact rounds

/-! ## The listing -/

/-- A forest has one listing of its nodes by their places, and the search lists the nodes in this
order, which is that of the recursion.  It lists one node in each round, so it ends after as many
rounds as the forest has nodes, and after no other number of them.  The lines of the tree are those
of the listing, each as deep as its place. -/
theorem flatten_lists (tree : List Node) :
    flatten tree = preorders tree ∧
      (Rounds tree (sizes tree) ⟨flatten tree, []⟩ ∧
        ∀ k l, Rounds tree k l → k ≤ sizes tree ∧ l.listed = (flatten tree).take k) ∧
      ∃ listing, (∀ other, IsListing tree other ↔ other = listing) ∧
        flatten tree = listing.map Prod.snd ∧
        ∀ g, outlines g 0 tree = listing.map fun x => outlineLine g (x.1.length - 1) x.2 := by
  refine ⟨flatten_eq_preorders tree, ⟨rounds_sizes tree, fun _ _ h => ⟨h.le_sizes, h.listed_eq⟩⟩,
    locatedFrom 0 tree, fun other => ⟨fun h => h.unique (isListing_locatedFrom tree), ?_⟩, ?_, ?_⟩
  · rintro rfl
    exact isListing_locatedFrom tree
  · rw [flatten_eq_preorders, map_snd_locatedFrom]
  · intro g
    simpa only [Nat.zero_add] using outlines_eq_map g 0 0 tree

end Node

end UiReplay

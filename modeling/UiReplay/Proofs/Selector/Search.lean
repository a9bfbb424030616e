import UiReplay.Selector.Matcher
import Mathlib.Data.List.Basic

/-!
# Finding nodes

The stack lists a forest in pre-order (`Node.flatten_eq_preorders`).  The search for a
selector finds the first node of the list that satisfies it: a path or a rectangle is
read once, and testing every node of the list with the whole selector would give the
same (`Matcher.firstMatch_eq`).  A selector that cannot be read is satisfied by no node,
so the search that gives up on it at once misses nothing.

The selectors of a chain are tried in order, each on all nodes.  So the first selector
that any node satisfies decides, and the answer is the first node that satisfies it
(`Matcher.find_first`).  In particular a chain whose first selector is satisfied by a node
of the forest finds this node or one before it (`Matcher.find_of_satisfies_primary`).
-/

namespace UiReplay

/-! ## The order of the nodes -/

namespace Node

theorem preorders_append : ∀ a b : List Node, preorders (a ++ b) = preorders a ++ preorders b
  | [], b => by simp [preorders]
  | n :: a, b => by simp [preorders, preorders_append a b]

/-- The stack lists a forest in pre-order. -/
theorem flatten_eq_preorders (tree : List Node) : flatten tree = preorders tree := by
  induction tree using flatten.induct with
  | case1 => rw [flatten, preorders]
  | case2 n stack ih =>
      rw [flatten, ih, preorders_append, preorders, preorder_eq, List.cons_append]

end Node

namespace Matcher

variable {m : Matcher} {s : Selector} {nodes : List Node}

/-! ## The first node with a property -/

theorem firstFrom_eq_none_iff {p : Node → Bool} {i : Nat} :
    firstFrom p i nodes = none ↔ ∀ n ∈ nodes, p n = false := by
  induction nodes generalizing i with
  | nil => simp [firstFrom]
  | cons n nodes ih =>
      rw [firstFrom, List.forall_mem_cons]
      cases p n with
      | true => simp
      | false => simp [ih]

/-- The node that is found has the property, and no node before it has. -/
theorem firstFrom_eq_some_iff {p : Node → Bool} {i k : Nat} {n : Node} :
    firstFrom p i nodes = some (k, n) ↔
      ∃ before behind, nodes = before ++ n :: behind ∧ k = i + before.length ∧ p n = true ∧
        ∀ n' ∈ before, p n' = false := by
  induction nodes generalizing i with
  | nil => simp [firstFrom]
  | cons head nodes ih =>
      rw [firstFrom]
      cases hp : p head with
      | true =>
          rw [if_pos rfl]
          constructor
          · intro h
            cases h
            exact ⟨[], nodes, rfl, rfl, hp, by simp⟩
          · rintro ⟨before, behind, he, rfl, -, hbefore⟩
            cases before with
            | nil =>
                cases he
                rfl
            | cons c before =>
                obtain ⟨rfl, -⟩ := List.cons.inj he
                rw [hbefore head (List.mem_cons_self ..)] at hp
                cases hp
      | false =>
          rw [if_neg Bool.false_ne_true, ih]
          constructor
          · rintro ⟨before, behind, rfl, rfl, hn, hbefore⟩
            refine ⟨head :: before, behind, rfl, ?_, hn, ?_⟩
            · rw [List.length_cons]
              omega
            · exact List.forall_mem_cons.mpr ⟨hp, hbefore⟩
          · rintro ⟨before, behind, he, rfl, hn, hbefore⟩
            cases before with
            | nil =>
                obtain ⟨rfl, -⟩ := List.cons.inj he
                rw [hp] at hn
                cases hn
            | cons c before =>
                obtain ⟨rfl, rfl⟩ := List.cons.inj he
                refine ⟨before, behind, rfl, ?_, hn, (List.forall_mem_cons.mp hbefore).2⟩
                rw [List.length_cons]
                omega

/-! ## One selector -/

/-- The search tests every node with the whole selector. -/
theorem firstMatch_eq (m : Matcher) (nodes : List Node) (s : Selector) :
    m.firstMatch nodes s = firstFrom (fun n => m.satisfies n s) 0 nodes := by
  have nothing : firstFrom (fun _ => false) 0 nodes = none :=
    firstFrom_eq_none_iff.mpr fun _ _ => rfl
  cases hk : s.kind with
  | resourceId => simp only [firstMatch, hk]
  | contentDesc => simp only [firstMatch, hk]
  | text => simp only [firstMatch, hk]
  | xpath =>
      simp only [firstMatch, satisfies, hk]
      cases PathQuery.parse? s.value with
      | none => exact nothing.symm
      | some q => rfl
  | bounds =>
      simp only [firstMatch, satisfies, hk]
      cases Rect.parse? s.value with
      | none => exact nothing.symm
      | some target => rfl

/-- No node of the list satisfies the selector. -/
def Misses (m : Matcher) (nodes : List Node) (s : Selector) : Prop :=
  ∀ n ∈ nodes, m.satisfies n s = false

/-- The node at a place of the list satisfies the selector, and no node before it does. -/
structure IsFirst (m : Matcher) (nodes : List Node) (s : Selector) (k : Nat) (n : Node) :
    Prop where
  here : nodes[k]? = some n
  satisfies : m.satisfies n s = true
  before : ∀ j < k, ∀ n', nodes[j]? = some n' → m.satisfies n' s = false

theorem IsFirst.not_misses {k : Nat} {n : Node} (h : m.IsFirst nodes s k n) :
    ¬ m.Misses nodes s := by
  intro misses
  have := misses n (List.mem_of_getElem? h.here)
  rw [h.satisfies] at this
  cases this

theorem firstMatch_eq_none_iff : m.firstMatch nodes s = none ↔ m.Misses nodes s := by
  rw [firstMatch_eq]
  exact firstFrom_eq_none_iff

theorem firstMatch_eq_some_iff {k : Nat} {n : Node} :
    m.firstMatch nodes s = some (k, n) ↔ m.IsFirst nodes s k n := by
  rw [firstMatch_eq, firstFrom_eq_some_iff]
  constructor
  · rintro ⟨before, behind, rfl, rfl, hn, hbefore⟩
    rw [Nat.zero_add]
    refine ⟨by simp, hn, fun j lt n' hn' => ?_⟩
    rw [List.getElem?_append_left lt] at hn'
    exact hbefore n' (List.mem_of_getElem? hn')
  · intro h
    obtain ⟨lt, rfl⟩ := List.getElem?_eq_some_iff.mp h.here
    have length : (nodes.take k).length = k := List.length_take_of_le (Nat.le_of_lt lt)
    refine ⟨nodes.take k, nodes.drop (k + 1), by simp, by omega, h.satisfies, fun n' hn' => ?_⟩
    obtain ⟨j, hj⟩ := List.mem_iff_getElem?.mp hn'
    have inside : j < k := by
      have := (List.getElem?_eq_some_iff.mp hj).1
      omega
    rw [List.getElem?_take_of_lt inside] at hj
    exact h.before j inside n' hj

/-- The node that is found is the first of the list that satisfies the selector. -/
theorem map_firstMatch (m : Matcher) (nodes : List Node) (s : Selector) :
    (m.firstMatch nodes s).map Prod.snd = nodes.find? fun n => m.satisfies n s := by
  rw [firstMatch_eq]
  generalize 0 = i
  induction nodes generalizing i with
  | nil => rfl
  | cons n nodes ih =>
      rw [firstFrom, List.find?_cons]
      cases m.satisfies n s with
      | true => rfl
      | false => exact ih (i + 1)

/-- A node of the list that satisfies the selector is found, or one before it that
satisfies the selector too. -/
theorem firstMatch_of_satisfies {k : Nat} {n : Node} (hn : nodes[k]? = some n)
    (hs : m.satisfies n s = true) :
    ∃ position node, m.firstMatch nodes s = some (position, node) ∧ position ≤ k ∧
      nodes[position]? = some node ∧ m.satisfies node s = true := by
  cases hf : m.firstMatch nodes s with
  | none =>
      have := firstMatch_eq_none_iff.mp hf n (List.mem_of_getElem? hn)
      rw [hs] at this
      cases this
  | some found =>
      have first := firstMatch_eq_some_iff.mp hf
      refine ⟨found.1, found.2, rfl, ?_, first.here, first.satisfies⟩
      by_contra lt
      have := first.before k (Nat.lt_of_not_le lt) n hn
      rw [hs] at this
      cases this

/-! ## A chain -/

/-- The selectors before the one that finds something are those that no node satisfies, by
induction on the selectors that are left. -/
theorem findFrom_eq_some_iff {i : Nat} {selectors : List Selector} {found : Match} :
    m.findFrom nodes i selectors = some found ↔
      ∃ k, found.selectorIndex = i + k ∧ selectors[k]? = some found.selector ∧
        (∀ j < k, ∀ s, selectors[j]? = some s → m.Misses nodes s) ∧
        m.IsFirst nodes found.selector found.position found.node := by
  induction selectors generalizing i with
  | nil => simp [findFrom]
  | cons s rest ih =>
      rw [findFrom]
      cases hf : m.firstMatch nodes s with
      | some hit =>
          have first := firstMatch_eq_some_iff.mp hf
          constructor
          · intro h
            cases h
            exact ⟨0, rfl, rfl, fun j lt => absurd lt (Nat.not_lt_zero j), first⟩
          · rintro ⟨k, index, selector, misses, same⟩
            cases k with
            | zero =>
                obtain ⟨position, node, t, index'⟩ := found
                cases selector
                cases index
                cases hf.symm.trans (firstMatch_eq_some_iff.mpr same)
                rfl
            | succ k =>
                -- the first selector finds something, so no later one is tried
                exact absurd (misses 0 (Nat.succ_pos k) s rfl) first.not_misses
      | none =>
          have missed := firstMatch_eq_none_iff.mp hf
          dsimp only
          rw [ih]
          constructor
          · rintro ⟨k, index, selector, misses, first⟩
            refine ⟨k + 1, by omega, selector, fun j lt t ht => ?_, first⟩
            cases j with
            | zero =>
                cases ht
                exact missed
            | succ j => exact misses j (Nat.lt_of_succ_lt_succ lt) t ht
          · rintro ⟨k, index, selector, misses, first⟩
            cases k with
            | zero =>
                cases selector
                exact absurd missed first.not_misses
            | succ k =>
                exact ⟨k, by omega, selector,
                  fun j lt t ht => misses (j + 1) (Nat.succ_lt_succ lt) t ht, first⟩

theorem findFrom_eq_none_iff {i : Nat} {selectors : List Selector} :
    m.findFrom nodes i selectors = none ↔ ∀ s ∈ selectors, m.Misses nodes s := by
  induction selectors generalizing i with
  | nil => simp [findFrom]
  | cons s rest ih =>
      rw [findFrom, List.forall_mem_cons, ← firstMatch_eq_none_iff]
      cases m.firstMatch nodes s with
      | some hit => simp
      | none => simp [ih]

/-- A match of a chain on a list of nodes: its selector is the first of the chain that any
node satisfies, and its node is the first that satisfies it. -/
structure Finds (m : Matcher) (nodes : List Node) (c : Chain) (found : Match) : Prop where
  selector : c.selectors[found.selectorIndex]? = some found.selector
  least : ∀ j < found.selectorIndex, ∀ s, c.selectors[j]? = some s → m.Misses nodes s
  first : m.IsFirst nodes found.selector found.position found.node

variable {tree : List Node} {c : Chain}

theorem find_eq_some_iff {found : Match} :
    m.find tree c = some found ↔ m.Finds (Node.preorders tree) c found := by
  rw [find, Node.flatten_eq_preorders, findFrom_eq_some_iff]
  constructor
  · rintro ⟨k, index, selector, misses, first⟩
    rw [Nat.zero_add] at index
    subst index
    exact ⟨selector, misses, first⟩
  · intro h
    exact ⟨found.selectorIndex, (Nat.zero_add _).symm, h.selector, h.least, h.first⟩

theorem find_eq_none_iff :
    m.find tree c = none ↔ ∀ s ∈ c.selectors, m.Misses (Node.preorders tree) s := by
  rw [find, Node.flatten_eq_preorders]
  exact findFrom_eq_none_iff

/-- A chain finds the first node, in pre-order, that satisfies the first selector that any
node satisfies, and nothing exactly when no node satisfies any.  The search for one selector
gives what testing every node of any list gives. -/
theorem find_first (m : Matcher) (tree : List Node) (c : Chain) :
    (∀ found, m.find tree c = some found ↔ m.Finds (Node.preorders tree) c found) ∧
      (m.find tree c = none ↔ ∀ s ∈ c.selectors, m.Misses (Node.preorders tree) s) ∧
      ∀ s : Selector,
        (∀ k n, m.findNode tree s = some (k, n) ↔ m.IsFirst (Node.preorders tree) s k n) ∧
        (m.findNode tree s = none ↔ m.Misses (Node.preorders tree) s) ∧
        ∀ nodes, (m.firstMatch nodes s).map Prod.snd = nodes.find? fun n => m.satisfies n s := by
  refine ⟨fun _ => find_eq_some_iff, find_eq_none_iff, fun s => ⟨fun k n => ?_, ?_, ?_⟩⟩
  · rw [findNode, Node.flatten_eq_preorders]
    exact firstMatch_eq_some_iff
  · rw [findNode, Node.flatten_eq_preorders]
    exact firstMatch_eq_none_iff
  · exact fun nodes => map_firstMatch m nodes s

/-- A path without its slashes, which cannot be read, and a text after it. -/
example :
    (find {} [Node.leaf "a" [Node.leaf "OK" []]]
      ⟨⟨.xpath, "Button", SelectorKind.xpath.baseConfidence, by decide +kernel, by decide⟩,
        [⟨.text, "OK", SelectorKind.text.baseConfidence, by decide +kernel, by decide⟩]⟩).map
      (fun found => (found.selectorIndex, found.position)) = some (1, 1) := by
  rw [find, Node.flatten_eq_preorders]
  decide +kernel

/-- A chain whose first selector is satisfied by a node of the forest finds this node or
one before it by its first selector. -/
theorem find_of_satisfies_primary {k : Nat} {n : Node}
    (hn : (Node.preorders tree)[k]? = some n) (hs : m.satisfies n c.primary = true) :
    ∃ found, m.find tree c = some found ∧ found.selector = c.primary ∧ found.selectorIndex = 0 ∧
      found.position ≤ k ∧ (Node.preorders tree)[found.position]? = some found.node ∧
      m.satisfies found.node c.primary = true := by
  obtain ⟨position, node, hfirst, le, hnode, hsat⟩ := firstMatch_of_satisfies hn hs
  refine ⟨⟨position, node, c.primary, 0⟩, ?_, rfl, rfl, le, hnode, hsat⟩
  rw [find, Node.flatten_eq_preorders, Chain.selectors, findFrom, hfirst]

end Matcher

end UiReplay

import Mathlib.Data.Nat.Find
import UiReplay.Selector.Matcher

/-!
# The first selector that leads to a useful node

Not every node that a selector finds is of use: a press needs a place and a scroll needs an
index.  `Matcher.leadsTo?` passes over a node that is of no use, and `Chain.LeadsFirst` says
that a selector is the first of its chain that leads to a useful node, and to which.

There is such a selector exactly when some selector of the chain leads to a useful node
(`Chain.exists_leadsFirst_iff`), and never two (`Chain.LeadsFirst.unique`).  The search of a
whole chain takes the first selector that finds anything, so it may stop at a node that is
of no use.  If its node is useful, it is the node of the first selector that leads to one
(`Chain.leadsFirst_of_find`).
-/

namespace UiReplay

/-- The first node for a selector, with its place, if it is useful. -/
def Matcher.leadsTo? (m : Matcher) (useful : Node → Bool) (tree : List Node) (s : Selector) :
    Option (Nat × Node) :=
  (m.findNode tree s).filter fun found => useful found.2

/-- A selector that leads to nothing finds no node, or one that is of no use. -/
theorem Matcher.useless_of_leadsTo?_eq_none {m : Matcher} {useful : Node → Bool}
    {tree : List Node} {s : Selector} (h : m.leadsTo? useful tree s = none) {found : Nat × Node}
    (hfound : m.findNode tree s = some found) : useful found.2 = false := by
  have useless := Option.filter_eq_none_iff.mp h found hfound
  exact Bool.eq_false_iff.mpr useless

namespace Chain

/-- The selector at a place of a chain leads to a useful node, and none before it does. -/
structure LeadsFirst (c : Chain) (m : Matcher) (useful : Node → Bool) (tree : List Node)
    (i : Nat) (s : Selector) (position : Nat) (n : Node) : Prop where
  /-- The selector has this place. -/
  here : c.selectors[i]? = some s
  /-- It leads to the node. -/
  leads : m.leadsTo? useful tree s = some (position, n)
  /-- The selectors before it lead to nothing. -/
  first : ∀ j < i, ∀ t, c.selectors[j]? = some t → m.leadsTo? useful tree t = none

variable {c : Chain} {m : Matcher} {useful : Node → Bool} {tree : List Node}
  {i j position position' : Nat} {s t : Selector} {n n' : Node}

/-- The node is the first one for the selector. -/
theorem LeadsFirst.found (h : c.LeadsFirst m useful tree i s position n) :
    m.findNode tree s = some (position, n) :=
  (Option.filter_eq_some_iff.mp h.leads).1

theorem LeadsFirst.node_useful (h : c.LeadsFirst m useful tree i s position n) : useful n = true :=
  (Option.filter_eq_some_iff.mp h.leads).2

/-- The chain is what comes before the selector, the selector, and what comes after it. -/
theorem LeadsFirst.split (h : c.LeadsFirst m useful tree i s position n) :
    ∃ before after, c.selectors = before ++ s :: after ∧ before.length = i ∧
      ∀ t ∈ before, m.leadsTo? useful tree t = none := by
  obtain ⟨lt, hs⟩ := List.getElem?_eq_some_iff.mp h.here
  refine ⟨c.selectors.take i, c.selectors.drop (i + 1), ?_, ?_, ?_⟩
  · rw [← hs, ← List.drop_eq_getElem_cons lt, List.take_append_drop]
  · rw [List.length_take]
    omega
  · intro t ht
    obtain ⟨j, hj⟩ := List.mem_iff_getElem?.mp ht
    rw [List.getElem?_take] at hj
    split at hj
    · next lt => exact h.first j lt t hj
    · cases hj

/-- Of two selectors that lead to a node, the one that comes first is not the later one. -/
theorem LeadsFirst.le (h : c.LeadsFirst m useful tree i s position n)
    (h' : c.LeadsFirst m useful tree j t position' n') : i ≤ j := by
  by_contra lt
  have nothing := h.first j (Nat.lt_of_not_le lt) t h'.here
  rw [h'.leads] at nothing
  cases nothing

theorem LeadsFirst.unique (h : c.LeadsFirst m useful tree i s position n)
    (h' : c.LeadsFirst m useful tree j t position' n') :
    i = j ∧ s = t ∧ position = position' ∧ n = n' := by
  obtain rfl := Nat.le_antisymm (h.le h') (h'.le h)
  obtain rfl := Option.some.inj (h.here.symm.trans h'.here)
  cases h.leads.symm.trans h'.leads
  exact ⟨rfl, rfl, rfl, rfl⟩

/-- A selector of a chain leads to a useful node if and only if one is the first to do so. -/
theorem exists_leadsFirst_iff :
    (∃ i s position n, c.LeadsFirst m useful tree i s position n) ↔
      ∃ s ∈ c.selectors, m.leadsTo? useful tree s ≠ none := by
  constructor
  · rintro ⟨i, s, position, n, h⟩
    refine ⟨s, List.mem_of_getElem? h.here, ?_⟩
    rw [h.leads]
    exact Option.some_ne_none _
  · rintro ⟨s, mem, leads⟩
    have some : ∃ (i : Nat) (t : Selector),
        c.selectors[i]? = some t ∧ m.leadsTo? useful tree t ≠ none := by
      obtain ⟨i, hi⟩ := List.mem_iff_getElem?.mp mem
      exact ⟨i, s, hi, leads⟩
    classical
    obtain ⟨t, ht, leads⟩ := Nat.find_spec some
    obtain ⟨⟨position, n⟩, found⟩ := Option.ne_none_iff_exists'.mp leads
    refine ⟨Nat.find some, t, position, n, ht, found, ?_⟩
    intro j lt u hu
    by_contra leads
    exact Nat.find_min some lt ⟨u, hu, leads⟩

/-! ## The search of a whole chain -/

/-- The search stops at the first selector that finds anything. -/
theorem findFrom_eq_some {nodes : List Node} {selectors : List Selector} {k : Nat}
    {found : Match} (h : m.findFrom nodes k selectors = some found) :
    ∃ i, found.selectorIndex = k + i ∧ selectors[i]? = some found.selector ∧
      m.firstMatch nodes found.selector = some (found.position, found.node) ∧
      ∀ j < i, ∀ t, selectors[j]? = some t → m.firstMatch nodes t = none := by
  induction selectors generalizing k with
  | nil => cases h
  | cons s rest ih =>
      rw [Matcher.findFrom] at h
      cases hs : m.firstMatch nodes s with
      | some first =>
          rw [hs] at h
          cases h
          exact ⟨0, rfl, rfl, hs, fun j lt => absurd lt (Nat.not_lt_zero j)⟩
      | none =>
          rw [hs] at h
          obtain ⟨i, hindex, hi, hfound, hbefore⟩ := ih h
          refine ⟨i + 1, by omega, hi, hfound, ?_⟩
          intro j lt t ht
          cases j with
          | zero =>
              cases ht
              exact hs
          | succ j => exact hbefore j (by omega) t ht

/-- If the node of a chain is useful, it is the one to which the first selector leads. -/
theorem leadsFirst_of_find {found : Match} (h : m.find tree c = some found)
    (good : useful found.node = true) :
    c.LeadsFirst m useful tree found.selectorIndex found.selector found.position found.node := by
  obtain ⟨i, hindex, hi, hfound, hbefore⟩ := findFrom_eq_some h
  rw [Nat.zero_add] at hindex
  rw [hindex]
  refine ⟨hi, Option.filter_eq_some_iff.mpr ⟨hfound, good⟩, ?_⟩
  intro j lt t ht
  have nothing : m.findNode tree t = none := hbefore j lt t ht
  rw [Matcher.leadsTo?, nothing]
  rfl

end Chain

end UiReplay

import UiReplay.Proofs.Replay.Addressed
import UiReplay.Proofs.Screen.RectText
import UiReplay.Workflow.Gesture

/-!
# The extent of the screen

The screen that a tree tells is the least rectangle around those of its roots, where there are any
(`Node.isScreenOf_of_screen?`).  Like these it is upright and has edges of 32 bits: it covers one
of them, and the rectangle of all points with 32 bits covers them all.  As it covers one, it is also
accepted, and as there is one least rectangle around others in whatever order they are given, the
order of the roots makes no difference.  `Node.screen?_least` says all this of any forest, and of
the points that the rectangles contain instead of their edges.

A finger that goes across an upright screen stays in it (`Path.across_within`).  The points at the
quarters lie between the edges, so they have 32 bits as well, whatever the signs of the edges are.
-/

namespace UiReplay

open Number (fitsInt32)

namespace Rect

/-! ## Rectangles around others -/

/-- A rectangle lies within another one. -/
structure Covers (r other : Rect) : Prop where
  left : r.left ≤ other.left
  top : r.top ≤ other.top
  right : other.right ≤ r.right
  bottom : other.bottom ≤ r.bottom

theorem Covers.refl (r : Rect) : r.Covers r :=
  ⟨Int.le_refl _, Int.le_refl _, Int.le_refl _, Int.le_refl _⟩

theorem Covers.trans {a b c : Rect} (hab : a.Covers b) (hbc : b.Covers c) : a.Covers c where
  left := Int.le_trans hab.left hbc.left
  top := Int.le_trans hab.top hbc.top
  right := Int.le_trans hbc.right hab.right
  bottom := Int.le_trans hbc.bottom hab.bottom

theorem Covers.antisymm {a b : Rect} (hab : a.Covers b) (hba : b.Covers a) : a = b := by
  cases a
  cases b
  simp only [Rect.mk.injEq]
  exact ⟨Int.le_antisymm hab.left hba.left, Int.le_antisymm hab.top hba.top,
    Int.le_antisymm hba.right hab.right, Int.le_antisymm hba.bottom hab.bottom⟩

/-- What covers an upright rectangle is upright. -/
theorem Covers.isUpright {r other : Rect} (h : r.Covers other) (upright : other.IsUpright) :
    r.IsUpright :=
  ⟨Int.le_trans h.left (Int.le_trans upright.1 h.right),
    Int.le_trans h.top (Int.le_trans upright.2 h.bottom)⟩

/-- Every point of the other rectangle is one of this. -/
def Contains (r other : Rect) : Prop := ∀ p, other.Holds p → r.Holds p

/-- An upright rectangle has points, among them two opposite corners, so one that contains it has
its edges around it. -/
theorem contains_iff_covers {r other : Rect} (upright : other.IsUpright) :
    r.Contains other ↔ r.Covers other := by
  obtain ⟨horizontal, vertical⟩ := upright
  constructor
  · intro h
    have first : r.Holds ⟨other.left, other.top⟩ :=
      h _ ⟨Int.le_refl _, horizontal, Int.le_refl _, vertical⟩
    have last : r.Holds ⟨other.right, other.bottom⟩ :=
      h _ ⟨horizontal, Int.le_refl _, vertical, Int.le_refl _⟩
    exact ⟨first.left, first.top, last.right, last.bottom⟩
  · intro h p hp
    exact ⟨Int.le_trans h.left hp.left, Int.le_trans hp.right h.right,
      Int.le_trans h.top hp.top, Int.le_trans hp.bottom h.bottom⟩

theorem isDegenerate_iff {r : Rect} :
    r.isDegenerate = true ↔ r.left = 0 ∧ r.top = 0 ∧ r.right = 0 ∧ r.bottom = 0 := by
  simp [isDegenerate, and_assoc]

/-- What covers an accepted rectangle is accepted.  The edges of the one lie between those of the
other, so they are all zero if these are. -/
theorem Covers.of? {r other : Rect} (h : r.Covers other)
    (accepted : Rect.of? other.left other.top other.right other.bottom = some other) :
    Rect.of? r.left r.top r.right r.bottom = some r := by
  obtain ⟨-, solid, upright⟩ := of?_eq_some_iff.mp accepted
  refine of?_eq_some_iff.mpr ⟨rfl, ?_, h.isUpright upright⟩
  rw [← Bool.not_eq_true, isDegenerate_iff] at solid ⊢
  rintro ⟨left, top, right, bottom⟩
  obtain ⟨horizontal, vertical⟩ := upright
  obtain ⟨hl, ht, hr, hb⟩ := h
  omega

/-- The least rectangle around others, their union. -/
structure IsLeastAround (r : Rect) (rects : List Rect) : Prop where
  /-- It covers them. -/
  covers : ∀ other ∈ rects, r.Covers other
  /-- Whatever covers them covers it. -/
  least : ∀ bigger : Rect, (∀ other ∈ rects, bigger.Covers other) → bigger.Covers r

theorem IsLeastAround.unique {a b : Rect} {rects : List Rect} (ha : a.IsLeastAround rects)
    (hb : b.IsLeastAround rects) : a = b :=
  (hb.least a ha.covers).antisymm (ha.least b hb.covers)

/-- Neither the order of the others nor how often one occurs makes a difference. -/
theorem IsLeastAround.congr {r : Rect} {a b : List Rect} (same : ∀ x, x ∈ a ↔ x ∈ b)
    (h : r.IsLeastAround a) : r.IsLeastAround b where
  covers other hother := h.covers other ((same other).mpr hother)
  least bigger hbigger := h.least bigger fun other hother => hbigger other ((same other).mp hother)

theorem covers_union_left (a b : Rect) : (a.union b).Covers a :=
  ⟨Int.min_le_left _ _, Int.min_le_left _ _, Int.le_max_left _ _, Int.le_max_left _ _⟩

theorem covers_union_right (a b : Rect) : (a.union b).Covers b :=
  ⟨Int.min_le_right _ _, Int.min_le_right _ _, Int.le_max_right _ _, Int.le_max_right _ _⟩

theorem Covers.union {r a b : Rect} (ha : r.Covers a) (hb : r.Covers b) : r.Covers (a.union b) where
  left := Int.le_min.mpr ⟨ha.left, hb.left⟩
  top := Int.le_min.mpr ⟨ha.top, hb.top⟩
  right := Int.max_le.mpr ⟨ha.right, hb.right⟩
  bottom := Int.max_le.mpr ⟨ha.bottom, hb.bottom⟩

theorem isLeastAround_singleton (r : Rect) : r.IsLeastAround [r] where
  covers other hother := by
    rw [List.mem_singleton.mp hother]
    exact .refl r
  least _ around := around r List.mem_cons_self

/-- One more rectangle. -/
theorem IsLeastAround.union {r : Rect} {rects : List Rect} (h : r.IsLeastAround rects) (a : Rect) :
    (r.union a).IsLeastAround (rects ++ [a]) where
  covers other hother := by
    rcases List.mem_append.mp hother with hother | hother
    · exact (covers_union_left r a).trans (h.covers other hother)
    · rw [List.mem_singleton.mp hother]
      exact covers_union_right r a
  least bigger around := by
    have aroundBefore : bigger.Covers r :=
      h.least bigger fun other hother => around other (List.mem_append_left [a] hother)
    exact aroundBefore.union (around a (List.mem_append_right rects List.mem_cons_self))

/-- Uniting rectangles one after the other, by induction on those that are left. -/
theorem IsLeastAround.foldl {r : Rect} {rects : List Rect} (h : r.IsLeastAround rects)
    (rest : List Rect) : (rest.foldl Rect.union r).IsLeastAround (rects ++ rest) := by
  induction rest generalizing r rects with
  | nil => rwa [List.append_nil]
  | cons a rest ih =>
      rw [List.append_cons]
      exact ih (h.union a)

/-! ## Edges of 32 bits -/

/-- The rectangle of all points whose coordinates have 32 bits. -/
def plane : Rect := ⟨-2147483648, -2147483648, 2147483647, 2147483647⟩

theorem fits_iff_covers {r : Rect} (upright : r.IsUpright) : r.Fits ↔ plane.Covers r := by
  have horizontal := upright.1
  have vertical := upright.2
  simp only [Fits, fitsInt32_iff]
  constructor
  · rintro ⟨hl, ht, hr, hb⟩
    exact ⟨hl.1, ht.1, hr.2, hb.2⟩
  · rintro ⟨hl, ht, hr, hb⟩
    simp only [plane] at hl ht hr hb
    omega

/-- An upright rectangle with edges of 32 bits. -/
structure IsProper (r : Rect) : Prop where
  upright : r.IsUpright
  fits : r.Fits

theorem isProper_of_parse? {text : String} {r : Rect} (h : parse? text = some r) : r.IsProper where
  upright := (of?_eq_some_iff.mp (of?_of_parse? h)).2.2
  fits := fits_of_parse? h

/-- The least rectangle around some that are proper is proper. -/
theorem IsLeastAround.isProper {r : Rect} {rects : List Rect} (least : r.IsLeastAround rects)
    (proper : ∀ other ∈ rects, other.IsProper) (some : rects ≠ []) : r.IsProper := by
  obtain ⟨other, rest, rfl⟩ := List.exists_cons_of_ne_nil some
  have upright : r.IsUpright :=
    (least.covers other List.mem_cons_self).isUpright (proper other List.mem_cons_self).upright
  refine ⟨upright, (fits_iff_covers upright).mpr (least.least plane fun a ha => ?_)⟩
  exact (fits_iff_covers (proper a ha).upright).mp (proper a ha).fits

end Rect

/-! ## What tells the screen -/

/-- A tree tells the screen, which is the least rectangle around those of its roots. -/
structure Node.IsScreenOf (tree : List Node) (r : Rect) : Prop where
  /-- Some root has a rectangle. -/
  told : tree.filterMap Node.rect? ≠ []
  /-- The screen is the least around them. -/
  least : r.IsLeastAround (tree.filterMap Node.rect?)

namespace Node

theorem isScreenOf_of_screen? {tree : List Node} {r : Rect} (h : screen? tree = some r) :
    IsScreenOf tree r := by
  unfold screen? at h
  split at h
  · cases h
  · next first rest roots =>
      cases h
      refine ⟨?_, ?_⟩
      · rw [roots]
        exact List.cons_ne_nil _ _
      · rw [roots]
        exact (Rect.isLeastAround_singleton first).foldl rest

theorem screen?_eq_none_iff {tree : List Node} :
    screen? tree = none ↔ tree.filterMap rect? = [] := by
  unfold screen?
  split
  · next h => simp [h]
  · next h => simp [h]

theorem isScreenOf_iff {tree : List Node} {r : Rect} :
    IsScreenOf tree r ↔ screen? tree = some r := by
  refine ⟨fun h => ?_, isScreenOf_of_screen?⟩
  cases told : screen? tree with
  | none => exact absurd (screen?_eq_none_iff.mp told) h.told
  | some r' => rw [h.least.unique (isScreenOf_of_screen? told).least]

theorem IsScreenOf.isProper {tree : List Node} {r : Rect} (h : IsScreenOf tree r) : r.IsProper := by
  refine h.least.isProper (fun other hother => ?_) h.told
  obtain ⟨n, -, hn⟩ := List.mem_filterMap.mp hother
  exact Rect.isProper_of_parse? hn

/-! ## The roots -/

/-- A rectangle contains those of all roots that have one. -/
def RootsIn (tree : List Node) (r : Rect) : Prop :=
  ∀ n ∈ tree, ∀ a, n.rect? = some a → r.Contains a

/-- The rectangles of roots are upright, so their edges say what contains them. -/
theorem rootsIn_iff_covers {tree : List Node} {r : Rect} :
    RootsIn tree r ↔ ∀ a ∈ tree.filterMap rect?, r.Covers a := by
  constructor
  · intro h a ha
    obtain ⟨n, hn, rect⟩ := List.mem_filterMap.mp ha
    exact (Rect.contains_iff_covers (Rect.isProper_of_parse? rect).upright).mp (h n hn a rect)
  · intro h n hn a rect
    exact (Rect.contains_iff_covers (Rect.isProper_of_parse? rect).upright).mpr
      (h a (List.mem_filterMap.mpr ⟨n, hn, rect⟩))

theorem IsScreenOf.rootsIn {tree : List Node} {r : Rect} (h : IsScreenOf tree r) : RootsIn tree r :=
  rootsIn_iff_covers.mpr h.least.covers

theorem IsScreenOf.contains_of_rootsIn {tree : List Node} {r bigger : Rect} (h : IsScreenOf tree r)
    (around : RootsIn tree bigger) : bigger.Contains r :=
  (Rect.contains_iff_covers h.isProper.upright).mpr
    (h.least.least bigger (rootsIn_iff_covers.mp around))

/-- The screen is accepted, since it covers the rectangle of a root. -/
theorem IsScreenOf.of? {tree : List Node} {r : Rect} (h : IsScreenOf tree r) :
    Rect.of? r.left r.top r.right r.bottom = some r := by
  obtain ⟨a, ha⟩ := List.exists_mem_of_ne_nil _ h.told
  obtain ⟨n, -, hn⟩ := List.mem_filterMap.mp ha
  exact (h.least.covers a ha).of? (Rect.of?_of_parse? hn)

theorem IsScreenOf.congr {tree other : List Node} {r : Rect}
    (same : ∀ a, a ∈ tree.filterMap rect? ↔ a ∈ other.filterMap rect?)
    (h : IsScreenOf tree r) : IsScreenOf other r where
  told := by
    obtain ⟨a, ha⟩ := List.exists_mem_of_ne_nil _ h.told
    exact List.ne_nil_of_mem ((same a).mp ha)
  least := h.least.congr same

/-- The screen depends just on which rectangles the roots have. -/
theorem screen?_congr {tree other : List Node}
    (same : ∀ a, a ∈ tree.filterMap rect? ↔ a ∈ other.filterMap rect?) :
    screen? tree = screen? other := by
  ext r
  rw [← isScreenOf_iff, ← isScreenOf_iff]
  exact ⟨.congr same, .congr fun a => (same a).symm⟩

/-- A forest tells no screen exactly if no root has a rectangle.  The screen that it tells contains
the rectangles of all roots that have one, and whatever contains these contains the screen.  It is
accepted, so it is upright and has an edge that is not zero, and its edges have 32 bits.  The order
of the roots makes no difference. -/
theorem screen?_least (tree : List Node) :
    (screen? tree = none ↔ ∀ n ∈ tree, n.rect? = none) ∧
      (∀ r, screen? tree = some r →
        (RootsIn tree r ∧ ∀ bigger, RootsIn tree bigger → bigger.Contains r) ∧
          Rect.of? r.left r.top r.right r.bottom = some r ∧
          r.IsUpright ∧ r.isDegenerate = false ∧ r.Fits) ∧
      ∀ other : List Node, other.Perm tree → screen? other = screen? tree := by
  refine ⟨screen?_eq_none_iff.trans List.filterMap_eq_nil_iff, ?_, ?_⟩
  · intro r told
    have screen := isScreenOf_of_screen? told
    have accepted := screen.of?
    exact ⟨⟨screen.rootsIn, fun bigger => screen.contains_of_rootsIn⟩, accepted,
      screen.isProper.upright, (Rect.of?_eq_some_iff.mp accepted).2.1, screen.isProper.fits⟩
  · intro other perm
    exact screen?_congr fun a => (perm.filterMap rect?).mem_iff

/-- Two windows, one across all heights of 32 bits and one without a height, and a root without a
rectangle. -/
def twoWindows : List Node :=
  [{ bounds := "0,-2147483648,1080,2147483647" }, {}, { bounds := "[-20,0][0,0]" }]

theorem screen?_least_twoWindows :
    screen? twoWindows = some ⟨-20, -2147483648, 1080, 2147483647⟩ ∧
      twoWindows.reverse.Perm twoWindows ∧
      screen? twoWindows.reverse = some ⟨-20, -2147483648, 1080, 2147483647⟩ ∧
      RootsIn twoWindows ⟨-20, -2147483648, 1080, 2147483647⟩ ∧
      Rect.of? (-20) (-2147483648) 1080 2147483647 =
        some ⟨-20, -2147483648, 1080, 2147483647⟩ := by
  have told : screen? twoWindows = some ⟨-20, -2147483648, 1080, 2147483647⟩ := by decide +kernel
  have reversed : twoWindows.reverse.Perm twoWindows := List.reverse_perm twoWindows
  obtain ⟨-, least, anyOrder⟩ := screen?_least twoWindows
  obtain ⟨⟨around, -⟩, accepted, -⟩ := least _ told
  exact ⟨told, reversed, (anyOrder _ reversed).trans told, around, accepted⟩

end Node

/-- The screen that a workflow was recorded on is proper. -/
theorem Workflow.isProper_of_screen? {w : Workflow} {r : Rect} (h : w.screen? = some r) :
    r.IsProper := by
  obtain ⟨info, -, h⟩ := Option.bind_eq_some_iff.mp h
  obtain ⟨width, -, h⟩ := Option.bind_eq_some_iff.mp h
  obtain ⟨height, -, h⟩ := Option.bind_eq_some_iff.mp h
  obtain ⟨fits, h⟩ := Option.ite_none_right_eq_some.mp h
  obtain ⟨rfl, -, upright⟩ := Rect.of?_eq_some_iff.mp h
  obtain ⟨hwidth, hheight⟩ := Bool.and_eq_true_iff.mp fits
  exact ⟨upright, rfl, rfl, hwidth, hheight⟩

/-! ## Across the screen -/

namespace Path

/-- Both ends of a way lie in a rectangle. -/
structure Within (p : Path) (r : Rect) : Prop where
  start : r.Holds p.start
  finish : r.Holds p.finish

/-- The points at the quarters of a screen have 32 bits, so none is replaced by an edge. -/
structure QuartersFit (screen : Rect) : Prop where
  vertical : ∀ k ∈ [1, 3], fitsInt32 (screen.top + Int.tdiv (screen.height * k) 4) = true
  horizontal : ∀ k ∈ [1, 3], fitsInt32 (screen.left + Int.tdiv (screen.width * k) 4) = true

/-- The point some quarters of a span away from its start lies in the span. -/
theorem quarter_between (start : Int) {span k : Int} (forward : 0 ≤ span) (hk : k ∈ [1, 3]) :
    start ≤ start + Int.tdiv (span * k) 4 ∧ start + Int.tdiv (span * k) 4 ≤ start + span := by
  have bounds : 0 ≤ k ∧ k ≤ 4 := by
    simp only [List.mem_cons, List.not_mem_nil, or_false] at hk
    omega
  have positive : 0 ≤ span * k := Int.mul_nonneg forward bounds.1
  have most : span * k ≤ span * 4 := Int.mul_le_mul_of_nonneg_left bounds.2 forward
  rw [Int.tdiv_eq_ediv_of_nonneg positive]
  omega

theorem quarter_fits {first last k : Int} (hfirst : fitsInt32 first = true)
    (hlast : fitsInt32 last = true) (forward : first ≤ last) (hk : k ∈ [1, 3]) :
    fitsInt32 (first + Int.tdiv ((last - first) * k) 4) = true := by
  have between := quarter_between first (Int.sub_nonneg.mpr forward) hk
  rw [Rect.fitsInt32_iff] at hfirst hlast ⊢
  omega

theorem quartersFit {screen : Rect} (proper : screen.IsProper) : QuartersFit screen where
  vertical _ hk := quarter_fits proper.fits.2.1 proper.fits.2.2.2 proper.upright.2 hk
  horizontal _ hk := quarter_fits proper.fits.1 proper.fits.2.2.1 proper.upright.1 hk

theorem quarter_within {first last k : Int} (forward : first ≤ last) (hk : k ∈ [1, 3])
    (fits : fitsInt32 (first + Int.tdiv ((last - first) * k) 4) = true) :
    first ≤ quarter first (last - first) k ∧ quarter first (last - first) k ≤ last := by
  have between := quarter_between first (Int.sub_nonneg.mpr forward) hk
  simp only [quarter, fits, if_true]
  omega

/-- A finger that goes across a screen stays in it. -/
theorem across_within {screen : Rect} (proper : screen.IsProper) (d : Direction) :
    (across screen d).Within screen := by
  obtain ⟨horizontal, vertical⟩ := proper.upright
  have fit := quartersFit proper
  have middleX := Rect.le_middle horizontal
  have middleY := Rect.le_middle vertical
  have y (k : Int) (hk : k ∈ [1, 3]) := quarter_within vertical hk (fit.vertical k hk)
  have x (k : Int) (hk : k ∈ [1, 3]) := quarter_within horizontal hk (fit.horizontal k hk)
  have atX (k : Int) (hk : k ∈ [1, 3]) :
      screen.Holds ⟨quarter screen.left screen.width k, screen.center.y⟩ :=
    ⟨(x k hk).1, (x k hk).2, middleY.1, middleY.2⟩
  have atY (k : Int) (hk : k ∈ [1, 3]) :
      screen.Holds ⟨screen.center.x, quarter screen.top screen.height k⟩ :=
    ⟨middleX.1, middleX.2, (y k hk).1, (y k hk).2⟩
  cases d with
  | up => exact ⟨atY 3 (by simp), atY 1 (by simp)⟩
  | down => exact ⟨atY 1 (by simp), atY 3 (by simp)⟩
  | left => exact ⟨atX 3 (by simp), atX 1 (by simp)⟩
  | right => exact ⟨atX 1 (by simp), atX 3 (by simp)⟩

end Path

end UiReplay

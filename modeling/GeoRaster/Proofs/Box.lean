import Mathlib.Tactic.Linarith
import GeoRaster.Scalar.Exact
import GeoRaster.Mapping.Sampling

/-! Smallest boxes in exact arithmetic. A box is the hull of some points if its bounds are in order, it
contains the points, and lies in every box that contains them; there is one such box at most,
and its bounds are coordinates of the points. -/
namespace GeoRaster

variable {α : Type} [ExactScalar α]

namespace Box

@[simp] theorem contains_empty (p : Point α) : (empty : Box α).contains p = false :=
  rfl

@[simp] theorem contains_span_iff {a b c d : α} {p : Point α} :
    (span a b c d).contains p = true ↔ a ≤ p.x ∧ p.x ≤ c ∧ b ≤ p.y ∧ p.y ≤ d := by
  simp [contains, and_assoc]

/-- A box whose bounds are in order. -/
def Ordered : Box α → Prop
  | empty => True
  | span minX minY maxX maxY => minX ≤ maxX ∧ minY ≤ maxY

theorem ofBounds_of_ordered {a b c d : α} (ordered : (span a b c d).Ordered) :
    ofBounds a b c d = .ok (span a b c d) :=
  if_pos ordered

/-- The smallest box that contains some points. -/
structure IsHull (box : Box α) (points : Point α → Prop) : Prop where
  ordered : box.Ordered
  contains : ∀ p, points p → box.contains p = true
  least : ∀ other : Box α, (∀ p, points p → other.contains p = true) →
    ∀ p, box.contains p = true → other.contains p = true

variable {points : Point α → Prop}

/-- The bounds of a box are coordinates of some points, if it has bounds. -/
def Reached (points : Point α → Prop) : Box α → Prop
  | empty => True
  | span minX minY maxX maxY =>
    ((∃ p, points p ∧ p.x = minX) ∧ ∃ p, points p ∧ p.y = minY) ∧
      (∃ p, points p ∧ p.x = maxX) ∧ ∃ p, points p ∧ p.y = maxY

/-- A box that contains some points, and whose bounds are coordinates of them, is their hull. -/
theorem isHull_of_reached {box : Box α} (contains : ∀ p, points p → box.contains p = true)
    (reached : box.Reached points) : box.IsHull points := by
  cases box with
  | empty => exact ⟨trivial, contains, fun _ _ p found => by simp at found⟩
  | span a b c d =>
    obtain ⟨⟨⟨l, foundL, rfl⟩, ⟨b, foundB, rfl⟩⟩, ⟨r, foundR, rfl⟩, ⟨u, foundU, rfl⟩⟩ := reached
    refine ⟨?_, contains, ?_⟩
    · have widths := contains_span_iff.mp (contains l foundL)
      have heights := contains_span_iff.mp (contains b foundB)
      exact ⟨widths.2.1, heights.2.2.2⟩
    · intro other all p inside
      obtain ⟨left, right, below, above⟩ := contains_span_iff.mp inside
      cases other with
      | empty => exact absurd (all l foundL) (by simp)
      | span a' b' c' d' =>
        have l := contains_span_iff.mp (all l foundL)
        have b := contains_span_iff.mp (all b foundB)
        have r := contains_span_iff.mp (all r foundR)
        have u := contains_span_iff.mp (all u foundU)
        rw [contains_span_iff]
        exact ⟨l.1.trans left, right.trans r.2.1, b.2.2.1.trans below, above.trans u.2.2.2⟩

theorem contains_lower {a b c d : α} (ordered : (span a b c d).Ordered) :
    (span a b c d).contains ⟨a, b⟩ = true :=
  contains_span_iff.mpr ⟨le_refl a, ordered.1, le_refl b, ordered.2⟩

theorem contains_upper {a b c d : α} (ordered : (span a b c d).Ordered) :
    (span a b c d).contains ⟨c, d⟩ = true :=
  contains_span_iff.mpr ⟨ordered.1, le_refl c, ordered.2, le_refl d⟩

/-- Whether one box lies in another, going by their bounds. The empty box lies in every box. -/
def Within : Box α → Box α → Prop
  | empty, _ => True
  | span .., empty => False
  | span minX minY maxX maxY, span minX' minY' maxX' maxY' =>
    (minX' ≤ minX ∧ maxX ≤ maxX') ∧ minY' ≤ minY ∧ maxY ≤ maxY'

theorem Within.refl (b : Box α) : b.Within b := by
  cases b with
  | empty => trivial
  | span => exact ⟨⟨le_refl _, le_refl _⟩, le_refl _, le_refl _⟩

theorem Within.contains {b c : Box α} (within : b.Within c) {p : Point α}
    (inside : b.contains p = true) : c.contains p = true := by
  cases b with
  | empty => simp at inside
  | span =>
    cases c with
    | empty => exact within.elim
    | span =>
      obtain ⟨⟨left, right⟩, below, above⟩ := within
      rw [contains_span_iff] at inside ⊢
      exact ⟨left.trans inside.1, inside.2.1.trans right, below.trans inside.2.2.1,
        inside.2.2.2.trans above⟩

/-- A box lies in another if its points do. -/
theorem Ordered.within_iff {b c : Box α} (ordered : b.Ordered) :
    b.Within c ↔ ∀ p, b.contains p = true → c.contains p = true := by
  constructor
  · intro within p inside
    exact within.contains inside
  · intro all
    cases b with
    | empty => trivial
    | span =>
      have lower := all _ (contains_lower ordered)
      have upper := all _ (contains_upper ordered)
      cases c with
      | empty => simp at lower
      | span =>
        rw [contains_span_iff] at lower upper
        exact ⟨⟨lower.1, upper.2.1⟩, lower.2.2.1, upper.2.2.2⟩

theorem Within.antisymm {b c : Box α} (within : b.Within c) (back : c.Within b) : b = c := by
  cases b with
  | empty =>
    cases c with
    | empty => rfl
    | span => exact back.elim
  | span =>
    cases c with
    | empty => exact within.elim
    | span =>
      obtain ⟨⟨left, right⟩, below, above⟩ := within
      obtain ⟨⟨left', right'⟩, below', above'⟩ := back
      rw [span.injEq]
      exact ⟨le_antisymm left' left, le_antisymm below' below, le_antisymm right right',
        le_antisymm above above'⟩

/-- The hull of some points lies in every box that contains them. -/
theorem IsHull.within {b c : Box α} (hull : b.IsHull points)
    (contains : ∀ p, points p → c.contains p = true) : b.Within c :=
  hull.ordered.within_iff.mpr (hull.least c contains)

/-- There is one hull at most. -/
theorem IsHull.unique {b c : Box α} (first : b.IsHull points) (second : c.IsHull points) : b = c :=
  (first.within second.contains).antisymm (second.within first.contains)

theorem IsHull.isEmpty_iff {b : Box α} (hull : b.IsHull points) :
    b.isEmpty = true ↔ ∀ p, ¬ points p := by
  constructor
  · intro isEmpty p found
    cases b with
    | empty => exact absurd (hull.contains p found) (by simp)
    | span => contradiction
  · intro none
    have nothing : (empty : Box α).IsHull points :=
      isHull_of_reached (fun p found => absurd found (none p)) trivial
    rw [hull.unique nothing]
    rfl

/-! ### Growing -/

theorem Ordered.grow {b : Box α} (ordered : b.Ordered) (p : Point α) : (b.grow p).Ordered := by
  cases b with
  | empty => exact ⟨le_refl p.x, le_refl p.y⟩
  | span minX minY maxX maxY =>
    simp only [Box.grow, ExactScalar.least_eq, ExactScalar.greatest_eq]
    exact ⟨(min_le_left _ _).trans (ordered.1.trans (le_max_left _ _)),
      (min_le_left _ _).trans (ordered.2.trans (le_max_left _ _))⟩

theorem isEmpty_grow (b : Box α) (p : Point α) : (b.grow p).isEmpty = false := by
  cases b <;> rfl

theorem foldl_grow_spec {b : Box α} (ordered : b.Ordered) (ps : List (Point α)) :
    (ps.foldl Box.grow b).Ordered ∧
      ((ps.foldl Box.grow b).isEmpty = true ↔ b.isEmpty = true ∧ ps = []) := by
  induction ps generalizing b with
  | nil => exact ⟨ordered, by simp⟩
  | cons p ps ih =>
    obtain ⟨still, isEmpty_iff⟩ := ih (ordered.grow p)
    refine ⟨still, isEmpty_iff.trans ?_⟩
    simp [isEmpty_grow]

theorem contains_grow_self (b : Box α) (p : Point α) : (b.grow p).contains p = true := by
  cases b <;> simp [grow, ExactScalar.least_eq, ExactScalar.greatest_eq]

theorem contains_grow {b : Box α} {q : Point α} (inside : b.contains q = true) (p : Point α) :
    (b.grow p).contains q = true := by
  cases b with
  | empty => simp at inside
  | span minX minY maxX maxY =>
    obtain ⟨left, right, below, above⟩ := contains_span_iff.mp inside
    simp only [grow, ExactScalar.least_eq, ExactScalar.greatest_eq, contains_span_iff]
    exact ⟨(min_le_left _ _).trans left, right.trans (le_max_left _ _),
      (min_le_left _ _).trans below, above.trans (le_max_left _ _)⟩

/-- Growing moves bounds to coordinates of the new point, or leaves them. -/
theorem Reached.grow {b : Box α} (reached : b.Reached points) (p : Point α) :
    (b.grow p).Reached fun q => q = p ∨ points q := by
  cases b with
  | empty => exact ⟨⟨⟨p, .inl rfl, rfl⟩, p, .inl rfl, rfl⟩, ⟨p, .inl rfl, rfl⟩, p, .inl rfl, rfl⟩
  | span minX minY maxX maxY =>
    obtain ⟨⟨⟨l, foundL, rfl⟩, ⟨b, foundB, rfl⟩⟩, ⟨r, foundR, rfl⟩, ⟨u, foundU, rfl⟩⟩ := reached
    -- each bound is that of the box or that of the point
    have chosen : ∀ {choose : α → α → α}, (∀ a b, choose a b = a ∨ choose a b = b) →
        ∀ (coordinate : Point α → α) {q : Point α}, points q →
          ∃ q', (q' = p ∨ points q') ∧ coordinate q' = choose (coordinate q) (coordinate p) := by
      intro choose choice coordinate q found
      rcases choice (coordinate q) (coordinate p) with same | same
      · exact ⟨q, .inr found, same.symm⟩
      · exact ⟨p, .inl rfl, same.symm⟩
    have least : ∀ a b : α, Scalar.least a b = a ∨ Scalar.least a b = b := by
      simpa only [ExactScalar.least_eq] using min_choice
    have greatest : ∀ a b : α, Scalar.greatest a b = a ∨ Scalar.greatest a b = b := by
      simpa only [ExactScalar.greatest_eq] using max_choice
    exact ⟨⟨chosen least Point.x foundL, chosen least Point.y foundB⟩,
      chosen greatest Point.x foundR, chosen greatest Point.y foundU⟩

omit [ExactScalar α] in
theorem Reached.mono {b : Box α} {others : Point α → Prop} (reached : b.Reached points)
    (imp : ∀ p, points p → others p) : b.Reached others := by
  cases b with
  | empty => trivial
  | span minX minY maxX maxY =>
    obtain ⟨⟨⟨l, foundL, left⟩, b, foundB, below⟩, ⟨r, foundR, right⟩, u, foundU, above⟩ := reached
    exact ⟨⟨⟨l, imp l foundL, left⟩, b, imp b foundB, below⟩, ⟨r, imp r foundR, right⟩,
      u, imp u foundU, above⟩

theorem foldl_grow_reached {b : Box α} (contains : ∀ q, points q → b.contains q = true)
    (reached : b.Reached points) (ps : List (Point α)) :
    (∀ q, q ∈ ps ∨ points q → (ps.foldl Box.grow b).contains q = true) ∧
      (ps.foldl Box.grow b).Reached fun q => q ∈ ps ∨ points q := by
  induction ps generalizing b points with
  | nil => exact ⟨fun q found => contains q (by simpa using found), reached.mono fun q => .inr⟩
  | cons p ps ih =>
    have shuffle : ∀ q, q ∈ ps ∨ q = p ∨ points q ↔ q ∈ p :: ps ∨ points q := by
      intro q
      rw [List.mem_cons]
      tauto
    have grown : ∀ q, (q = p ∨ points q) → (b.grow p).contains q = true := by
      rintro q (rfl | found)
      · exact contains_grow_self b q
      · exact contains_grow (contains q found) p
    obtain ⟨all, reached⟩ := ih grown (reached.grow p)
    exact ⟨fun q found => all q ((shuffle q).mpr found), reached.mono fun q => (shuffle q).mp⟩

theorem ofPoints_spec (ps : List (Point α)) :
    (∀ q ∈ ps, (ofPoints ps).contains q = true) ∧ (ofPoints ps).Reached (· ∈ ps) := by
  have nothing : ∀ q : Point α, False → (empty : Box α).contains q = true := fun _ => False.elim
  obtain ⟨all, reached⟩ := foldl_grow_reached nothing trivial ps
  exact ⟨fun q found => all q (.inl found), reached.mono fun _ found => found.resolve_right id⟩

/-- The box grown from nothing by some points is their hull. -/
theorem isHull_ofPoints (ps : List (Point α)) : (ofPoints ps).IsHull (· ∈ ps) := by
  obtain ⟨contains, reached⟩ := ofPoints_spec ps
  exact isHull_of_reached contains reached

/-- The hull of some points is the hull of any more points that it contains. -/
theorem IsHull.extend {b : Box α} {others : Point α → Prop} (hull : b.IsHull points)
    (imp : ∀ p, points p → others p) (contains : ∀ p, others p → b.contains p = true) :
    b.IsHull others :=
  ⟨hull.ordered, contains, fun other all => hull.least other fun p found => all p (imp p found)⟩

/-! ### Whole bounds -/

def HasWholeBounds : Box α → Prop
  | empty => True
  | span minX minY maxX maxY => ∃ x₀ y₀ x₁ y₁ : ℤ, (x₀ : α) = minX ∧ (y₀ : α) = minY ∧
      (x₁ : α) = maxX ∧ (y₁ : α) = maxY

/-- The smallest box with whole bounds that contains some points. -/
structure IsWholeHull (box : Box α) (points : Point α → Prop) : Prop where
  ordered : box.Ordered
  whole : box.HasWholeBounds
  contains : ∀ p, points p → box.contains p = true
  least : ∀ other : Box α, other.HasWholeBounds → (∀ p, points p → other.contains p = true) →
    ∀ p, box.contains p = true → other.contains p = true

theorem IsWholeHull.within {b c : Box α} (hull : b.IsWholeHull points) (whole : c.HasWholeBounds)
    (contains : ∀ p, points p → c.contains p = true) : b.Within c :=
  hull.ordered.within_iff.mpr (hull.least c whole contains)

theorem growToInt_span {a b c d : α} (ordered : (span a b c d).Ordered) :
    (span a b c d).growToInt = .ok (span ⌊a⌋ ⌊b⌋ ⌈c⌉ ⌈d⌉) := by
  have below : ∀ a : α, wholeBelow a = .ok ⌊a⌋ := fun _ => rfl
  have above : ∀ a : α, wholeAbove a = .ok ⌈a⌉ := by
    intro a
    show Except.ok (-⌊-a⌋) = _
    rw [Int.floor_neg, neg_neg]
  have wider : ∀ {a b : α}, a ≤ b → (Scalar.ofInt ⌊a⌋ : α) ≤ Scalar.ofInt ⌈b⌉ := by
    intro a b le
    exact (Int.floor_le a).trans (le.trans (Int.le_ceil b))
  have whole : (span a b c d).growToInt = ofBounds (Scalar.ofInt ⌊a⌋) (Scalar.ofInt ⌊b⌋)
      (Scalar.ofInt ⌈c⌉) (Scalar.ofInt ⌈d⌉) := by
    simp only [growToInt, below, above]
    rfl
  rw [whole, ofBounds_of_ordered ⟨wider ordered.1, wider ordered.2⟩]
  rfl

/-- A box with ordered bounds has a smallest box with whole bounds around it. -/
theorem Ordered.exists_growToInt {b : Box α} (ordered : b.Ordered) :
    ∃ whole, b.growToInt = .ok whole ∧ whole.isEmpty = b.isEmpty ∧
      whole.IsWholeHull fun p => b.contains p = true := by
  cases b with
  | empty => exact ⟨.empty, rfl, rfl, trivial, trivial, fun _ => id, fun _ _ _ p found => by simp at found⟩
  | span minX minY maxX maxY =>
    refine ⟨_, growToInt_span ordered, rfl, ?_, ⟨_, _, _, _, rfl, rfl, rfl, rfl⟩, ?_, ?_⟩
    · exact ⟨(Int.floor_le minX).trans (ordered.1.trans (Int.le_ceil maxX)),
        (Int.floor_le minY).trans (ordered.2.trans (Int.le_ceil maxY))⟩
    · intro p inside
      obtain ⟨left, right, below, above⟩ := contains_span_iff.mp inside
      rw [contains_span_iff]
      exact ⟨(Int.floor_le minX).trans left, right.trans (Int.le_ceil maxX),
        (Int.floor_le minY).trans below, above.trans (Int.le_ceil maxY)⟩
    · intro other whole all p inside
      have lower := all _ (contains_lower ordered)
      have upper := all _ (contains_upper ordered)
      cases other with
      | empty => simp at lower
      | span a b c d =>
        obtain ⟨x₀, y₀, x₁, y₁, rfl, rfl, rfl, rfl⟩ := whole
        obtain ⟨left, right, below, above⟩ := contains_span_iff.mp inside
        have atLower := contains_span_iff.mp lower
        have atUpper := contains_span_iff.mp upper
        rw [contains_span_iff]
        exact ⟨(Int.cast_le.mpr (Int.le_floor.mpr atLower.1)).trans left,
          right.trans (Int.cast_le.mpr (Int.ceil_le.mpr atUpper.2.1)),
          (Int.cast_le.mpr (Int.le_floor.mpr atLower.2.2.1)).trans below,
          above.trans (Int.cast_le.mpr (Int.ceil_le.mpr atUpper.2.2.2))⟩

/-- The hull of some points, grown to whole bounds, is their smallest box with whole bounds. -/
theorem IsHull.exists_growToInt {b : Box α} (hull : b.IsHull points) :
    ∃ whole, b.growToInt = .ok whole ∧ whole.IsWholeHull points := by
  obtain ⟨whole, grown, _, least⟩ := hull.ordered.exists_growToInt
  refine ⟨whole, grown, least.ordered, least.whole, ?_, ?_⟩
  · intro p found
    exact least.contains p (hull.contains p found)
  · intro other wholeBounds all
    exact least.least other wholeBounds (hull.least other all)

end Box

namespace Mapping

/-- The corners of a box span a box, empty for an empty box. -/
theorem transformCorners_spec (b : Box α) (f : Point α → Point α) :
    (transformCorners b f).Ordered ∧ (transformCorners b f).isEmpty = b.isEmpty := by
  cases b with
  | empty => exact ⟨trivial, rfl⟩
  | span minX minY maxX maxY =>
    obtain ⟨ordered, isEmpty_iff⟩ := Box.foldl_grow_spec (b := .empty) trivial
      ((Box.span minX minY maxX maxY).corners.map f)
    refine ⟨ordered, ?_⟩
    rw [Bool.eq_iff_iff]
    refine isEmpty_iff.trans ?_
    simp [Box.corners, Box.isEmpty]

end Mapping

namespace Mapping

open Box

theorem foldl_min_spec (a : α) (xs : List α) :
    xs.foldl min a ∈ a :: xs ∧ ∀ x ∈ a :: xs, xs.foldl min a ≤ x :=
  List.min?_eq_some_iff.mp List.min?_cons'

theorem foldl_max_spec (a : α) (xs : List α) :
    xs.foldl max a ∈ a :: xs ∧ ∀ x ∈ a :: xs, x ≤ xs.foldl max a :=
  List.max?_eq_some_iff.mp List.max?_cons'

omit [ExactScalar α] in
/-- Folding points coordinate by coordinate folds the coordinates. -/
theorem foldl_coordinates (f : α → α → α) (p : Point α) (ps : List (Point α)) :
    ps.foldl (fun q r => ⟨f q.x r.x, f q.y r.y⟩) p =
      ⟨(ps.map Point.x).foldl f p.x, (ps.map Point.y).foldl f p.y⟩ := by
  induction ps generalizing p with
  | nil => rfl
  | cons r ps ih => exact ih ⟨f p.x r.x, f p.y r.y⟩

/-- The box of some points contains them, and its bounds are coordinates of them. -/
theorem spanOf_spec (ps : List (Point α)) :
    ∃ box, spanOf ps = .ok box ∧ (∀ p ∈ ps, box.contains p = true) ∧ box.Reached (· ∈ ps) := by
  cases ps with
  | nil => exact ⟨.empty, rfl, by simp, trivial⟩
  | cons p ps =>
    have least : (Scalar.least : α → α → α) = min := funext₂ ExactScalar.least_eq
    have greatest : (Scalar.greatest : α → α → α) = max := funext₂ ExactScalar.greatest_eq
    obtain ⟨minX, leX⟩ := foldl_min_spec p.x (ps.map Point.x)
    obtain ⟨minY, leY⟩ := foldl_min_spec p.y (ps.map Point.y)
    obtain ⟨maxX, geX⟩ := foldl_max_spec p.x (ps.map Point.x)
    obtain ⟨maxY, geY⟩ := foldl_max_spec p.y (ps.map Point.y)
    rw [← List.map_cons] at minX minY maxX maxY leX leY geX geY
    have memX : ∀ q ∈ p :: ps, q.x ∈ (p :: ps).map Point.x := fun q => List.mem_map_of_mem
    have memY : ∀ q ∈ p :: ps, q.y ∈ (p :: ps).map Point.y := fun q => List.mem_map_of_mem
    simp only [spanOf, least, greatest, foldl_coordinates min, foldl_coordinates max]
    rw [ofBounds_of_ordered]
    · refine ⟨_, rfl, ?_, ?_⟩
      · intro q member
        rw [contains_span_iff]
        exact ⟨leX _ (memX q member), geX _ (memX q member), leY _ (memY q member),
          geY _ (memY q member)⟩
      · exact ⟨⟨List.mem_map.mp minX, List.mem_map.mp minY⟩, List.mem_map.mp maxX,
          List.mem_map.mp maxY⟩
    · have first := List.mem_cons_self (a := p) (l := ps)
      exact ⟨(leX _ (memX p first)).trans (geX _ (memX p first)),
        (leY _ (memY p first)).trans (geY _ (memY p first))⟩

end Mapping

end GeoRaster

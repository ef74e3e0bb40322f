import GeoRaster.Box
import GeoRaster.Proofs.Lawful

/-! Boxes as joins. Of what a box has been grown by, it is the least box that contains all of it, in every
lawful arithmetic: a box contains the grown one exactly if it contains what was there before and what
was added. Bounds may be infinite to start with; what is added is finite. -/
namespace GeoRaster.Box

open Scalar (Lawful IsWhole least greatest le_least_iff greatest_le_iff)

variable {α : Type} [Scalar α]

/-! ### Boxes in boxes -/

/-- A box whose bounds are in order, as those of every box that is made from bounds are. -/
def Proper : Box α → Prop
  | empty => True
  | span minX minY maxX maxY => minX ≤ maxX ∧ minY ≤ maxY

theorem ofBounds_eq_ok_iff {a b c d : α} {box : Box α} :
    ofBounds a b c d = .ok box ↔ box = span a b c d ∧ box.Proper := by
  unfold ofBounds
  split
  · rename_i ordered
    constructor
    · rintro ⟨⟩
      exact ⟨rfl, ordered⟩
    · rintro ⟨rfl, -⟩
      rfl
  · rename_i disordered
    constructor
    · rintro ⟨⟩
    · rintro ⟨rfl, ordered⟩
      exact absurd ordered disordered

/-- Whether a box contains all points of another. -/
def Covers (b c : Box α) : Prop :=
  ∀ p, c.contains p = true → b.contains p = true

theorem Covers.refl (b : Box α) : b.Covers b :=
  fun _ => id

theorem Covers.trans {b c d : Box α} (first : b.Covers c) (second : c.Covers d) : b.Covers d :=
  fun p inside => first p (second p inside)

theorem covers_empty (b : Box α) : b.Covers empty := by
  rintro p ⟨⟩

theorem span_contains_iff {a b c d : α} {p : Point α} :
    (span a b c d).contains p = true ↔ (a ≤ p.x ∧ p.x ≤ c) ∧ b ≤ p.y ∧ p.y ≤ d := by
  simp [contains, and_assoc]

variable [Lawful α]

/-- Finite corners of a box and infinite ones are points of it. -/
theorem Proper.contains_corners {a b c d : α} (proper : (span a b c d).Proper) :
    (span a b c d).contains ⟨a, b⟩ = true ∧ (span a b c d).contains ⟨c, d⟩ = true := by
  obtain ⟨left, right⟩ := Lawful.le_refl proper.1
  obtain ⟨below, above⟩ := Lawful.le_refl proper.2
  simp only [span_contains_iff]
  exact ⟨⟨⟨left, proper.1⟩, below, proper.2⟩, ⟨proper.1, right⟩, proper.2, above⟩

theorem Proper.not_covered {a b c d : α} (proper : (span a b c d).Proper) :
    ¬ (empty : Box α).Covers (span a b c d) :=
  fun covers => Bool.noConfusion (covers _ proper.contains_corners.1)

/-- Boxes contain each other by their bounds. -/
theorem Proper.covers_iff {a b c d a' b' c' d' : α} (proper : (span a b c d).Proper) :
    (span a' b' c' d').Covers (span a b c d) ↔ (a' ≤ a ∧ c ≤ c') ∧ b' ≤ b ∧ d ≤ d' := by
  obtain ⟨lower, upper⟩ := proper.contains_corners
  constructor
  · intro covers
    have lower := span_contains_iff.mp (covers _ lower)
    have upper := span_contains_iff.mp (covers _ upper)
    exact ⟨⟨lower.1.1, upper.1.2⟩, lower.2.1, upper.2.2⟩
  · rintro ⟨⟨left, right⟩, below, above⟩ p inside
    rw [span_contains_iff] at inside ⊢
    obtain ⟨⟨left', right'⟩, below', above'⟩ := inside
    exact ⟨⟨Lawful.le_trans left left', Lawful.le_trans right' right⟩, Lawful.le_trans below below',
      Lawful.le_trans above' above⟩

theorem Proper.covers_iff_corners {a b c d : α} {other : Box α} (proper : (span a b c d).Proper) :
    other.Covers (span a b c d) ↔ other.contains ⟨a, b⟩ = true ∧ other.contains ⟨c, d⟩ = true := by
  refine ⟨fun covers => proper.contains_corners.imp (covers _) (covers _), ?_⟩
  rintro ⟨lower, upper⟩
  cases other with
  | empty => exact absurd lower Bool.false_ne_true
  | span =>
    have lower := span_contains_iff.mp lower
    have upper := span_contains_iff.mp upper
    exact proper.covers_iff.mpr ⟨⟨lower.1.1, upper.1.2⟩, lower.2.1, upper.2.2⟩

/-- Boxes that contain each other are the same. -/
theorem Proper.same_of_covers {b c : Box α} (proper : b.Proper) (proper' : c.Proper)
    (covers : b.Covers c) (covered : c.Covers b) : b.same c = true := by
  cases b with
  | empty =>
    cases c with
    | empty => rfl
    | span => exact absurd covers proper'.not_covered
  | span =>
    cases c with
    | empty => exact absurd covered proper.not_covered
    | span =>
      obtain ⟨⟨left, right⟩, below, above⟩ := proper'.covers_iff.mp covers
      obtain ⟨⟨left', right'⟩, below', above'⟩ := proper.covers_iff.mp covered
      simp only [same, Bool.and_eq_true, Lawful.beq_iff]
      exact ⟨⟨⟨⟨left, left'⟩, below, below'⟩, right', right⟩, above', above⟩

/-- Boxes that the same boxes contain are the same. -/
theorem Proper.same_of_covers_iff {b c : Box α} (proper : b.Proper) (proper' : c.Proper)
    (alike : ∀ other : Box α, other.Covers b ↔ other.Covers c) : b.same c = true :=
  proper.same_of_covers proper' ((alike b).mp (.refl b)) ((alike c).mpr (.refl c))

/-! ### Bounds -/

/-- Whether all bounds of a box have a property. -/
def Bounds (property : α → Prop) : Box α → Prop
  | empty => True
  | span minX minY maxX maxY => (property minX ∧ property minY) ∧ property maxX ∧ property maxY

def FiniteBounds : Box α → Prop :=
  Bounds fun a => Scalar.isFinite a = true

def WholeBounds : Box α → Prop :=
  Bounds IsWhole

/-- Growing chooses from the bounds of the box and the coordinates of the point. -/
theorem Proper.bounds_grow {property : α → Prop} {b : Box α} (proper : b.Proper) (bounds : b.Bounds property)
    {p : Point α} (x : p.x ≤ p.x) (y : p.y ≤ p.y) (chosen : property p.x ∧ property p.y) :
    (b.grow p).Bounds property := by
  cases b with
  | empty => exact ⟨chosen, chosen⟩
  | span a b c d =>
    obtain ⟨left, right⟩ := Lawful.le_refl proper.1
    obtain ⟨below, above⟩ := Lawful.le_refl proper.2
    have least {a b : α} (first : a ≤ a) (second : b ≤ b) (holds : property a) (holds' : property b) :
        property (least a b) := by
      rcases Scalar.least_choice first second with ⟨same, _⟩ | ⟨same, _⟩ <;> rwa [same]
    have greatest {a b : α} (first : a ≤ a) (second : b ≤ b) (holds : property a) (holds' : property b) :
        property (greatest a b) := by
      rcases Scalar.greatest_choice first second with ⟨same, _⟩ | ⟨same, _⟩ <;> rwa [same]
    exact ⟨⟨least left x bounds.1.1 chosen.1, least below y bounds.1.2 chosen.2⟩,
      greatest right x bounds.2.1 chosen.1, greatest above y bounds.2.2 chosen.2⟩

/-! ### Growing -/

/-- A point whose coordinates are finite. -/
def FinitePoint (p : Point α) : Prop :=
  Scalar.isFinite p.x = true ∧ Scalar.isFinite p.y = true

/-- What a box is grown by. -/
inductive Growth (α : Type) where
  | point (p : Point α)
  | box (b : Box α)

namespace Growth

def Finite : Growth α → Prop
  | point p => FinitePoint p
  | box b => b.Proper ∧ b.FiniteBounds

/-- Whether nothing is added. -/
def isNothing : Growth α → Bool
  | point _ => false
  | box b => b.isEmpty

/-- Whether what is added lies in a box. -/
def Within (b : Box α) : Growth α → Prop
  | point p => b.contains p = true
  | box c => b.Covers c

end Growth

def growBy (b : Box α) : Growth α → Box α
  | .point p => b.grow p
  | .box other => b.growBox other

def growAll (b : Box α) (growths : List (Growth α)) : Box α :=
  growths.foldl growBy b

omit [Lawful α] in
theorem isEmpty_grow_eq_false (b : Box α) (p : Point α) : (b.grow p).isEmpty = false := by
  cases b <;> rfl

/-- Growing by a point is joining with it. -/
theorem Proper.grow {b : Box α} (proper : b.Proper) {p : Point α} (x : p.x ≤ p.x) (y : p.y ≤ p.y) :
    (b.grow p).Proper ∧ ∀ other : Box α, other.Covers (b.grow p) ↔
      other.Covers b ∧ other.contains p = true := by
  cases b with
  | empty =>
    have corner : (span p.x p.y p.x p.y).Proper := ⟨x, y⟩
    refine ⟨corner, fun other => corner.covers_iff_corners.trans ?_⟩
    exact ⟨fun inside => ⟨covers_empty other, inside.1⟩, fun inside => ⟨inside.2, inside.2⟩⟩
  | span a b c d =>
    obtain ⟨left, right⟩ := Lawful.le_refl proper.1
    obtain ⟨below, above⟩ := Lawful.le_refl proper.2
    have grown : (span (least a p.x) (least b p.y) (greatest c p.x) (greatest d p.y)).Proper :=
      ⟨Lawful.le_trans (Scalar.least_le_left left x)
          (Lawful.le_trans proper.1 (Scalar.le_greatest_left right x)),
        Lawful.le_trans (Scalar.least_le_left below y)
          (Lawful.le_trans proper.2 (Scalar.le_greatest_left above y))⟩
    refine ⟨grown, fun other => ?_⟩
    cases other with
    | empty =>
      exact ⟨fun covers => absurd covers grown.not_covered, fun inside => Bool.noConfusion inside.2⟩
    | span =>
      show Covers _ (span ..) ↔ _
      rw [grown.covers_iff, proper.covers_iff, span_contains_iff, le_least_iff left x, le_least_iff below y,
        greatest_le_iff right x, greatest_le_iff above y]
      tauto

theorem Proper.growBox {b c : Box α} (proper : b.Proper) (proper' : c.Proper) :
    (b.growBox c).Proper ∧ (b.growBox c).isEmpty = (b.isEmpty && c.isEmpty) ∧
      ∀ other : Box α, other.Covers (b.growBox c) ↔ other.Covers b ∧ other.Covers c := by
  cases c with
  | empty => exact ⟨proper, (Bool.and_true _).symm, fun other => (and_iff_left (covers_empty other)).symm⟩
  | span minX minY maxX maxY =>
    obtain ⟨left, right⟩ := Lawful.le_refl proper'.1
    obtain ⟨below, above⟩ := Lawful.le_refl proper'.2
    obtain ⟨first, lower⟩ := proper.grow (p := ⟨minX, minY⟩) left below
    obtain ⟨second, upper⟩ := first.grow (p := ⟨maxX, maxY⟩) right above
    refine ⟨second, (isEmpty_grow_eq_false _ _).trans (Bool.and_false _).symm, fun other => ?_⟩
    rw [proper'.covers_iff_corners, ← and_assoc, ← lower other]
    exact upper other

theorem Proper.bounds_growBox {property : α → Prop} {b c : Box α} (proper : b.Proper) (proper' : c.Proper)
    (bounds : b.Bounds property) (bounds' : c.Bounds property) : (b.growBox c).Bounds property := by
  cases c with
  | empty => exact bounds
  | span minX minY maxX maxY =>
    obtain ⟨left, right⟩ := Lawful.le_refl proper'.1
    obtain ⟨below, above⟩ := Lawful.le_refl proper'.2
    obtain ⟨first, _⟩ := proper.grow (p := ⟨minX, minY⟩) left below
    exact first.bounds_grow (proper.bounds_grow bounds left below bounds'.1) right above bounds'.2

theorem Proper.growBy {b : Box α} (proper : b.Proper) {g : Growth α} (finite : g.Finite) :
    (b.growBy g).Proper ∧ (b.growBy g).isEmpty = (b.isEmpty && g.isNothing) ∧
      ∀ other : Box α, other.Covers (b.growBy g) ↔ other.Covers b ∧ g.Within other := by
  cases g with
  | point p =>
    obtain ⟨grown, covers⟩ :=
      proper.grow (Lawful.le_refl_of_isFinite finite.1) (Lawful.le_refl_of_isFinite finite.2)
    exact ⟨grown, (isEmpty_grow_eq_false b p).trans (Bool.and_false _).symm, covers⟩
  | box c => exact proper.growBox finite.1

theorem Proper.growAll {b : Box α} (proper : b.Proper) {gs : List (Growth α)}
    (finite : ∀ g ∈ gs, g.Finite) :
    (b.growAll gs).Proper ∧ (b.growAll gs).isEmpty = (b.isEmpty && gs.all Growth.isNothing) ∧
      ∀ other : Box α, other.Covers (b.growAll gs) ↔ other.Covers b ∧ ∀ g ∈ gs, g.Within other := by
  induction gs generalizing b with
  | nil => exact ⟨proper, (Bool.and_true _).symm, fun other => by simp [Box.growAll]⟩
  | cons g gs ih =>
    rw [List.forall_mem_cons] at finite
    obtain ⟨first, isEmpty, covers⟩ := proper.growBy finite.1
    obtain ⟨all, isEmpty', covers'⟩ := ih first finite.2
    refine ⟨all, ?_, fun other => ?_⟩
    · rw [List.all_cons, ← Bool.and_assoc, ← isEmpty]
      exact isEmpty'
    · rw [List.forall_mem_cons, ← and_assoc, ← covers other]
      exact covers' other

/-- What a box is after it has been grown: the least box that contains what it was before and all that
was added. -/
structure IsJoin (result initial : Box α) (gs : List (Growth α)) : Prop where
  isEmpty_iff : result.isEmpty = true ↔ initial.isEmpty = true ∧ ∀ g ∈ gs, g.isNothing = true
  proper : result.Proper
  covers_initial : result.Covers initial
  covers_added : ∀ g ∈ gs, g.Within result
  least : ∀ other : Box α, other.Covers initial → (∀ g ∈ gs, g.Within other) → other.Covers result

theorem Proper.isJoin_growAll {b : Box α} (proper : b.Proper) {gs : List (Growth α)}
    (finite : ∀ g ∈ gs, g.Finite) : (b.growAll gs).IsJoin b gs := by
  obtain ⟨all, isEmpty, covers⟩ := proper.growAll finite
  obtain ⟨initial, added⟩ := (covers _).mp (.refl _)
  refine ⟨?_, all, initial, added, fun other initial added => (covers other).mpr ⟨initial, added⟩⟩
  rw [isEmpty, Bool.and_eq_true, List.all_eq_true]

/-- Neither order nor repetition matters. -/
theorem Proper.same_growAll {b : Box α} (proper : b.Proper) {gs hs : List (Growth α)}
    (finite : ∀ g ∈ gs, g.Finite) (alike : ∀ g, g ∈ hs ↔ g ∈ gs) :
    (b.growAll hs).same (b.growAll gs) = true := by
  obtain ⟨one, _, covers⟩ := proper.growAll finite
  obtain ⟨two, _, covers'⟩ := proper.growAll fun g added => finite g ((alike g).mp added)
  refine two.same_of_covers_iff one fun other => ?_
  rw [covers, covers']
  simp only [alike]

omit [Lawful α] in
theorem ofPoints_eq (ps : List (Point α)) : ofPoints ps = growAll empty (ps.map .point) :=
  (List.foldl_map (f := Growth.point) (g := growBy)).symm

theorem covers_ofPoints_iff {ps : List (Point α)} (finite : ∀ p ∈ ps, FinitePoint p) :
    (ofPoints ps).Proper ∧
      ∀ other : Box α, other.Covers (ofPoints ps) ↔ ∀ p ∈ ps, other.contains p = true := by
  have added : ∀ g ∈ ps.map Growth.point, g.Finite := List.forall_mem_map.mpr finite
  obtain ⟨proper, _, covers⟩ := Proper.growAll (b := empty) trivial added
  rw [ofPoints_eq]
  refine ⟨proper, fun other => (covers other).trans ?_⟩
  rw [List.forall_mem_map]
  exact and_iff_right (covers_empty other)

/-- The box of some points grown by that of others is the box of them all. -/
theorem same_ofPoints_append {ps qs : List (Point α)} (finite : ∀ p ∈ ps ++ qs, FinitePoint p) :
    ((ofPoints ps).growBox (ofPoints qs)).same (ofPoints (ps ++ qs)) = true := by
  obtain ⟨all, covers⟩ := covers_ofPoints_iff finite
  rw [List.forall_mem_append] at finite
  obtain ⟨first, covers₁⟩ := covers_ofPoints_iff finite.1
  obtain ⟨second, covers₂⟩ := covers_ofPoints_iff finite.2
  obtain ⟨both, _, covers'⟩ := first.growBox second
  refine both.same_of_covers_iff all fun other => ?_
  rw [covers', covers, covers₁, covers₂, List.forall_mem_append]

/-! ### Boxes of doubles as four bounds

Among doubles a box without points has bounds too: infinite ones, the wrong way around. They lose against
every coordinate, so there, too, growing takes the lesser and the greater bounds. -/

theorem least_unbounded (x : Float) : least Scalar.unbounded x = x := by
  have number : (Scalar.unbounded : Float) ≤ Scalar.unbounded := by decide +kernel
  unfold least
  by_cases below : Scalar.unbounded ≤ x
  · rw [if_pos below]
    have top : Double.place Scalar.unbounded = Decimal.infinityBits := by decide +kernel
    have positive : 0 < Decimal.infinityBits := by decide
    have size := Double.natAbs_place x
    rw [Double.le_iff] at below
    exact Double.eq_of_place (by omega) (by omega)
  · rw [if_neg below, if_pos number]

theorem greatest_unbounded (x : Float) : greatest (-Scalar.unbounded) x = x := by
  have number : (-Scalar.unbounded : Float) ≤ -Scalar.unbounded := by decide +kernel
  unfold greatest
  by_cases above : x ≤ -Scalar.unbounded
  · rw [if_pos above]
    have bottom : Double.place (-Scalar.unbounded) = -Decimal.infinityBits := by decide +kernel
    have positive : 0 < Decimal.infinityBits := by decide
    have size := Double.natAbs_place x
    rw [Double.le_iff] at above
    exact Double.eq_of_place (by omega) (by omega)
  · rw [if_neg above, if_pos number]

theorem bounds_of_grow (b : Box Float) (p : Point Float) :
    (b.grow p).lower = ⟨least b.minX p.x, least b.minY p.y⟩ ∧
      (b.grow p).upper = ⟨greatest b.maxX p.x, greatest b.maxY p.y⟩ := by
  cases b with
  | empty => simp only [grow, lower, upper, minX, minY, maxX, maxY, least_unbounded, greatest_unbounded, and_self]
  | span => exact ⟨rfl, rfl⟩

theorem Proper.isEmpty_iff {b : Box Float} (proper : b.Proper) :
    b.isEmpty = true ↔ b.maxX < b.minX ∨ b.maxY < b.minY := by
  cases b with
  | empty => exact ⟨fun _ => .inl (by decide +kernel), fun _ => rfl⟩
  | span =>
    obtain ⟨x, y⟩ := proper
    simp only [isEmpty, minX, minY, maxX, maxY, Bool.false_eq_true, false_iff, not_or]
    rw [Double.le_iff] at x y
    rw [Double.lt_iff, Double.lt_iff]
    omega

/-! ### Whole bounds -/

/-- The least box with whole bounds that contains a box. -/
structure IsLeastWhole (whole b : Box α) : Prop where
  isEmpty : whole.isEmpty = b.isEmpty
  proper : whole.Proper
  bounds : whole.WholeBounds
  covers : whole.Covers b
  least : ∀ other : Box α, other.WholeBounds → other.Covers b → other.Covers whole

omit [Lawful α] in
theorem IsLeastWhole.covers_iff {whole b other : Box α} (leastWhole : whole.IsLeastWhole b)
    (bounds : other.WholeBounds) : other.Covers whole ↔ other.Covers b :=
  ⟨fun covers => covers.trans leastWhole.covers, leastWhole.least other bounds⟩

omit [Lawful α] in
theorem growToInt_of_wholeParts {a b c d : α} {x₀ y₀ x₁ y₁ : Int} (left : Scalar.floor? a = .ok x₀)
    (below : Scalar.floor? b = .ok y₀) (right : Scalar.ceil? c = .ok x₁) (above : Scalar.ceil? d = .ok y₁) :
    (span a b c d).growToInt =
      ofBounds (Scalar.ofInt x₀) (Scalar.ofInt y₀) (Scalar.ofInt x₁) (Scalar.ofInt y₁) := by
  simp only [growToInt, wholeBelow, wholeAbove, left, below, right, above]
  rfl

theorem isWhole_ofInt {n : Int} (integer : Scalar.IsInteger α n) (number : (Scalar.ofInt n : α) ≤ Scalar.ofInt n) :
    IsWhole (Scalar.ofInt n : α) :=
  ⟨n, integer.floor, Lawful.beq_iff.mpr ⟨number, number⟩⟩

/-- A box with finite bounds has a least box with whole bounds around it, which stays as it is. -/
theorem Proper.exists_growToInt {b : Box α} (proper : b.Proper) (finite : b.FiniteBounds) :
    ∃ whole, b.growToInt = .ok whole ∧ whole.IsLeastWhole b ∧ whole.growToInt = .ok whole := by
  cases b with
  | empty =>
    exact ⟨empty, rfl, ⟨rfl, trivial, trivial, .refl empty, fun other _ => id⟩, rfl⟩
  | span a b c d =>
    obtain ⟨x₀, left, integerX₀, leX₀, leastX₀⟩ := Lawful.exists_floor finite.1.1
    obtain ⟨y₀, below, integerY₀, leY₀, leastY₀⟩ := Lawful.exists_floor finite.1.2
    obtain ⟨x₁, right, integerX₁, leX₁, leastX₁⟩ := Lawful.exists_ceil finite.2.1
    obtain ⟨y₁, above, integerY₁, leY₁, leastY₁⟩ := Lawful.exists_ceil finite.2.2
    have proper' : (span (Scalar.ofInt x₀ : α) (Scalar.ofInt y₀) (Scalar.ofInt x₁) (Scalar.ofInt y₁)).Proper :=
      ⟨Lawful.le_trans leX₀ (Lawful.le_trans proper.1 leX₁),
        Lawful.le_trans leY₀ (Lawful.le_trans proper.2 leY₁)⟩
    have made := ofBounds_eq_ok_iff.mpr ⟨rfl, proper'⟩
    refine ⟨_, (growToInt_of_wholeParts left below right above).trans made, ⟨rfl, proper', ?_, ?_, ?_⟩,
      (growToInt_of_wholeParts integerX₀.floor integerY₀.floor integerX₁.ceil integerY₁.ceil).trans made⟩
    · exact ⟨⟨isWhole_ofInt integerX₀ (Lawful.le_refl leX₀).1, isWhole_ofInt integerY₀ (Lawful.le_refl leY₀).1⟩,
        isWhole_ofInt integerX₁ (Lawful.le_refl leX₁).2, isWhole_ofInt integerY₁ (Lawful.le_refl leY₁).2⟩
    · exact proper.covers_iff.mpr ⟨⟨leX₀, leX₁⟩, leY₀, leY₁⟩
    · intro other bounds covers
      cases other with
      | empty => exact absurd covers proper.not_covered
      | span =>
        obtain ⟨⟨left, right⟩, below, above⟩ := proper.covers_iff.mp covers
        exact proper'.covers_iff.mpr ⟨⟨leastX₀ _ bounds.1.1 left, leastX₁ _ bounds.2.1 right⟩,
          leastY₀ _ bounds.1.2 below, leastY₁ _ bounds.2.2 above⟩

theorem isFinite_of_isWhole {a : α} (whole : IsWhole a) : Scalar.isFinite a = true := by
  obtain ⟨n, floor, same⟩ := whole
  by_contra infinite
  have number := (Lawful.le_refl (Lawful.beq_iff.mp same).1).2
  rw [(Lawful.infinite number (Bool.not_eq_true _ ▸ infinite)).1] at floor
  contradiction

/-- Only infinite numbers lack whole parts. -/
theorem wholeBelow_cases {a : α} (number : a ≤ a) :
    (Scalar.isFinite a = true ∧ ∃ n, wholeBelow a = .ok n) ∨ wholeBelow a = .error .infiniteWhole := by
  cases finite : Scalar.isFinite a with
  | true =>
    obtain ⟨n, floor, _⟩ := Lawful.exists_floor finite
    exact .inl ⟨rfl, n, congrArg (·.mapError wholeFault) floor⟩
  | false => exact .inr (congrArg (·.mapError wholeFault) (Lawful.infinite number finite).1)

theorem wholeAbove_cases {a : α} (number : a ≤ a) :
    (Scalar.isFinite a = true ∧ ∃ n, wholeAbove a = .ok n) ∨ wholeAbove a = .error .infiniteWhole := by
  cases finite : Scalar.isFinite a with
  | true =>
    obtain ⟨n, ceil, _⟩ := Lawful.exists_ceil finite
    exact .inl ⟨rfl, n, congrArg (·.mapError wholeFault) ceil⟩
  | false => exact .inr (congrArg (·.mapError wholeFault) (Lawful.infinite number finite).2)

/-- A box with an infinite bound lies in no box with whole bounds, and growing it to one is refused. -/
theorem Proper.growToInt_of_infinite {b : Box α} (proper : b.Proper) (infinite : ¬ b.FiniteBounds) :
    b.growToInt = .error .infiniteWhole ∧ ∀ other : Box α, other.WholeBounds → ¬ other.Covers b := by
  cases b with
  | empty => exact absurd trivial infinite
  | span a b c d =>
    obtain ⟨left, right⟩ := Lawful.le_refl proper.1
    obtain ⟨below, above⟩ := Lawful.le_refl proper.2
    refine ⟨?_, ?_⟩
    · -- the bounds are taken in turn, and the first that is infinite ends it
      unfold growToInt
      rcases wholeBelow_cases left with ⟨finiteA, _, isA⟩ | isA
      · rcases wholeBelow_cases below with ⟨finiteB, _, isB⟩ | isB
        · rcases wholeAbove_cases right with ⟨finiteC, _, isC⟩ | isC
          · rcases wholeAbove_cases above with ⟨finiteD, _, _⟩ | isD
            · exact absurd ⟨⟨finiteA, finiteB⟩, finiteC, finiteD⟩ infinite
            · simp only [isA, isB, isC, isD, bind, Except.bind]
          · simp only [isA, isB, isC, bind, Except.bind]
        · simp only [isA, isB, bind, Except.bind]
      · simp only [isA, bind, Except.bind]
    · intro other bounds covers
      cases other with
      | empty => exact proper.not_covered covers
      | span =>
        obtain ⟨⟨left, right⟩, below, above⟩ := proper.covers_iff.mp covers
        have within {a b c : α} (least : IsWhole a) (first : a ≤ b) (second : b ≤ c) (greatest : IsWhole c) :
            Scalar.isFinite b = true :=
          Lawful.isFinite_of_between (isFinite_of_isWhole least) first second (isFinite_of_isWhole greatest)
        apply infinite
        exact ⟨⟨within bounds.1.1 left (Lawful.le_trans proper.1 right) bounds.2.1,
            within bounds.1.2 below (Lawful.le_trans proper.2 above) bounds.2.2⟩,
          within bounds.1.1 (Lawful.le_trans left proper.1) right bounds.2.1,
          within bounds.1.2 (Lawful.le_trans below proper.2) above bounds.2.2⟩

/-- Growing to whole bounds is monotone, and may be done before or after joining two boxes. -/
theorem Proper.growToInt_growBox {b c : Box α} (proper : b.Proper) (proper' : c.Proper)
    (finite : b.FiniteBounds) (finite' : c.FiniteBounds) :
    ∃ wholeB wholeC both, b.growToInt = .ok wholeB ∧ c.growToInt = .ok wholeC ∧
      (b.growBox c).growToInt = .ok both ∧ (c.Covers b → wholeC.Covers wholeB) ∧
      both.same (wholeB.growBox wholeC) = true := by
  obtain ⟨wholeB, grownB, leastB, _⟩ := proper.exists_growToInt finite
  obtain ⟨wholeC, grownC, leastC, _⟩ := proper'.exists_growToInt finite'
  obtain ⟨joined, _, covers⟩ := proper.growBox proper'
  obtain ⟨both, grown, least, _⟩ := joined.exists_growToInt (proper.bounds_growBox proper' finite finite')
  obtain ⟨joined', _, covers'⟩ := leastB.proper.growBox leastC.proper
  have bounds : (wholeB.growBox wholeC).WholeBounds :=
    leastB.proper.bounds_growBox leastC.proper leastB.bounds leastC.bounds
  refine ⟨wholeB, wholeC, both, grownB, grownC, grown, ?_, ?_⟩
  · intro within
    exact (leastB.covers_iff leastC.bounds).mpr (leastC.covers.trans within)
  · have alike {other : Box α} (whole : other.WholeBounds) :
        other.Covers both ↔ other.Covers (wholeB.growBox wholeC) := by
      rw [least.covers_iff whole, covers, covers', leastB.covers_iff whole, leastC.covers_iff whole]
    exact least.proper.same_of_covers joined' ((alike least.bounds).mp (.refl both))
      ((alike bounds).mpr (.refl _))

/-- A box is the join of what it was and of all that it has been grown by, and growing it to whole bounds
is taking the least box with whole bounds around it. -/
theorem growing_is_joining :
    (∀ (b : Box α) (gs : List (Growth α)), b.Proper → (∀ g ∈ gs, g.Finite) → (b.growAll gs).IsJoin b gs ∧
      ∀ hs, (∀ g, g ∈ hs ↔ g ∈ gs) → (b.growAll hs).same (b.growAll gs) = true) ∧
    (∀ ps qs : List (Point α), (∀ p ∈ ps ++ qs, FinitePoint p) →
      ((ofPoints ps).growBox (ofPoints qs)).same (ofPoints (ps ++ qs)) = true) ∧
    (∀ b : Box α, b.Proper → b.FiniteBounds →
      ∃ whole, b.growToInt = .ok whole ∧ whole.IsLeastWhole b ∧ whole.growToInt = .ok whole) ∧
    (∀ b : Box α, b.Proper → ¬ b.FiniteBounds →
      b.growToInt = .error .infiniteWhole ∧ ∀ other : Box α, other.WholeBounds → ¬ other.Covers b) ∧
    ∀ b c : Box α, b.Proper → c.Proper → b.FiniteBounds → c.FiniteBounds →
      ∃ wholeB wholeC both, b.growToInt = .ok wholeB ∧ c.growToInt = .ok wholeC ∧
        (b.growBox c).growToInt = .ok both ∧ (c.Covers b → wholeC.Covers wholeB) ∧
        both.same (wholeB.growBox wholeC) = true := by
  refine ⟨?_, ?_, ?_, ?_, ?_⟩
  · intro b gs proper finite
    exact ⟨proper.isJoin_growAll finite, fun hs alike => proper.same_growAll finite alike⟩
  · intro ps qs finite
    exact same_ofPoints_append finite
  · intro b proper finite
    exact proper.exists_growToInt finite
  · intro b proper infinite
    exact proper.growToInt_of_infinite infinite
  · intro b c proper proper' finite finite'
    exact proper.growToInt_growBox proper' finite finite'

/-- A box of doubles that is unbounded on one side, grown by a point and by nothing; points apart; and
boxes grown to whole bounds. -/
theorem growing_is_joining_of_doubles :
    (growAll (span (-1.0 / 0.0) 0.0 2.5 1.5 : Box Float)
        [.point ⟨3.25, -0.5⟩, .box .empty, .box (span 0.25 0.5 0.5 0.75)]).IsJoin (span (-1.0 / 0.0) 0.0 2.5 1.5)
        [.point ⟨3.25, -0.5⟩, .box .empty, .box (span 0.25 0.5 0.5 0.75)] ∧
      ((ofPoints [⟨0.1, 2.0⟩]).growBox (ofPoints [⟨0.3, -1.0⟩])).same
        (ofPoints [(⟨0.1, 2.0⟩ : Point Float), ⟨0.3, -1.0⟩]) = true ∧
      (∃ whole, (span 0.25 (-0.5) 2.5 1.5 : Box Float).growToInt = .ok whole ∧
        whole.IsLeastWhole (span 0.25 (-0.5) 2.5 1.5) ∧ whole.growToInt = .ok whole) ∧
      (span (-1.0 / 0.0) 0.0 2.5 1.5 : Box Float).growToInt = .error .infiniteWhole ∧
      ∃ wholeB wholeC both, (span 0.25 0.5 0.5 0.75 : Box Float).growToInt = .ok wholeB ∧
        (span 0.25 (-0.5) 2.5 1.5 : Box Float).growToInt = .ok wholeC ∧
        ((span 0.25 0.5 0.5 0.75 : Box Float).growBox (span 0.25 (-0.5) 2.5 1.5)).growToInt = .ok both ∧
        wholeC.Covers wholeB ∧ both.same (wholeB.growBox wholeC) = true := by
  obtain ⟨joins, points, whole, infinite, both⟩ := growing_is_joining (α := Float)
  have unbounded : (span (-1.0 / 0.0) 0.0 2.5 1.5 : Box Float).Proper := ⟨by decide +kernel, by decide +kernel⟩
  have outer : (span 0.25 (-0.5) 2.5 1.5 : Box Float).Proper := ⟨by decide +kernel, by decide +kernel⟩
  have inner : (span 0.25 0.5 0.5 0.75 : Box Float).Proper := ⟨by decide +kernel, by decide +kernel⟩
  have outerFinite : (span 0.25 (-0.5) 2.5 1.5 : Box Float).FiniteBounds :=
    ⟨⟨by decide +kernel, by decide +kernel⟩, by decide +kernel, by decide +kernel⟩
  have innerFinite : (span 0.25 0.5 0.5 0.75 : Box Float).FiniteBounds :=
    ⟨⟨by decide +kernel, by decide +kernel⟩, by decide +kernel, by decide +kernel⟩
  have within : (span 0.25 (-0.5) 2.5 1.5 : Box Float).Covers (span 0.25 0.5 0.5 0.75) :=
    inner.covers_iff.mpr ⟨⟨by decide +kernel, by decide +kernel⟩, by decide +kernel, by decide +kernel⟩
  refine ⟨(joins _ _ unbounded ?_).1, points _ _ ?_, whole _ outer outerFinite, (infinite _ unbounded ?_).1, ?_⟩
  · simp only [List.forall_mem_cons, List.not_mem_nil, false_imp_iff, implies_true, and_true]
    exact ⟨⟨by decide +kernel, by decide +kernel⟩, ⟨trivial, trivial⟩, inner, innerFinite⟩
  · simp only [List.cons_append, List.nil_append, List.forall_mem_cons, List.not_mem_nil, false_imp_iff,
      implies_true, and_true]
    exact ⟨⟨by decide +kernel, by decide +kernel⟩, by decide +kernel, by decide +kernel⟩
  · exact fun finite => absurd finite.1.1 (by decide +kernel)
  · obtain ⟨wholeB, wholeC, joined, grownB, grownC, grown, monotone, same⟩ :=
      both _ _ inner outer innerFinite outerFinite
    exact ⟨wholeB, wholeC, joined, grownB, grownC, grown, monotone within, same⟩

end GeoRaster.Box

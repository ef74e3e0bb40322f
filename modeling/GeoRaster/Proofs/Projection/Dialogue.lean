import GeoRaster.Projection.Dialogue

/-! What comes of dialogues, and what they ask. A sequence of dialogues asks what its parts ask, one
after another. An engine's dialogues come to what the engine computes, and they put the one
question that its provider remembers, or none where coordinates stand for themselves. -/
namespace GeoRaster.Projection

namespace Dialogue

variable {α β γ : Type} (e : Evaluator α)

@[simp] theorem result_pure (b : β) : (pure b : Dialogue α β).result e = b :=
  rfl

@[simp] theorem questions_pure (b : β) : (pure b : Dialogue α β).questions e = [] :=
  rfl

@[simp] theorem result_bind (d : Dialogue α β) (f : β → Dialogue α γ) :
    (d >>= f).result e = (f (d.result e)).result e := by
  show (d.andThen f).result e = _
  induction d with
  | done b => rfl
  | ask q next ih => exact ih (e.reply q)

@[simp] theorem questions_bind (d : Dialogue α β) (f : β → Dialogue α γ) :
    (d >>= f).questions e = d.questions e ++ (f (d.result e)).questions e := by
  show (d.andThen f).questions e = _
  induction d with
  | done b => rfl
  | ask q next ih => exact congrArg (q :: ·) (ih (e.reply q))

@[simp] theorem result_map (f : β → γ) (d : Dialogue α β) : (f <$> d).result e = f (d.result e) :=
  result_bind e d fun b => pure (f b)

@[simp] theorem questions_map (f : β → γ) (d : Dialogue α β) :
    (f <$> d).questions e = d.questions e := by
  show (d >>= fun b => pure (f b)).questions e = _
  rw [questions_bind, questions_pure, List.append_nil]

theorem result_each (f : β → Dialogue α γ) (bs : List β) :
    (each f bs).result e = bs.map fun b => (f b).result e := by
  induction bs with
  | nil => rfl
  | cons b rest ih => simp [each, ih]

theorem questions_each (f : β → Dialogue α γ) (bs : List β) :
    (each f bs).questions e = bs.flatMap fun b => (f b).questions e := by
  induction bs with
  | nil => rfl
  | cons b rest ih => simp [each, ih]

end Dialogue

namespace Engine

variable {α β : Type} [Scalar α] {e : Engine α}

theorem question?_of_unprojected (unprojected : e.isProjected = false) (direction : Direction)
    (coordinate : List α) : e.question? direction coordinate = none := by
  unfold question?
  rw [unprojected]
  rfl

theorem question?_forward (projected : e.isProjected = true) (lonLat : Point α) :
    e.question? .forward lonLat.toList = some (angles lonLat) := by
  unfold question?
  rw [if_pos projected]
  rfl

theorem question?_inverse (projected : e.isProjected = true) (point : Point α) :
    e.question? .inverse point.toList = some point := by
  unfold question?
  rw [if_pos projected]
  rfl

theorem asks_of_unprojected (unprojected : e.isProjected = false) (direction : Direction)
    (p : Point α) : e.asks direction p = [] := by
  rw [asks, question?_of_unprojected unprojected]
  rfl

theorem asks_forward (projected : e.isProjected = true) (lonLat : Point α) :
    e.asks .forward lonLat = [⟨.forward, angles lonLat⟩] := by
  rw [asks, question?_forward projected]
  rfl

theorem asks_inverse (projected : e.isProjected = true) (point : Point α) :
    e.asks .inverse point = [⟨.inverse, point⟩] := by
  rw [asks, question?_inverse projected]
  rfl

variable (e)

@[simp] theorem questions_consult (v : Evaluator α) (direction : Direction) (p : Point α)
    (make : Evaluation α → β) (unasked : β) :
    (e.consult direction p make unasked).questions v = e.asks direction p := by
  unfold consult asks
  cases e.question? direction p.toList <;> rfl

theorem result_consult_forward (lonLat : Point α) (make : Evaluation α → β) (unasked : β) :
    (e.consult .forward lonLat make unasked).result e.session.evaluator =
      if e.isProjected then make (e.session.evaluator.forward (angles lonLat)) else unasked := by
  unfold consult
  cases projected : e.isProjected with
  | false => rw [question?_of_unprojected projected]; rfl
  | true => rw [question?_forward projected]; rfl

theorem result_consult_inverse (point : Point α) (make : Evaluation α → β) (unasked : β) :
    (e.consult .inverse point make unasked).result e.session.evaluator =
      if e.isProjected then make (e.session.evaluator.inverse point) else unasked := by
  unfold consult
  cases projected : e.isProjected with
  | false => rw [question?_of_unprojected projected]; rfl
  | true => rw [question?_inverse projected]; rfl

namespace InDialogue

@[simp] theorem result_forward (lonLat : Point α) :
    (forward e lonLat).result e.session.evaluator = e.forward lonLat :=
  result_consult_forward e lonLat _ _

@[simp] theorem result_tryForward (lonLat : Point α) :
    (tryForward e lonLat).result e.session.evaluator = e.tryForward lonLat :=
  result_consult_forward e lonLat _ _

@[simp] theorem result_inverse (point : Point α) :
    (inverse e point).result e.session.evaluator = e.inverse point :=
  result_consult_inverse e point _ _

@[simp] theorem result_tryInverse (point : Point α) :
    (tryInverse e point).result e.session.evaluator = e.tryInverse point :=
  result_consult_inverse e point _ _

variable (v : Evaluator α)

@[simp] theorem questions_forward (lonLat : Point α) :
    (forward e lonLat).questions v = e.asks .forward lonLat :=
  questions_consult e v _ _ _ _

@[simp] theorem questions_tryForward (lonLat : Point α) :
    (tryForward e lonLat).questions v = e.asks .forward lonLat :=
  questions_consult e v _ _ _ _

@[simp] theorem questions_inverse (point : Point α) :
    (inverse e point).questions v = e.asks .inverse point :=
  questions_consult e v _ _ _ _

@[simp] theorem questions_tryInverse (point : Point α) :
    (tryInverse e point).questions v = e.asks .inverse point :=
  questions_consult e v _ _ _ _

end InDialogue

end Engine

end GeoRaster.Projection

import GeoRaster.Projection.Engine

/-! Conversions as dialogues with a provider. A dialogue is done, or it puts a question to the provider
and goes on with the answer. It learns nothing about the provider in any other way, so its questions
are all that the provider sees of a conversion, and an evaluator is all it takes to hold it. -/
namespace GeoRaster.Projection

/-- A point that a provider is asked to evaluate, and in which direction. -/
structure Question (α : Type) where
  direction : Engine.Direction
  point : Point α
deriving DecidableEq, Repr

variable {α β γ : Type}

def Evaluator.reply (e : Evaluator α) (q : Question α) : Evaluation α :=
  match q.direction with
  | .forward => e.forward q.point
  | .inverse => e.inverse q.point

inductive Dialogue (α β : Type) where
  | done (result : β)
  | ask (question : Question α) (next : Evaluation α → Dialogue α β)

namespace Dialogue

/-- Goes on with the result of a dialogue. -/
def andThen : Dialogue α β → (β → Dialogue α γ) → Dialogue α γ
  | done b, f => f b
  | ask q next, f => ask q fun answer => (next answer).andThen f

instance : Monad (Dialogue α) where
  pure := done
  bind := andThen

/-- What comes of a dialogue with an evaluator. -/
def result (e : Evaluator α) : Dialogue α β → β
  | done b => b
  | ask q next => (next (e.reply q)).result e

/-- What an evaluator is asked in a dialogue, in order. -/
def questions (e : Evaluator α) : Dialogue α β → List (Question α)
  | done _ => []
  | ask q next => q :: (next (e.reply q)).questions e

/-- The dialogues for the items of a list, one after another. -/
def each (f : β → Dialogue α γ) : List β → Dialogue α (List γ)
  | [] => return []
  | b :: rest => do
    let c ← f b
    let cs ← each f rest
    return c :: cs

end Dialogue

namespace Engine

variable [Scalar α]

/-- What an engine asks its provider about a point, if anything. -/
def asks (e : Engine α) (direction : Direction) (p : Point α) : List (Question α) :=
  ((e.question? direction p.toList).map fun asked => ⟨direction, asked⟩).toList

/-- Asks the provider about a point and makes something of the answer. Where coordinates stand for
themselves, what is to come of the point is given. -/
def consult (e : Engine α) (direction : Direction) (p : Point α) (make : Evaluation α → β)
    (unasked : β) : Dialogue α β :=
  match e.question? direction p.toList with
  | some asked => .ask ⟨direction, asked⟩ fun answer => .done (make answer)
  | none => .done unasked

namespace InDialogue

def forward (e : Engine α) (lonLat : Point α) : Dialogue α (Except Fault (Point α)) :=
  e.consult .forward lonLat
    (fun answer => answer.mapError fun reason => .notEvaluable reason
      (" (lon=" ++ Scalar.text lonLat.x ++ ", lat=" ++ Scalar.text lonLat.y ++ ")"))
    (.ok lonLat)

def tryForward (e : Engine α) (lonLat : Point α) : Dialogue α (Option (Point α)) :=
  e.consult .forward lonLat Except.toOption (some lonLat)

def inverse (e : Engine α) (point : Point α) : Dialogue α (Except Fault (Point α)) :=
  e.consult .inverse point (inverseAnswer point) (.ok point)

def tryInverse (e : Engine α) (point : Point α) : Dialogue α (Option (Point α)) :=
  e.consult .inverse point (fun answer => answer.toOption.map fun angles => angles.map Scalar.degrees)
    (some point)

end InDialogue

end Engine

end GeoRaster.Projection

import DavCourier.Calendar.Instant
import Mathlib.Order.Defs.LinearOrder

/-!
# The order of instants

One instant is before another by its seconds, and within a second by its part of it, where a leap
second comes last. `isUpTo` decides the opposite : `isUpTo_iff`.
-/

namespace DavCourier.Calendar.Instant

variable {a b c : Instant}

/-- The first instant is earlier than the second one. -/
def IsBefore (a b : Instant) : Prop :=
  a.seconds < b.seconds ∨ a.seconds = b.seconds ∧ a.nanos < b.nanos

instance (a b : Instant) : Decidable (a.IsBefore b) := by
  unfold IsBefore; infer_instance

theorem isUpTo_iff : a.isUpTo b = true ↔ ¬ b.IsBefore a := by
  simp only [isUpTo, IsBefore, Bool.or_eq_true, Bool.and_eq_true, decide_eq_true_eq, beq_iff_eq]
  omega

theorem IsBefore.trans (hab : a.IsBefore b) (hbc : b.IsBefore c) : a.IsBefore c := by
  unfold IsBefore at *
  omega

end DavCourier.Calendar.Instant

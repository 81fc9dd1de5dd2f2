import Mathlib.Logic.Basic

/-!
A loop of credits. A credit is held by the sender, on a message that is sent, owed
by the receiver for a message that is complete, or on its way back; each move
takes some credits from one of these places to the next. No move makes or loses a
credit (`Move.total`), so no place ever has more than the loop (`Loop.held_le` and
its siblings).
-/
namespace Rdma.CreditLoops

structure Loop where
  held : Nat
  sent : Nat
  owed : Nat
  returning : Nat
  deriving DecidableEq, Repr

/-- All credits of the loop. -/
def Loop.total (loop : Loop) : Nat := loop.held + loop.sent + loop.owed + loop.returning

theorem Loop.held_le (loop : Loop) : loop.held ≤ loop.total := by
  unfold Loop.total
  omega

theorem Loop.sent_le (loop : Loop) : loop.sent ≤ loop.total := by
  unfold Loop.total
  omega

theorem Loop.owed_le (loop : Loop) : loop.owed ≤ loop.total := by
  unfold Loop.total
  omega

inductive Move : Loop → Loop → Prop
  | idle (loop : Loop) : Move loop loop
  | send {loop : Loop} {count : Nat} (held : count ≤ loop.held) :
    Move loop { loop with held := loop.held - count, sent := loop.sent + count }
  | complete {loop : Loop} {count : Nat} (sent : count ≤ loop.sent) :
    Move loop { loop with sent := loop.sent - count, owed := loop.owed + count }
  | collect {loop : Loop} {count : Nat} (owed : count ≤ loop.owed) :
    Move loop { loop with owed := loop.owed - count, returning := loop.returning + count }
  | grant {loop : Loop} {count : Nat} (returning : count ≤ loop.returning) :
    Move loop { loop with returning := loop.returning - count, held := loop.held + count }

theorem Move.total {loop next : Loop} (move : Move loop next) : next.total = loop.total := by
  cases move with
  | idle => rfl
  | send held =>
    simp only [Loop.total]
    omega
  | complete sent =>
    simp only [Loop.total]
    omega
  | collect owed =>
    simp only [Loop.total]
    omega
  | grant returning =>
    simp only [Loop.total]
    omega

/-- There is room at the receiver for what arrives. -/
theorem Loop.complete_le {loop : Loop} {count : Nat} (sent : count ≤ loop.sent) :
    loop.owed + count ≤ loop.total := by
  rw [← (Move.complete sent).total]
  exact Loop.owed_le { loop with sent := loop.sent - count, owed := loop.owed + count }

/-- There is room at the sender for what comes back. -/
theorem Loop.grant_le {loop : Loop} {count : Nat} (returning : count ≤ loop.returning) :
    loop.held + count ≤ loop.total := by
  rw [← (Move.grant returning).total]
  exact Loop.held_le { loop with returning := loop.returning - count, held := loop.held + count }

end Rdma.CreditLoops

import Mathlib.Data.List.Basic

/-!
# Packets on two fifos

The words of the packets go to one fifo and their lengths to another. Who reads both
gets the packets back.
-/

namespace Clib

variable {α : Type}

/-- The packets of these lengths, when the words are just enough. -/
def unframe : List Nat → List α → Option (List (List α))
  | [], [] => some []
  | [], _ :: _ => none
  | n :: ns, ws =>
      if n ≤ ws.length then (unframe ns (ws.drop n)).map (ws.take n :: ·) else none

theorem unframe_packets (packets : List (List α)) :
    unframe (packets.map List.length) packets.flatten = some packets := by
  induction packets with
  | nil => rfl
  | cons p packets ih =>
    have hle : p.length ≤ (p ++ packets.flatten).length := by simp
    rw [List.map_cons, List.flatten_cons, unframe, if_pos hle, List.drop_left, List.take_left, ih,
      Option.map_some]

end Clib

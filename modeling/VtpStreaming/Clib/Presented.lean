import Mathlib.Data.List.Basic

/-!
# What is presented at a configuration port

Three pins, active low, and a data port. A trace of what drives them tells which words were
written while the port was selected for writing, since program was low the last time, and
whether the direction was changed under selection. What a device makes of the words is not
said here.
-/

namespace Clib

structure Pins where
  csiB : Bool
  rdwrB : Bool
  programB : Bool
deriving DecidableEq

/-- Selected for writing. -/
def Pins.Writes (p : Pins) : Prop := p.csiB = false ∧ p.rdwrB = false ∧ p.programB = true

instance (p : Pins) : Decidable p.Writes := inferInstanceAs (Decidable (_ ∧ _ ∧ _))

inductive PortEvent (α : Type)
  | drive (p : Pins)
  | word (w : α)

/-- The pins, the words since the last pulse of program, and whether the direction has
changed under selection since then. -/
structure Presented (α : Type) where
  pins : Pins
  words : List α
  turned : Bool

namespace Presented

variable {α : Type} {d : Presented α} {p : Pins}

def step (d : Presented α) : PortEvent α → Presented α
  | .drive p =>
      { pins := p
        words := if p.programB then d.words else []
        turned := p.programB && (d.turned ||
          (!d.pins.csiB && !p.csiB && d.pins.rdwrB != p.rdwrB)) }
  | .word w => if d.pins.Writes then { d with words := d.words ++ [w] } else d

def run (d : Presented α) (events : List (PortEvent α)) : Presented α := events.foldl step d

theorem run_append (d : Presented α) (events more : List (PortEvent α)) :
    d.run (events ++ more) = (d.run events).run more := List.foldl_append

/-- All words count on a selected port. -/
theorem run_words (h : d.pins.Writes) (ws : List α) :
    d.run (ws.map .word) = { d with words := d.words ++ ws } := by
  induction ws generalizing d with
  | nil => rw [List.append_nil]; rfl
  | cons w ws ih =>
    have hstep : d.step (.word w) = { d with words := d.words ++ [w] } := if_pos h
    have hrest := ih (d := { d with words := d.words ++ [w] }) h
    rw [List.append_assoc] at hrest
    show (d.step (.word w)).run (ws.map .word) = _
    rw [hstep]
    exact hrest

/-- Program starts over. -/
theorem step_program (h : p.programB = false) : d.step (.drive p) = ⟨p, [], false⟩ := by
  rw [step, h]
  rfl

/-- Pins that leave program and the direction alone leave the words alone. -/
theorem step_drive (hprogram : p.programB = true) (hdir : d.pins.rdwrB = p.rdwrB) :
    d.step (.drive p) = { d with pins := p } := by
  rw [step, hprogram, hdir, bne_self_eq_false, Bool.and_false, Bool.or_false]
  rfl

/-- So do pins that deselect the port. -/
theorem step_deselect (hprogram : p.programB = true) (hcsi : p.csiB = true) :
    d.step (.drive p) = { d with pins := p } := by
  rw [step, hprogram, hcsi, Bool.not_true, Bool.and_false, Bool.false_and, Bool.or_false]
  rfl

end Presented

end Clib

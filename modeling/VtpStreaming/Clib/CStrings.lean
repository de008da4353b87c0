import VtpStreaming.Clib.Buffer
import VtpStreaming.Clib.Print

/-!
# Strings in a buffer

A string in memory ends at its first zero byte. Texts are appended to it one
after the other, each only when it still fits into the buffer.
-/

namespace Clib

/-- The bytes of a text that is printed into memory, up to the first that ends it. -/
def cBytes (s : List Char) : List Byte :=
  (s.map fun c => BitVec.ofNat 8 c.toNat).takeWhile fun x => x ≠ 0#8

theorem cBytes_solid (s : List Char) : 0#8 ∉ cBytes s := by
  intro h
  have hne := List.mem_takeWhile_imp h
  exact absurd rfl (of_decide_eq_true hne)

namespace Buffer

variable {b : Buffer} {s t : List Byte} {ts : List (List Byte)} {length : Nat}

/-- The index of the first zero byte among `n` from `i` on. -/
def strlenFrom (b : Buffer) : Nat → Nat → Nat
  | 0, i => i
  | n + 1, i => if b.mem i = 0#8 then i else strlenFrom b n (i + 1)

/-- `strlen`. A string ends in the part that has been touched. -/
def strlen (b : Buffer) : Nat := b.strlenFrom b.top 0

/-- `strcat`. -/
def strcat (b : Buffer) (t : List Byte) : Buffer := b.setAll b.strlen (t ++ [0#8])

/-- Texts are appended while they fit. The first that does not is the end. -/
def addStrings (length : Nat) : List (List Byte) → Buffer → Buffer × Nat
  | [], b => (b, b.strlen)
  | t :: ts, b =>
      if b.strlen + t.length < length then addStrings length ts (b.strcat t) else (b, b.strlen)

/-- The buffer holds this string at its beginning. -/
structure Holds (b : Buffer) (s : List Byte) : Prop where
  bytes : b.block 0 s.length = s
  solid : 0#8 ∉ s
  ended : b.mem s.length = 0#8
  inside : s.length < b.top

theorem holds_nil (b : Buffer) : (b.set 0 0#8).Holds [] where
  bytes := rfl
  solid := List.not_mem_nil
  ended := set_mem_same
  inside := by
    show 0 < max b.top 1
    omega

/-- The byte at an index of the string. -/
theorem Holds.mem_eq (h : b.Holds s) {i : Nat} (hi : i < s.length) : b.mem i = s[i] := by
  have hget := congrArg (fun l => l[i]?) h.bytes
  simpa [block, hi] using hget

theorem Holds.strlen_eq (h : b.Holds s) : b.strlen = s.length := by
  have hscan : ∀ n i, i ≤ s.length → s.length < i + n → b.strlenFrom n i = s.length := by
    intro n
    induction n with
    | zero =>
      intro i hi hn
      omega
    | succ n ih =>
      intro i hi hn
      rw [strlenFrom]
      rcases Nat.lt_or_ge i s.length with hlt | hge
      · have hne : b.mem i ≠ 0#8 := by
          rw [h.mem_eq hlt]
          exact fun hzero => h.solid (hzero ▸ List.getElem_mem hlt)
        rw [if_neg hne]
        exact ih (i + 1) hlt (by omega)
      · have heq : i = s.length := Nat.le_antisymm hi hge
        rw [heq, if_pos h.ended]
  have hinside := h.inside
  exact hscan b.top 0 (Nat.zero_le _) (by omega)

theorem Holds.strcat (h : b.Holds s) (ht : 0#8 ∉ t) : (b.strcat t).Holds (s ++ t) := by
  have hstored : (b.strcat t).block s.length (t ++ [0#8]).length = t ++ [0#8] := by
    unfold Buffer.strcat
    rw [h.strlen_eq]
    exact block_setAll b s.length (t ++ [0#8])
  have hkept : (b.strcat t).block 0 s.length = s := by
    unfold Buffer.strcat
    rw [h.strlen_eq, block_setAll_outside (by omega), h.bytes]
  rw [List.length_append, block_append] at hstored
  obtain ⟨htext, hzero⟩ := List.append_inj hstored (block_length ..)
  constructor
  · rw [List.length_append, block_append, hkept, Nat.zero_add, htext]
  · exact fun hmem => (List.mem_append.mp hmem).elim h.solid ht
  · rw [List.length_append]
    simpa [block] using hzero
  · unfold Buffer.strcat
    rw [setAll_top, if_neg (by simp), h.strlen_eq]
    simp only [List.length_append, List.length_singleton]
    omega

theorem strcat_top (h : b.Holds s) (t : List Byte) :
    (b.strcat t).top = max b.top (s.length + t.length + 1) := by
  unfold Buffer.strcat
  rw [setAll_top, if_neg (by simp), h.strlen_eq, List.length_append]
  rfl

theorem strcat_mem_outside (h : b.Holds s) (t : List Byte) {j : Nat}
    (hj : s.length + t.length < j) : (b.strcat t).mem j = b.mem j := by
  unfold Buffer.strcat
  rw [h.strlen_eq, setAll_mem_outside]
  rw [List.length_append, List.length_singleton]
  omega

/-- What is left in the buffer: as many of the texts as fit, and not one more. -/
structure Fitted (length : Nat) (ts : List (List Byte)) (s : List Byte) (b : Buffer)
    (out : Buffer × Nat) (k : Nat) : Prop where
  holds : out.1.Holds (s ++ (ts.take k).flatten)
  len : out.2 = (s ++ (ts.take k).flatten).length
  fits : out.2 < length
  longest : ∀ m, m ≤ ts.length → (s ++ (ts.take m).flatten).length < length → m ≤ k
  outside : ∀ j, length ≤ j → out.1.mem j = b.mem j
  top : out.1.top ≤ max b.top length

theorem addStrings_fitted (h : b.Holds s) (hlen : s.length < length) (hts : ∀ t ∈ ts, 0#8 ∉ t) :
    ∃ k ≤ ts.length, Fitted length ts s b (addStrings length ts b) k := by
  induction ts generalizing b s with
  | nil =>
    refine ⟨0, Nat.le_refl _, ?_, ?_, ?_, fun m hm _ => hm, fun _ _ => rfl, Nat.le_max_left ..⟩
    · simpa [addStrings] using h
    · simpa [addStrings] using h.strlen_eq
    · simpa [addStrings, h.strlen_eq] using hlen
  | cons t ts ih =>
    rw [addStrings, h.strlen_eq]
    split
    · next hfit =>
      obtain ⟨k, hk, hrest⟩ := ih (h.strcat (hts t (by simp)))
        (by rw [List.length_append]; exact hfit) fun u hu => hts u (by simp [hu])
      have hflat : ∀ m, s ++ ((t :: ts).take (m + 1)).flatten = s ++ t ++ (ts.take m).flatten := by
        intro m
        rw [List.take_succ_cons, List.flatten_cons, List.append_assoc]
      refine ⟨k + 1, Nat.succ_le_succ hk, ?_, ?_, hrest.fits, ?_, ?_, ?_⟩
      · rw [hflat]
        exact hrest.holds
      · rw [hflat]
        exact hrest.len
      · intro m hm hshort
        cases m with
        | zero => exact Nat.zero_le _
        | succ m =>
          rw [hflat] at hshort
          exact Nat.succ_le_succ (hrest.longest m (Nat.le_of_succ_le_succ hm) hshort)
      · intro j hj
        rw [hrest.outside j hj, strcat_mem_outside h t (by omega)]
      · have htop := hrest.top
        rw [strcat_top h] at htop
        omega
    · next hfull =>
      -- the first item that does not fit ends the text, even if a later one would fit
      refine ⟨0, Nat.zero_le _, ?_, ?_, hlen, ?_, fun _ _ => rfl, Nat.le_max_left ..⟩
      · simpa using h
      · simp
      · intro m hm hshort
        cases m with
        | zero => exact Nat.le_refl _
        | succ m =>
          simp only [List.take_succ_cons, List.flatten_cons, List.length_append] at hshort
          omega

end Buffer

end Clib

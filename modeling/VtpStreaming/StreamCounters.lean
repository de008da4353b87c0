import VtpStreaming.StatsSender

/-!
# The counters of a stream

`vtp/vtpLib.c`, `vtpStreamingFramesSent`, `vtpStreamingBytesSent` and the counters in
`vtpStats`. Each of the two receive blocks counts for two streams.
-/

namespace VtpStreaming

open Clib

/-! ## The registers -/

/-- The counters of `EBIORX_REGS`. Each is an array of two ports with two words, the low
word first. -/
inductive CounterArray
  | pktsSent
  | framesSent
  | bytesSent
deriving DecidableEq

/-- The word of the block at which the array begins. -/
def CounterArray.start : CounterArray → Nat
  | pktsSent => 0xb0 / 4
  | framesSent => 0xc0 / 4
  | bytesSent => 0xd0 / 4

/-- The 0x100 bytes of a block in words, and the two blocks. -/
abbrev EbiorxRegs := Fin 64 → Word

abbrev Ebiorx := Fin 2 → EbiorxRegs

/-- An element of an array as the code names it. The port need not exist. -/
structure CounterAccess where
  array : CounterArray
  block : Fin 2
  port : Fin 4
  word : Fin 2
deriving DecidableEq

namespace CounterAccess

def InArray (a : CounterAccess) : Prop := a.port.val < 2

instance (a : CounterAccess) : Decidable a.InArray := inferInstanceAs (Decidable (_ < _))

/-- The word behind the start of the array, in the array or not. -/
def index (a : CounterAccess) : Fin 64 :=
  ⟨a.array.start + 2 * a.port.val + a.word.val, by
    have hport := a.port.isLt
    have hword := a.word.isLt
    cases a.array
    all_goals
      simp only [CounterArray.start]
      omega⟩

def read (a : CounterAccess) (rx : Ebiorx) : Word := rx a.block a.index

end CounterAccess

/-! ## The calls -/

/-- What `vtpStreamingFramesSent` reads. -/
def framesAccess (inst : Fin 4) : CounterAccess :=
  if inst.val = 0 ∨ inst.val = 1 then ⟨.framesSent, 0, inst, 0⟩ else ⟨.framesSent, 1, inst, 0⟩

/-- What `vtpStreamingBytesSent` reads into `bytes`. -/
def bytesAccess (inst : Fin 4) : Fin 2 → CounterAccess := fun _ =>
  if inst.val = 0 ∨ inst.val = 1 then ⟨.bytesSent, 0, inst, 0⟩ else ⟨.bytesSent, 1, inst - 2, 0⟩

/-- What `vtpStats` reads of an array for a stream. -/
def statsAccess (array : CounterArray) (i : Fin 4) (word : Fin 2) : CounterAccess :=
  if i.val = 0 ∨ i.val = 1 then ⟨array, 0, i, word⟩ else ⟨array, 1, i - 2, word⟩

/-- The counters that `vtpStats` collects. -/
structure StatsCounters where
  pSent : Fin 4 → Fin 2 → Word
  fSent : Fin 4 → Fin 2 → Word
  bSent : Fin 4 → Fin 2 → Word

def vtpStatsCounters (rx : Ebiorx) : StatsCounters where
  pSent i word := (statsAccess .pktsSent i word).read rx
  fSent i word := (statsAccess .framesSent i word).read rx
  bSent i word := (statsAccess .bytesSent i word).read rx

section

variable (lib : VtpLib) (rx : Ebiorx) (inst : Int)

def vtpStreamingFramesSent : Word :=
  if !lib.ready vtpFwTypeFadcstream 0 then BitVec.ofInt 32 error
  else if h : inst < 0 ∨ 3 < inst then 0xFFFFFFFF#32
  else (framesAccess ⟨inst.toNat, by omega⟩).read rx

def totalBytes (bytes : Fin 2 → Word) : DWord :=
  ((((bytes 1).setWidth 64 &&& 0x00000000FFFFFFFF#64) <<< 32) &&& 0xFFFFFFFF00000000#64) +
    (bytes 0).setWidth 64

def vtpStreamingBytesSent : DWord :=
  if !lib.ready vtpFwTypeFadcstream 0 then BitVec.ofInt 64 error
  else if h : inst < 0 ∨ 3 < inst then 0xFFFFFFFF#64
  else totalBytes fun word => (bytesAccess ⟨inst.toNat, by omega⟩ word).read rx

end

/-! ## What is asked of them -/

/-- Both calls report the counters that the status display shows for the stream, and no
element is read that its array does not have. -/
structure CountersAgree (lib : VtpLib) (rx : Ebiorx) (inst : Fin 4) : Prop where
  frames : vtpStreamingFramesSent lib rx inst.val = (vtpStatsCounters rx).fSent inst 0
  bytes : (vtpStreamingBytesSent lib rx inst.val).toNat =
    ((vtpStatsCounters rx).bSent inst 1).toNat * 2 ^ 32 + ((vtpStatsCounters rx).bSent inst 0).toNat
  inArrays : (framesAccess inst).InArray ∧ (∀ word, (bytesAccess inst word).InArray) ∧
    ∀ array word, (statsAccess array inst word).InArray

/-- `vtpStats` reads no element that its array does not have. -/
theorem statsAccess_inArray (array : CounterArray) (i : Fin 4) (word : Fin 2) :
    (statsAccess array i word).InArray := by
  rw [statsAccess]
  split
  · rename_i hlow
    show i.val < 2
    omega
  · rename_i hhigh
    have hle : 2 ≤ i := by
      show 2 ≤ i.val
      omega
    show (i - 2).val < 2
    rw [Fin.sub_val_of_le hle]
    show i.val - 2 < 2
    omega

theorem framesAccess_inArray (inst : Fin 4) : (framesAccess inst).InArray ↔ inst.val < 2 := by
  rw [framesAccess]
  split
  all_goals exact Iff.rfl

theorem framesAccess_eq {inst : Fin 4} (h : inst.val < 2) :
    framesAccess inst = statsAccess .framesSent inst 0 := by
  have hlow : inst.val = 0 ∨ inst.val = 1 := by omega
  rw [framesAccess, statsAccess, if_pos hlow, if_pos hlow]

theorem totalBytes_toNat (bytes : Fin 2 → Word) :
    (totalBytes bytes).toNat = (bytes 1).toNat * 2 ^ 32 + (bytes 0).toNat := by
  have hi := (bytes 1).isLt
  have hlo := (bytes 0).isLt
  have hhigh : (((bytes 1).setWidth 64 &&& 0x00000000FFFFFFFF#64) <<< 32) &&&
      0xFFFFFFFF00000000#64 = ((bytes 1).setWidth 64 <<< 32 : DWord) := by
    have hlow : (bytes 1).setWidth 64 &&& 0x00000000FFFFFFFF#64 = (bytes 1).setWidth 64 := by
      have hmask : (0x00000000FFFFFFFF#64 : DWord).toNat = 2 ^ 32 - 1 := rfl
      apply BitVec.eq_of_toNat_eq
      rw [BitVec.toNat_and, hmask, Nat.and_two_pow_sub_one_eq_mod, BitVec.toNat_setWidth]
      omega
    have hword : hi32 ((bytes 1).setWidth 64 <<< 32) = bytes 1 := by
      apply BitVec.eq_of_toNat_eq
      rw [hi32_toNat, BitVec.toNat_shiftLeft, BitVec.toNat_setWidth, Nat.shiftLeft_eq]
      omega
    rw [hlow]
    exact (and_highHalf _).trans (by rw [hword])
  rw [totalBytes, hhigh, BitVec.toNat_add, BitVec.toNat_shiftLeft, BitVec.toNat_setWidth,
    BitVec.toNat_setWidth, Nat.shiftLeft_eq]
  omega

section

variable {lib : VtpLib}

theorem vtpStreamingFramesSent_eq (ready : lib.ready vtpFwTypeFadcstream 0 = true) (rx : Ebiorx)
    (inst : Fin 4) : vtpStreamingFramesSent lib rx inst.val = (framesAccess inst).read rx := by
  have hlt := inst.isLt
  have hrange : ¬ ((inst.val : Int) < 0 ∨ 3 < (inst.val : Int)) := by omega
  rw [vtpStreamingFramesSent, ready, dif_neg hrange]
  rfl

theorem vtpStreamingBytesSent_eq (ready : lib.ready vtpFwTypeFadcstream 0 = true) (rx : Ebiorx)
    (inst : Fin 4) : vtpStreamingBytesSent lib rx inst.val =
      totalBytes fun _ => (vtpStatsCounters rx).bSent inst 0 := by
  have hlt := inst.isLt
  have hrange : ¬ ((inst.val : Int) < 0 ∨ 3 < (inst.val : Int)) := by omega
  rw [vtpStreamingBytesSent, ready, dif_neg hrange]
  rfl

end

/-- The counts are right for the first two streams, as long as the two words of the byte
counter are the same. -/
theorem counters_agree_iff (lib : VtpLib) (ready : lib.ready vtpFwTypeFadcstream 0 = true)
    (rx : Ebiorx) (inst : Fin 4) :
    CountersAgree lib rx inst ↔
      inst.val < 2 ∧
        (CounterAccess.mk .bytesSent 0 inst 1).read rx = (CounterAccess.mk .bytesSent 0 inst 0).read rx := by
  have hbytes := vtpStreamingBytesSent_eq ready rx inst
  constructor
  · rintro ⟨-, hcount, hframes, -, -⟩
    have hlow := (framesAccess_inArray inst).1 hframes
    have hfirst : inst.val = 0 ∨ inst.val = 1 := by omega
    rw [hbytes, totalBytes_toNat] at hcount
    simp only [vtpStatsCounters, statsAccess, if_pos hfirst] at hcount
    exact ⟨hlow, BitVec.eq_of_toNat_eq (by omega)⟩
  · rintro ⟨hlow, hwords⟩
    have hfirst : inst.val = 0 ∨ inst.val = 1 := by omega
    constructor
    · rw [vtpStreamingFramesSent_eq ready, framesAccess_eq hlow]
      rfl
    · rw [hbytes, totalBytes_toNat]
      simp only [vtpStatsCounters, statsAccess, if_pos hfirst, hwords]
    · exact ⟨(framesAccess_inArray inst).2 hlow, fun _ => statsAccess_inArray _ _ _,
        fun _ _ => statsAccess_inArray _ _ _⟩

/-- Counters that show the low word given, with the upper words zero. -/
def lowCounters (low : Word) : Ebiorx := fun _ i => if i.val % 2 = 0 then low else 0#32

theorem counters_agree_idle :
    streamingLib.ready vtpFwTypeFadcstream 0 = true ∧ CountersAgree streamingLib (lowCounters 0#32) 1 := by
  have ready : streamingLib.ready vtpFwTypeFadcstream 0 = true := rfl
  exact ⟨ready, (counters_agree_iff streamingLib ready (lowCounters 0#32) 1).2 (by decide)⟩

/-- On the first stream 5 bytes are reported as 5 * 2^32 + 5, and on the third the frames
are read from the counter of the bytes. -/
theorem counters_disagree :
    vtpStreamingBytesSent streamingLib (lowCounters 5#32) 0 = 0x500000005#64 ∧
      ¬ CountersAgree streamingLib (lowCounters 5#32) 0 ∧
      framesAccess 2 = ⟨.framesSent, 1, 2, 0⟩ ∧
      (framesAccess 2).index = (statsAccess .bytesSent 2 0).index ∧
      ¬ CountersAgree streamingLib (lowCounters 5#32) 2 := by
  have hbytes : vtpStreamingBytesSent streamingLib (lowCounters 5#32) 0 = 0x500000005#64 := by decide
  refine ⟨hbytes, fun h => ?_, rfl, rfl, fun h => ?_⟩
  · have hcount := h.bytes
    revert hcount
    decide
  · have hframes := h.inArrays.1
    revert hframes
    decide

end VtpStreaming

/-
The bytes of a character. The first byte of an encoding tells how many bytes it has, and each byte after it carries six more
bits of the character (`beginning`). So what some bytes have in common with the encodings that begin with them is the number
of bytes and the first bits (`determined_of_beginning`), and the reader needs to know no more than that: inside of an
encoding, its state accepts exactly the bytes by which some encoding goes on (`Begun.accepts_iff`).
-/
import Mathlib.Algebra.Group.Nat.Defs
import ScriptHost.Text.Utf8

namespace ScriptHost.Text

/-! ## Encodings -/

/-- the first byte of an encoding of a number of bytes, with the bits `n` -/
def leading (size n : Nat) : UInt8 :=
  match size with
  | 2 => UInt8.ofNat (0xC0 + n)
  | 3 => UInt8.ofNat (0xE0 + n)
  | 4 => UInt8.ofNat (0xF0 + n)
  | _ => UInt8.ofNat n

/-- the beginning of an encoding of `size` bytes: the first byte and `more` others, with the bits `n` in them -/
def beginning (size : Nat) : (more n : Nat) → List UInt8
  | 0, n => [leading size n]
  | more + 1, n => beginning size more (n / 64) ++ [UInt8.ofNat (0x80 + n % 64)]

@[simp] theorem length_beginning (size more n : Nat) : (beginning size more n).length = more + 1 := by
  induction more generalizing n with
  | zero => rfl
  | succ more ih => rw [beginning, List.length_append, ih, List.length_singleton]

/-- fewer bytes have fewer bits -/
theorem prefix_beginning (size more toCome n : Nat) :
    beginning size more (n / 64 ^ toCome) <+: beginning size (more + toCome) n := by
  induction toCome generalizing n with
  | zero =>
    rw [Nat.pow_zero, Nat.div_one]
    exact List.prefix_refl _
  | succ toCome ih =>
    have hdiv : n / 64 ^ (toCome + 1) = n / 64 / 64 ^ toCome := by rw [Nat.pow_succ', Nat.div_div_eq_div_mul]
    rw [hdiv]
    exact (ih (n / 64)).trans (List.prefix_append _ _)

theorem ofNat_inj_of_lt {a b : Nat} (ha : a < 256) (hb : b < 256) (h : UInt8.ofNat a = UInt8.ofNat b) : a = b := by
  have htoNat := congrArg UInt8.toNat h
  rwa [UInt8.toNat_ofNat_of_lt' ha, UInt8.toNat_ofNat_of_lt' hb] at htoNat

/-- the bits can be read off, if those of the first byte are known -/
theorem bits_of_beginning {size more n m : Nat} (hfirst : n / 64 ^ more = m / 64 ^ more)
    (h : beginning size more n = beginning size more m) : n = m := by
  induction more generalizing n m with
  | zero => simpa using hfirst
  | succ more ih =>
    obtain ⟨hinit, hlast⟩ := List.append_inj' h rfl
    have hlow : 0x80 + n % 64 = 0x80 + m % 64 :=
      ofNat_inj_of_lt (by omega) (by omega) (List.cons.inj hlast).1
    have hhigh : n / 64 = m / 64 := by
      refine ih ?_ hinit
      rwa [Nat.div_div_eq_div_mul, Nat.div_div_eq_div_mul, ← Nat.pow_succ']
    omega

/-! ## Characters by their numbers -/

theorem valid_toNat (c : Char) : c.toNat < 0xD800 ∨ 0xDFFF < c.toNat ∧ c.toNat < 0x110000 := c.valid

theorem toNat_ofNat {v : Nat} (h : v.isValidChar) : (Char.ofNat v).toNat = v := by
  rw [Char.ofNat, dif_pos h]
  rfl

/-- the size of an encoding -/
theorem utf8Size_eq (c : Char) : c.utf8Size =
    if c.toNat < 0x80 then 1 else if c.toNat < 0x800 then 2 else if c.toNat < 0x10000 then 3 else 4 := by
  have hbound (n : Nat) (hn : n < UInt32.size) : c.val ≤ UInt32.ofNatLT n hn ↔ c.toNat < n + 1 := by
    rw [UInt32.le_iff_toNat_le, UInt32.toNat_ofNatLT]
    exact Nat.lt_succ_iff.symm
  simp only [Char.utf8Size, hbound]

theorem utf8EncodeChar_eq (c : Char) :
    String.utf8EncodeChar c = beginning c.utf8Size (c.utf8Size - 1) c.toNat := by
  have htoNat : c.val.toNat = c.toNat := rfl
  have hvalid := valid_toNat c
  have hbyte (a b : Nat) (h : a = b) : UInt8.ofNat a = UInt8.ofNat b := congrArg _ h
  simp only [String.utf8EncodeChar, htoNat]
  rw [utf8Size_eq]
  split
  · rw [if_pos (by omega)]
    rfl
  · split
    · rw [if_neg (by omega), if_pos (by omega)]
      simp only [Nat.reduceSub, beginning, leading, List.cons_append, List.nil_append, List.cons.injEq, and_true]
      exact ⟨hbyte _ _ (by omega), hbyte _ _ (by omega)⟩
    · split
      · rw [if_neg (by omega), if_neg (by omega), if_pos (by omega)]
        simp only [Nat.reduceSub, beginning, leading, List.cons_append, List.nil_append, List.cons.injEq, and_true]
        exact ⟨hbyte _ _ (by omega), hbyte _ _ (by omega), hbyte _ _ (by omega)⟩
      · rw [if_neg (by omega), if_neg (by omega), if_neg (by omega)]
        simp only [Nat.reduceSub, beginning, leading, List.cons_append, List.nil_append, List.cons.injEq, and_true]
        exact ⟨hbyte _ _ (by omega), hbyte _ _ (by omega), hbyte _ _ (by omega), hbyte _ _ (by omega)⟩

/-! ## What the first bytes tell -/

/-- some character has an encoding of `size` bytes and the bits `n` in all bytes but the last `toCome` -/
def Reaches (size toCome n : Nat) : Prop := ∃ c : Char, c.utf8Size = size ∧ c.toNat / 64 ^ toCome = n

theorem Reaches.of_valid {size toCome n v : Nat} (hvalid : v.isValidChar)
    (hbounds : (size = 1 ∧ v < 0x80) ∨ (size = 2 ∧ 0x80 ≤ v ∧ v < 0x800) ∨ (size = 3 ∧ 0x800 ≤ v ∧ v < 0x10000) ∨
      (size = 4 ∧ 0x10000 ≤ v)) (hbits : v / 64 ^ toCome = n) : Reaches size toCome n := by
  have htoNat : (Char.ofNat v).toNat = v := toNat_ofNat hvalid
  refine ⟨Char.ofNat v, ?_, by rw [htoNat, hbits]⟩
  rw [utf8Size_eq, htoNat]
  rcases hbounds with ⟨rfl, hv⟩ | ⟨rfl, hv⟩ | ⟨rfl, hv⟩ | ⟨rfl, hv⟩
  · rw [if_pos hv]
  · rw [if_neg (by omega), if_pos hv.2]
  · rw [if_neg (by omega), if_neg (by omega), if_pos hv.2]
  · rw [if_neg (by omega), if_neg (by omega), if_neg (by omega)]

theorem Reaches.size_le_four {size toCome n : Nat} (h : Reaches size toCome n) : size ≤ 4 := by
  obtain ⟨c, rfl, -⟩ := h
  exact c.utf8Size_le_four

/-- the first byte of an encoding -/
def first (c : Char) : UInt8 := leading c.utf8Size (c.toNat / 64 ^ (c.utf8Size - 1))

/-- the ranges of the first byte do not overlap -/
theorem first_cases (c : Char) :
    (c.utf8Size = 1 ∧ (first c).toNat = c.toNat ∧ c.toNat < 0x80) ∨
    (c.utf8Size = 2 ∧ (first c).toNat = 0xC0 + c.toNat / 64 ∧ 0x80 ≤ c.toNat ∧ c.toNat < 0x800) ∨
    (c.utf8Size = 3 ∧ (first c).toNat = 0xE0 + c.toNat / 64 ^ 2 ∧ 0x800 ≤ c.toNat ∧ c.toNat < 0x10000) ∨
    (c.utf8Size = 4 ∧ (first c).toNat = 0xF0 + c.toNat / 64 ^ 3 ∧ 0x10000 ≤ c.toNat ∧ c.toNat < 0x110000) := by
  have hvalid := valid_toNat c
  have hsize := utf8Size_eq c
  split at hsize
  · refine .inl ⟨hsize, ?_, by omega⟩
    simp only [first, hsize, leading, UInt8.toNat_ofNat']
    omega
  · split at hsize
    · refine .inr (.inl ⟨hsize, ?_, by omega, by omega⟩)
      simp only [first, hsize, leading, UInt8.toNat_ofNat']
      omega
    · split at hsize
      · refine .inr (.inr (.inl ⟨hsize, ?_, by omega, by omega⟩))
        simp only [first, hsize, leading, UInt8.toNat_ofNat']
        omega
      · refine .inr (.inr (.inr ⟨hsize, ?_, by omega, by omega⟩))
        simp only [first, hsize, leading, UInt8.toNat_ofNat']
        omega

/-- the first byte tells the size and the first bits -/
theorem first_inj {c c' : Char} (h : first c = first c') :
    c.utf8Size = c'.utf8Size ∧ c.toNat / 64 ^ (c.utf8Size - 1) = c'.toNat / 64 ^ (c'.utf8Size - 1) := by
  have htoNat := congrArg UInt8.toNat h
  rcases first_cases c with ⟨hs, hf, hr⟩ | ⟨hs, hf, hr⟩ | ⟨hs, hf, hr⟩ | ⟨hs, hf, hr⟩ <;>
    rcases first_cases c' with ⟨hs', hf', hr'⟩ | ⟨hs', hf', hr'⟩ | ⟨hs', hf', hr'⟩ | ⟨hs', hf', hr'⟩ <;>
    rw [hs, hs'] <;> rw [hf, hf'] at htoNat <;> omega

theorem head?_beginning (size more n : Nat) : (beginning size more n).head? = some (leading size (n / 64 ^ more)) := by
  induction more generalizing n with
  | zero =>
    rw [Nat.pow_zero, Nat.div_one]
    rfl
  | succ more ih =>
    rw [beginning, List.head?_append, ih, Nat.div_div_eq_div_mul, ← Nat.pow_succ']
    rfl

theorem head?_utf8EncodeChar (c : Char) : (String.utf8EncodeChar c).head? = some (first c) := by
  rw [utf8EncodeChar_eq, head?_beginning, first]

theorem prefix_encoding_of_beginning {c : Char} {more toCome : Nat} (h : c.utf8Size = more + toCome + 1) :
    beginning c.utf8Size more (c.toNat / 64 ^ toCome) <+: String.utf8EncodeChar c := by
  have hbytes : c.utf8Size - 1 = more + toCome := by omega
  rw [utf8EncodeChar_eq, hbytes]
  exact prefix_beginning ..

/-- bytes with which an encoding begins tell the size of any encoding that begins with them, and their bits -/
theorem determined_of_beginning {size more toCome n : Nat} (h : Reaches size toCome n) (hsize : size = more + toCome + 1)
    {c : Char} (hc : beginning size more n <+: String.utf8EncodeChar c) : c.utf8Size = size ∧ c.toNat / 64 ^ toCome = n := by
  obtain ⟨c', rfl, rfl⟩ := h
  have hhead {d : Char} (hd : beginning c'.utf8Size more (c'.toNat / 64 ^ toCome) <+: String.utf8EncodeChar d) :
      leading c'.utf8Size (c'.toNat / 64 ^ toCome / 64 ^ more) = first d := by
    obtain ⟨rest, hrest⟩ := hd
    have hheads := congrArg List.head? hrest
    rw [List.head?_append, head?_beginning, head?_utf8EncodeChar] at hheads
    exact Option.some.inj hheads
  -- both encodings have the same first byte, so they have the same size and the same first bits
  obtain ⟨hsizes, hbits⟩ := first_inj ((hhead hc).symm.trans (hhead (prefix_encoding_of_beginning hsize)))
  refine ⟨hsizes, @bits_of_beginning c'.utf8Size more _ _ ?_ ?_⟩
  · have hbytes : c'.utf8Size - 1 = toCome + more := by omega
    rw [hsizes, hbytes, Nat.pow_add] at hbits
    rwa [Nat.div_div_eq_div_mul, Nat.div_div_eq_div_mul]
  · have hprefix := prefix_encoding_of_beginning (hsizes.trans hsize)
    rw [hsizes] at hprefix
    refine List.IsPrefix.eq_of_length (List.prefix_of_prefix_length_le hprefix hc ?_) ?_ <;>
      simp only [length_beginning, Nat.le_refl]

/-- no encoding begins another one -/
theorem eq_of_prefix_encoding {c c' : Char} (h : String.utf8EncodeChar c <+: String.utf8EncodeChar c') : c = c' := by
  have hreaches : Reaches c.utf8Size 0 c.toNat := ⟨c, rfl, by rw [Nat.pow_zero, Nat.div_one]⟩
  have hpos := c.utf8Size_pos
  rw [utf8EncodeChar_eq c] at h
  have hbits := (determined_of_beginning hreaches (by omega) h).2
  rw [Nat.pow_zero, Nat.div_one] at hbits
  exact (Char.toNat_inj.1 hbits).symm

/-! ## The states of the reader -/

/-- the state inside of an encoding of `size` bytes with `toCome` bytes to come, when those before them have the bits `n` -/
def State.within (size toCome n : Nat) : State :=
  match toCome with
  | 1 => one
  | 2 => if size = 3 ∧ n = 0 then afterE0 else if size = 3 ∧ n = 13 then afterED else two
  | 3 => if n = 0 then afterF0 else if n = 4 then afterF4 else three
  | _ => ground

/-- the bytes that a state accepts, as a range of numbers -/
def State.range : State → Nat × Nat
  | ground => (1, 0)
  | one | two | three => (0x80, 0xBF)
  | afterE0 => (0xA0, 0xBF)
  | afterED => (0x80, 0x9F)
  | afterF0 => (0x90, 0xBF)
  | afterF4 => (0x80, 0x8F)

theorem State.le_of_range {state : State} {n : Nat} (h : state.range.1 ≤ n ∧ n ≤ state.range.2) : 0x80 ≤ n := by
  cases state <;> simp only [range] at h <;> omega

theorem State.accepts_iff_range (state : State) (b : UInt8) :
    state.accepts b ↔ state.range.1 ≤ b.toNat ∧ b.toNat ≤ state.range.2 := by
  cases state with
  | ground => simp [accepts, range]; omega
  | _ => simp [accepts, range, UInt8.le_iff_toNat_le]

/-- the numbers of the characters that an encoding of a size can have -/
theorem bounds_of_size {c : Char} {size : Nat} (h : c.utf8Size = size) : (size = 1 ∧ c.toNat < 0x80) ∨
    (size = 2 ∧ 0x80 ≤ c.toNat ∧ c.toNat < 0x800) ∨ (size = 3 ∧ 0x800 ≤ c.toNat ∧ c.toNat < 0x10000) ∨
    (size = 4 ∧ 0x10000 ≤ c.toNat ∧ c.toNat < 0x110000) := by
  have hfirst := first_cases c
  rw [h] at hfirst
  omega

/-- inside of an encoding, the range of the state is that of the bits with which some encoding goes on -/
theorem State.range_within {size toCome n : Nat} (h : Reaches size (toCome + 1) n) (hsize : toCome + 1 < size) (j : Nat) :
    ((within size (toCome + 1) n).range.1 ≤ 0x80 + j ∧ 0x80 + j ≤ (within size (toCome + 1) n).range.2) ↔
      j < 64 ∧ Reaches size toCome (64 * n + j) := by
  obtain ⟨c, hc, hn⟩ := h
  have hvalid := valid_toNat c
  have hbounds := bounds_of_size hc
  have hcases : (size = 2 ∧ toCome = 0) ∨ (size = 3 ∧ toCome = 0) ∨ (size = 3 ∧ toCome = 1) ∨
      (size = 4 ∧ toCome = 0) ∨ (size = 4 ∧ toCome = 1) ∨ (size = 4 ∧ toCome = 2) := by omega
  constructor
  · intro hrange
    -- the first character that goes on with these bits
    suffices hfirst : j < 64 ∧ ((64 * n + j) * 64 ^ toCome).isValidChar ∧
        ((size = 2 ∧ 0x80 ≤ (64 * n + j) * 64 ^ toCome ∧ (64 * n + j) * 64 ^ toCome < 0x800) ∨
          (size = 3 ∧ 0x800 ≤ (64 * n + j) * 64 ^ toCome ∧ (64 * n + j) * 64 ^ toCome < 0x10000) ∨
          (size = 4 ∧ 0x10000 ≤ (64 * n + j) * 64 ^ toCome)) from
      ⟨hfirst.1, .of_valid hfirst.2.1 (.inr hfirst.2.2) (Nat.mul_div_cancel _ (Nat.pow_pos (by decide)))⟩
    rcases hcases with ⟨rfl, rfl⟩ | ⟨rfl, rfl⟩ | ⟨rfl, rfl⟩ | ⟨rfl, rfl⟩ | ⟨rfl, rfl⟩ | ⟨rfl, rfl⟩ <;>
      simp only [within, true_and] at hrange <;> (repeat' split at hrange) <;> simp only [range] at hrange <;> omega
  · rintro ⟨hj, c', hc', hn'⟩
    have hvalid' := valid_toNat c'
    have hbounds' := bounds_of_size hc'
    rcases hcases with ⟨rfl, rfl⟩ | ⟨rfl, rfl⟩ | ⟨rfl, rfl⟩ | ⟨rfl, rfl⟩ | ⟨rfl, rfl⟩ | ⟨rfl, rfl⟩ <;>
      simp only [within] <;> (repeat' split) <;> simp only [range] <;> omega

/-- inside of an encoding, the state accepts the bytes by which some encoding goes on -/
theorem State.accepts_within_iff {size toCome n : Nat} (h : Reaches size (toCome + 1) n) (hsize : toCome + 1 < size)
    (b : UInt8) : (within size (toCome + 1) n).accepts b ↔
      ∃ j < 64, b = UInt8.ofNat (0x80 + j) ∧ Reaches size toCome (64 * n + j) := by
  rw [accepts_iff_range]
  constructor
  · intro hrange
    obtain ⟨j, hj⟩ := Nat.exists_eq_add_of_le (le_of_range hrange)
    rw [hj] at hrange
    obtain ⟨hlt, hreaches⟩ := (range_within h hsize j).1 hrange
    exact ⟨j, hlt, by rw [← hj, UInt8.ofNat_toNat], hreaches⟩
  · rintro ⟨j, hlt, rfl, hreaches⟩
    rw [UInt8.toNat_ofNat_of_lt' (show 0x80 + j < 256 by omega)]
    exact (range_within h hsize j).2 ⟨hlt, hreaches⟩

/-- the state one byte later, whatever the bits are -/
theorem State.rest_within {size toCome : Nat} (hsize : toCome + 1 < size) (hfour : size ≤ 4) (n m : Nat) :
    (within size (toCome + 1) n).rest = within size toCome m := by
  have hcases : toCome = 0 ∨ toCome = 1 ∨ (toCome = 2 ∧ size = 4) := by omega
  rcases hcases with rfl | rfl | ⟨rfl, rfl⟩
  · rfl
  · simp only [within]
    repeat' split
    all_goals rfl
  · simp only [within]
    repeat' split
    all_goals first | rfl | omega

theorem State.within_ne_ground {size toCome : Nat} (hsize : toCome + 1 < size) (hfour : size ≤ 4) (n : Nat) :
    within size (toCome + 1) n ≠ ground := by
  have hcases : toCome = 0 ∨ toCome = 1 ∨ toCome = 2 := by omega
  rcases hcases with rfl | rfl | rfl
  · exact nofun
  · simp only [within]
    repeat' split
    all_goals exact nofun
  · simp only [within]
    repeat' split
    all_goals exact nofun

/-! ## Inside of an encoding -/

/-- some encoding begins with the bytes and is longer; the reader's state and bits tell its size and the bits that were
read -/
inductive Begun : State → Nat → List UInt8 → Prop where
  | intro {size more toCome n : Nat} (h : Reaches size (toCome + 1) n) (hsize : size = more + toCome + 2) :
    Begun (State.within size (toCome + 1) n) n (beginning size more n)

namespace Begun

variable {state : State} {bits : Nat} {pending : List UInt8} {b : UInt8}

theorem state_ne_ground (h : Begun state bits pending) : state ≠ .ground := by
  cases h with
  | intro h hsize => exact State.within_ne_ground (by omega) h.size_le_four _

/-- some encoding begins with the bytes and goes on -/
theorem exists_encoding (h : Begun state bits pending) :
    ∃ c, pending <+: String.utf8EncodeChar c ∧ pending.length < (String.utf8EncodeChar c).length := by
  cases h with
  | intro h hsize =>
    obtain ⟨c, rfl, rfl⟩ := h
    refine ⟨c, prefix_encoding_of_beginning hsize, ?_⟩
    rw [length_beginning, String.length_utf8EncodeChar, hsize]
    omega

/-- the state accepts exactly the bytes by which some encoding goes on -/
theorem accepts_iff (h : Begun state bits pending) :
    state.accepts b ↔ ∃ c, pending ++ [b] <+: String.utf8EncodeChar c := by
  cases h with
  | @intro size more toCome n h hsize =>
    rw [State.accepts_within_iff h (by omega)]
    have hnext : size = more + 1 + toCome + 1 := by omega
    constructor
    · rintro ⟨j, hj, rfl, c, rfl, hbits⟩
      refine ⟨c, ?_⟩
      have hprefix := prefix_encoding_of_beginning hnext
      rwa [hbits, beginning, show (64 * bits + j) / 64 = bits by omega, show (64 * bits + j) % 64 = j by omega] at hprefix
    · rintro ⟨c, hc⟩
      obtain ⟨rfl, rfl⟩ := determined_of_beginning h (by omega) ((List.prefix_append _ _).trans hc)
      have hprefix := prefix_encoding_of_beginning hnext
      have heq := List.IsPrefix.eq_of_length (List.prefix_of_prefix_length_le hprefix hc (by simp)) (by simp)
      obtain ⟨-, hb⟩ := List.append_inj' heq rfl
      refine ⟨c.toNat / 64 ^ toCome % 64, Nat.mod_lt _ (by decide), (List.cons.inj hb).1.symm, c, rfl, ?_⟩
      have hdiv : c.toNat / 64 ^ (toCome + 1) = c.toNat / 64 ^ toCome / 64 := by
        rw [Nat.pow_succ, Nat.div_div_eq_div_mul]
      omega

theorem bits_lt {size toCome n : Nat} (h : Reaches size toCome n) : n < 0x110000 := by
  obtain ⟨c, -, rfl⟩ := h
  have hvalid := valid_toNat c
  have hle : c.toNat / 64 ^ toCome ≤ c.toNat := Nat.div_le_self ..
  omega

/-- a byte that is accepted finishes a character, or some encoding goes on after it -/
theorem next (h : Begun state bits pending) (hb : state.accepts b) : 64 * bits + b.toNat % 64 < 0x110000 ∧
    ((state.rest = .ground ∧ String.utf8EncodeChar (Char.ofNat (64 * bits + b.toNat % 64)) = pending ++ [b]) ∨
      Begun state.rest (64 * bits + b.toNat % 64) (pending ++ [b])) := by
  cases h with
  | @intro size more toCome n h hsize =>
    obtain ⟨j, hj, rfl, hreaches⟩ := (State.accepts_within_iff h (by omega) b).1 hb
    have hbyte : (UInt8.ofNat (0x80 + j)).toNat % 64 = j := by
      rw [UInt8.toNat_ofNat_of_lt' (show 0x80 + j < 256 by omega)]
      omega
    have hnext : beginning size more bits ++ [UInt8.ofNat (0x80 + j)] = beginning size (more + 1) (64 * bits + j) := by
      rw [beginning, show (64 * bits + j) / 64 = bits by omega, show (64 * bits + j) % 64 = j by omega]
    rw [hbyte, hnext, State.rest_within (by omega) h.size_le_four bits (64 * bits + j)]
    refine ⟨bits_lt hreaches, ?_⟩
    cases toCome with
    | zero =>
      obtain ⟨c, rfl, hc⟩ := hreaches
      rw [Nat.pow_zero, Nat.div_one] at hc
      rw [← hc, Char.ofNat_toNat, utf8EncodeChar_eq, show c.utf8Size - 1 = more + 1 by omega]
      exact .inl ⟨rfl, rfl⟩
    | succ toCome => exact .inr (.intro hreaches (by omega))

end Begun

/-! ## The first byte -/

/-- what the reader makes of a first byte -/
theorem ofLead_eq : ∀ b : UInt8, State.ofLead b =
    if b.toNat < 0xC2 then .ground else if b.toNat < 0xE0 then .within 2 1 (b.toNat - 0xC0)
    else if b.toNat < 0xF0 then .within 3 2 (b.toNat - 0xE0)
    else if b.toNat < 0xF5 then .within 4 3 (b.toNat - 0xF0) else .ground := by
  have hall : ∀ n : Fin 256, State.ofLead (UInt8.ofFin n) =
      if n.val < 0xC2 then .ground else if n.val < 0xE0 then .within 2 1 (n.val - 0xC0)
      else if n.val < 0xF0 then .within 3 2 (n.val - 0xE0)
      else if n.val < 0xF5 then .within 4 3 (n.val - 0xF0) else .ground := by decide +kernel
  exact fun b => hall b.toFin

theorem toNat_leadBits : ∀ b : UInt8, (Reader.leadBits b).toNat =
    if b.toNat < 0xE0 then b.toNat % 32 else if b.toNat < 0xF0 then b.toNat % 16 else b.toNat % 8 := by
  have hall : ∀ n : Fin 256, (Reader.leadBits (UInt8.ofFin n)).toNat =
      if n.val < 0xE0 then n.val % 32 else if n.val < 0xF0 then n.val % 16 else n.val % 8 := by decide +kernel
  exact fun b => hall b.toFin

/-- the encoding of a character of one byte -/
theorem utf8EncodeChar_ofNat_of_lt {b : UInt8} (hb : b.toNat < 0x80) :
    String.utf8EncodeChar (Char.ofNat b.toNat) = [b] := by
  have htoNat : (Char.ofNat b.toNat).toNat = b.toNat := toNat_ofNat (.inl (by omega))
  rw [utf8EncodeChar_eq, utf8Size_eq, htoNat, if_pos hb]
  exact congrArg (fun byte => [byte]) UInt8.ofNat_toNat

/-- between characters a byte starts nothing, or some encodings of several bytes begin with it -/
theorem ofLead_cases (b : UInt8) :
    (State.ofLead b = .ground ∧ (b.toNat < 0xC2 ∨ 0xF5 ≤ b.toNat)) ∨
    ∃ size toCome n, size = toCome + 2 ∧ Reaches size (toCome + 1) n ∧ leading size n = b ∧
      State.ofLead b = .within size (toCome + 1) n ∧ (Reader.leadBits b).toNat = n := by
  have hleading {base : Nat} (h : base ≤ b.toNat) : UInt8.ofNat (base + (b.toNat - base)) = b := by
    rw [Nat.add_sub_cancel' h, UInt8.ofNat_toNat]
  have hb := b.toNat_lt
  rw [ofLead_eq, toNat_leadBits]
  rcases Nat.lt_or_ge b.toNat 0xC2 with hlow | hlow
  · exact .inl ⟨if_pos hlow, .inl hlow⟩
  rw [if_neg (Nat.not_lt.2 hlow)]
  rcases Nat.lt_or_ge b.toNat 0xE0 with htwo | htwo
  · rw [if_pos htwo, if_pos htwo]
    refine .inr ⟨2, 0, b.toNat - 0xC0, rfl, ?_, hleading (by omega), rfl, by omega⟩
    exact .of_valid (v := 64 * (b.toNat - 0xC0)) (.inl (by omega)) (by omega) (by omega)
  rw [if_neg (Nat.not_lt.2 htwo), if_neg (Nat.not_lt.2 htwo)]
  rcases Nat.lt_or_ge b.toNat 0xF0 with hthree | hthree
  · rw [if_pos hthree, if_pos hthree]
    refine .inr ⟨3, 1, b.toNat - 0xE0, rfl, ?_, hleading htwo, rfl, by omega⟩
    have hvalid : (max 0x800 (64 ^ 2 * (b.toNat - 0xE0))).isValidChar := by
      rw [Nat.isValidChar]
      omega
    exact .of_valid hvalid (by omega) (by omega)
  rw [if_neg (Nat.not_lt.2 hthree), if_neg (Nat.not_lt.2 hthree)]
  rcases Nat.lt_or_ge b.toNat 0xF5 with hfour | hfour
  · rw [if_pos hfour]
    refine .inr ⟨4, 2, b.toNat - 0xF0, rfl, ?_, hleading hthree, rfl, by omega⟩
    have hvalid : (max 0x10000 (64 ^ 3 * (b.toNat - 0xF0))).isValidChar := by
      rw [Nat.isValidChar]
      omega
    exact .of_valid hvalid (by omega) (by omega)
  · exact .inl ⟨if_neg (Nat.not_lt.2 hfour), .inr hfour⟩

/-- where the reader goes on after a byte, some encoding begins with that byte -/
theorem Begun.of_lead {b : UInt8} (h : State.ofLead b ≠ .ground) :
    Begun (State.ofLead b) (Reader.leadBits b).toNat [b] := by
  rcases ofLead_cases b with ⟨hground, -⟩ | ⟨size, toCome, n, hsize, hreaches, hleading, hstate, hbits⟩
  · exact absurd hground h
  · rw [hstate, hbits, ← hleading]
    exact @Begun.intro size 0 toCome n hreaches (by omega)

/-- where it does not, none does -/
theorem no_encoding_of_lead {b : UInt8} (hb : 0x80 ≤ b.toNat) (h : State.ofLead b = .ground) (c : Char) :
    ¬ [b] <+: String.utf8EncodeChar c := by
  rintro ⟨rest, hrest⟩
  have hfirst : b = first c := by
    have hheads := congrArg List.head? hrest
    rw [head?_utf8EncodeChar] at hheads
    exact Option.some.inj hheads
  have hcases := first_cases c
  rw [← hfirst] at hcases
  rcases ofLead_cases b with ⟨-, houtside⟩ | ⟨size, toCome, n, hsize, hreaches, -, hstate, -⟩
  · omega
  · exact State.within_ne_ground (by omega) hreaches.size_le_four n (hstate.symm.trans h)

end ScriptHost.Text

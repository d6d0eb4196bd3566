import ProxyProfiles.Network.Address
import ProxyProfiles.Network.Netmask
import ProxyProfiles.Proofs.Network.Ipv4
import Mathlib.Algebra.Order.Floor.Div
import Mathlib.GroupTheory.GroupAction.Ring
/-!
# Netmasks and leading bits

The bits of a netmask are set one after another, from the highest bit of its first octet on; read as
one sequence through all octets, they are first as many ones as the mask is long and then zeros only
(`Netmask.bits_octets`). From this follows what the text of a mask is read as:

* a netmask of at most 32 bits is read back as the word with as many leading bits set
  (`Netmask.parse?_text`);
* a longer one is no address (`Netmask.parse?_text_of_lt`);
* no two lengths have the same mask (`Netmask.text_inj`).

Two addresses are the same under a netmask if and only if they have its leading bits in common, and
so has a block of addresses its leading bits in common with those in it.
-/

namespace ProxyProfiles.Network

open Text

/-! ## Words as sequences of bits -/

/-- The bits of a word, the highest first. -/
def bitsOf {w : Nat} (x : BitVec w) : List Bool :=
  (List.range w).map x.getMsbD

section BitsOf

variable {v w : Nat}

@[simp] lemma length_bitsOf (x : BitVec w) : (bitsOf x).length = w := by
  simp [bitsOf]

lemma getElem_bitsOf (x : BitVec w) {i : Nat} (hi : i < (bitsOf x).length) :
    (bitsOf x)[i] = x.getMsbD i := by
  simp [bitsOf]

lemma bitsOf_inj {x y : BitVec w} (h : bitsOf x = bitsOf y) : x = y := by
  refine BitVec.eq_of_getMsbD_eq fun i hi => ?_
  have hget := congrArg (fun l => l[i]?) h
  simpa [bitsOf, hi] using hget

lemma bitsOf_append (x : BitVec v) (y : BitVec w) : bitsOf (x ++ y) = bitsOf x ++ bitsOf y := by
  refine List.ext_getElem (by simp) fun i hi hi' => ?_
  rw [getElem_bitsOf, BitVec.getMsbD_append, List.getElem_append]
  by_cases hiv : i < v
  · rw [if_neg (by omega), dif_pos (by simpa using hiv), getElem_bitsOf]
  · rw [if_pos (by omega), dif_neg (by simpa using hiv), getElem_bitsOf, length_bitsOf]

end BitsOf

namespace Netmask

variable {p : Nat} {os : List Octet}

/-- The bits of octets one after another, the highest of each first. -/
def bits (os : List Octet) : List Bool :=
  os.flatMap bitsOf

lemma bits_cons (o : Octet) (os : List Octet) : bits (o :: os) = bitsOf o ++ bits os :=
  List.flatMap_cons

@[simp] lemma length_bits (os : List Octet) : (bits os).length = 8 * os.length := by
  induction os with
  | nil => rfl
  | cons o os ih =>
    rw [bits_cons, List.length_append, length_bitsOf, ih, List.length_cons]
    omega

lemma bits_replicate (n : Nat) : bits (List.replicate n 0#8) = List.replicate (8 * n) false := by
  induction n with
  | zero => rfl
  | succ n ih =>
    have hzero : bitsOf 0#8 = List.replicate 8 false := by decide
    rw [List.replicate_succ, bits_cons, ih, hzero, ← List.replicate_add]
    congr 1
    omega

/-! ## Setting bits one after another -/

lemma bitsOf_or (o : Octet) {i : Nat} (hi : i < 8) :
    bitsOf (o ||| 0x80#8 >>> i) = (bitsOf o).set i true := by
  have hone : ∀ k < 8, (0x80#8).getMsbD k = decide (k = 0) := by decide
  refine List.ext_getElem (by simp) fun k hk hk' => ?_
  have hk8 : k < 8 := by simpa using hk
  rw [getElem_bitsOf, BitVec.getMsbD_or, BitVec.getMsbD_ushiftRight, List.getElem_set,
    getElem_bitsOf]
  rcases Nat.lt_trichotomy i k with hlt | rfl | hgt
  · have hne : k - i ≠ 0 := by omega
    simp [hlt.ne, Nat.not_lt.2 hlt.le, hone (k - i) (by omega), hne]
  · simp [hi, hone]
  · simp [hgt.ne', hgt]

/-- Setting a bit changes this one bit and no other, whichever octet it is in. -/
lemma bits_setBit (os : List Octet) (i : Nat) : bits (setBit os i) = (bits os).set i true := by
  induction os generalizing i with
  | nil => simp [setBit, bits]
  | cons o os ih =>
    by_cases hi : i < 8
    · have hdiv : i / 8 = 0 := by omega
      have hmod : i % 8 = i := by omega
      rw [setBit, hdiv, hmod, List.modify_zero_cons, bits_cons, bits_cons, bitsOf_or o hi,
        List.set_append_left _ _ (by simpa using hi)]
    · -- behind the first octet the bit is the one eight places further to the front
      have hdiv : i / 8 = (i - 8) / 8 + 1 := by omega
      have hmod : i % 8 = (i - 8) % 8 := by omega
      have hrest := ih (i - 8)
      rw [setBit] at hrest
      rw [setBit, hdiv, hmod, List.modify_succ_cons, bits_cons, hrest, bits_cons,
        List.set_append_right _ _ (by simpa using hi), length_bitsOf]

/-- After `p` rounds the first `p` bits are set and those behind them are as they were. -/
lemma bits_foldl_setBit (hp : p ≤ 8 * os.length) :
    bits ((List.range p).foldl setBit os) = List.replicate p true ++ (bits os).drop p := by
  induction p with
  | zero => simp
  | succ p ih =>
    have hlt : p < (bits os).length := by
      rw [length_bits]
      omega
    -- the round sets the first bit behind the ones
    rw [List.range_succ, List.foldl_append, List.foldl_cons, List.foldl_nil, bits_setBit,
      ih (by omega), List.set_append_right _ _ (by simp), List.length_replicate, Nat.sub_self,
      List.drop_eq_getElem_cons hlt, List.set_cons_zero, List.replicate_succ', List.append_assoc,
      List.singleton_append]

lemma length_foldl_setBit (is : List Nat) : (is.foldl setBit os).length = os.length := by
  induction is generalizing os with
  | nil => rfl
  | cons i is ih => rw [List.foldl_cons, ih, length_setBit]

@[simp] lemma length_octets (p : Nat) : (octets p).length = octetCount p := by
  rw [octets, length_foldl_setBit, List.length_replicate]

lemma octetCount_eq (p : Nat) : octetCount p = max 4 (p ⌈/⌉ 8) := by
  rw [octetCount, Nat.ceilDiv_eq_add_pred_div]
  rfl

/-- A mask is ones as far as its length goes, and then zeros. -/
lemma bits_octets (p : Nat) :
    bits (octets p) = List.replicate p true ++ List.replicate (8 * octetCount p - p) false := by
  have hp : p ≤ 8 * (List.replicate (octetCount p) 0#8).length := by
    rw [List.length_replicate, octetCount]
    omega
  rw [octets, bits_foldl_setBit hp, bits_replicate, List.drop_replicate]

/-! ## Masks as addresses -/

/-- The word whose first `p` bits are set. -/
def word (p : Nat) : Ipv4 :=
  BitVec.allOnes 32 <<< (32 - p)

lemma getMsbD_word {i : Nat} (hi : i < 32) : (word p).getMsbD i = decide (i < p) := by
  rw [word, BitVec.getMsbD_shiftLeft, BitVec.getMsbD_allOnes, decide_eq_decide]
  omega

lemma bitsOf_word (hp : p ≤ 32) :
    bitsOf (word p) = List.replicate p true ++ List.replicate (32 - p) false := by
  refine List.ext_getElem (by simp [hp]) fun i hi hi' => ?_
  rw [getElem_bitsOf, getMsbD_word (by simpa using hi), List.getElem_append]
  by_cases hip : i < p <;> simp [hip]

lemma toNat_word (hp : p ≤ 32) : (word p).toNat = 2 ^ 32 - 2 ^ (32 - p) := by
  have hall : ∀ q ≤ 32, (word q).toNat = 2 ^ 32 - 2 ^ (32 - q) := by decide
  exact hall p hp

lemma toNat_append_octet {w : Nat} (x : BitVec w) (o : Octet) :
    (x ++ o).toNat = x.toNat * 256 + o.toNat := by
  rw [BitVec.toNat_append, ← Nat.shiftLeft_add_eq_or_of_lt o.isLt, Nat.shiftLeft_eq]

lemma ofOctets_toNat (a b c d : Octet) :
    Ipv4.ofOctets a.toNat b.toNat c.toNat d.toNat = a ++ b ++ c ++ d := by
  refine BitVec.eq_of_toNat_eq ?_
  have hlt := (a ++ b ++ c ++ d).isLt
  rw [toNat_append_octet, toNat_append_octet, toNat_append_octet] at hlt ⊢
  rw [Ipv4.ofOctets, BitVec.toNat_ofNat, Nat.mod_eq_of_lt hlt]

/-- Four octets make the address that has their bits. -/
lemma bits_ofOctets (a b c d : Octet) :
    bits [a, b, c, d] = bitsOf (Ipv4.ofOctets a.toNat b.toNat c.toNat d.toNat) := by
  rw [ofOctets_toNat, bitsOf_append, bitsOf_append, bitsOf_append]
  simp [bits]

lemma toList_text : (text p).toList = dotted ((octets p).map BitVec.toNat) := by
  rw [text, String.toList_ofList, dotted, List.map_map]
  rfl

/-- A netmask is read back as the word that it was written for. -/
lemma parse?_text (hp : p ≤ 32) : Ipv4.parse? (text p) = some (word p) := by
  have hcount : octetCount p = 4 := by
    unfold octetCount
    omega
  obtain ⟨a, b, c, d, hos⟩ := List.length_eq_four.1 ((length_octets p).trans hcount)
  have hword : Ipv4.ofOctets a.toNat b.toNat c.toNat d.toNat = word p := by
    refine bitsOf_inj ?_
    rw [← bits_ofOctets, ← hos, bits_octets, hcount, bitsOf_word hp]
  have htext : text p = String.ofList (dotted [a.toNat, b.toNat, c.toNat, d.toNat]) := by
    rw [← String.ofList_toList (s := text p), toList_text, hos]
    rfl
  have hle (o : Octet) : o.toNat ≤ 255 := Nat.le_of_lt_succ o.isLt
  rw [htext, Ipv4.parse?_dotted (by simp [hle]), hword]

lemma pieces_text :
    pieces '.' (text p).toList = (octets p).map fun o => Decimal.digits o.toNat := by
  have hne : (octets p).map BitVec.toNat ≠ [] := by
    rw [← List.length_pos_iff, List.length_map, length_octets, octetCount]
    omega
  rw [toList_text, pieces_dotted hne, List.map_map]
  rfl

/-- A netmask of more than 32 bits has too many octets for an address. -/
lemma parse?_text_of_lt (hp : 32 < p) : Ipv4.parse? (text p) = none := by
  rw [Option.eq_none_iff_forall_ne_some]
  intro x hx
  have hlength := (Ipv4.parse?_eq_some_iff.1 hx).length_pieces
  rw [pieces_text, List.length_map, length_octets, octetCount] at hlength
  omega

/-! ## Different lengths -/

/-- A mask has as many ones as its length says. -/
lemma count_bits_octets (p : Nat) : (bits (octets p)).count true = p := by
  simp [bits_octets, List.count_replicate]

/-- Different lengths have different masks. -/
lemma text_inj {q : Nat} (h : text p = text q) : p = q := by
  have hdigits : ((octets p).map fun o => Decimal.digits o.toNat) =
      (octets q).map fun o => Decimal.digits o.toNat := by
    rw [← pieces_text, h, pieces_text]
  have hoctets : octets p = octets q :=
    (List.map_inj_right fun _ _ heq => BitVec.eq_of_toNat_eq (Decimal.digits_inj heq)).1 hdigits
  rw [← count_bits_octets p, hoctets, count_bits_octets]

/-! ## Every length -/

lemma text_eq_joined (p : Nat) :
    text p = joined "." ((octets p).map fun o => Decimal.ofNat o.toNat) := by
  simp [text, joined, Decimal.ofNat, Function.comp_def]

/-- What a mask is, whatever its length. It is the decimal text of as many octets as its length
needs, but at least four, and through all of them it has first as many ones as its length says and
then zeros only. If it has no more than 32 ones, it is read back as the number with these leading
bits; else it is no address. No two lengths have the same mask. -/
theorem text_of_every_length :
    (∀ p, ∃ os : List Octet,
      text p = joined "." (os.map fun o => Decimal.ofNat o.toNat) ∧
      os.length = max 4 (p ⌈/⌉ 8) ∧
      bits os = List.replicate p true ++ List.replicate (8 * os.length - p) false) ∧
    (∀ p, (Ipv4.parse? (text p)).map BitVec.toNat =
      if p ≤ 32 then some (2 ^ 32 - 2 ^ (32 - p)) else none) ∧
    Function.Injective text := by
  refine ⟨fun p => ⟨octets p, text_eq_joined p, ?_, ?_⟩, fun p => ?_, fun _ _ => text_inj⟩
  · rw [length_octets, octetCount_eq]
  · rw [length_octets, bits_octets]
  · split
    · next hp => rw [parse?_text hp, Option.map_some, toNat_word hp]
    · next hp => rw [parse?_text_of_lt (Nat.lt_of_not_le hp), Option.map_none]

example : text 33 = "255.255.255.255.128" := by decide

/-! ## Under a mask -/

/-- Under a netmask two addresses are the same if they have the leading bits in common. -/
lemma and_word_eq_iff (hp : p ≤ 32) (x y : Ipv4) :
    x &&& word p = y &&& word p ↔ ∀ i < p, x.getMsbD i = y.getMsbD i := by
  constructor
  · intro h i hi
    have hbit := congrArg (fun z => BitVec.getMsbD z i) h
    simpa [getMsbD_word (show i < 32 by omega), hi] using hbit
  · intro h
    refine BitVec.eq_of_getMsbD_eq fun i hi => ?_
    rw [BitVec.getMsbD_and, BitVec.getMsbD_and, getMsbD_word hi]
    by_cases hip : i < p
    · rw [h i hip]
    · simp [hip]

end Netmask

lemma agree_iff {w p : Nat} (hp : p ≤ w) (x y : BitVec w) :
    agree p x y = true ↔ ∀ i < p, x.getMsbD i = y.getMsbD i := by
  rw [agree, beq_iff_eq]
  constructor
  · intro h i hi
    -- behind the shift, bit `i` stands as many places lower as bits have gone
    have hbit := congrArg (fun z => BitVec.getMsbD z (w - p + i)) h
    have hlt : w - p + i < w := by omega
    have hge : ¬ w - p + i < w - p := by omega
    simpa [BitVec.getMsbD_ushiftRight, hlt, hge] using hbit
  · intro h
    refine BitVec.eq_of_getMsbD_eq fun i hi => ?_
    rw [BitVec.getMsbD_ushiftRight, BitVec.getMsbD_ushiftRight]
    by_cases hlow : i < w - p
    · simp [hlow]
    · rw [h (i - (w - p)) (by omega)]

end ProxyProfiles.Network

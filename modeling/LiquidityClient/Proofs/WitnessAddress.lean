import LiquidityClient.Bitcoin.Address
import LiquidityClient.Hash.Sha256
import Mathlib.Algebra.Group.Nat.Defs
import Mathlib.Data.List.Basic
import Mathlib.Data.List.Induction

/-!
# What an address tells

The text of a witness program tells its label, its version and its bytes
(`Bech32.encodeProgram_inj`) : the separator is no character of a value, and five-bit values give
back the bits that they were cut from. So the address of a script is that of another one only if
both have the same hash and their networks share a label (`Address.payToScriptHash_inj`).
-/

namespace LiquidityClient

namespace Bech32

/-! ## Bits and numbers -/

theorem length_bitsOf (width n : ℕ) : (bitsOf width n).length = width := by
  simp [bitsOf]

theorem bitsOf_succ (width n : ℕ) :
    bitsOf (width + 1) n = bitsOf width (n / 2) ++ [n.testBit 0] := by
  rw [bitsOf, List.range_succ, List.map_append, bitsOf]
  congr 1
  · refine List.map_congr_left fun i hi => ?_
    have hindex : width + 1 - 1 - i = (width - 1 - i) + 1 := by
      have := List.mem_range.1 hi
      omega
    rw [hindex, Nat.testBit_add_one]
  · simp

theorem ofBits_concat (bits : List Bool) (bit : Bool) :
    ofBits (bits ++ [bit]) = 2 * ofBits bits + bit.toNat := by
  rw [ofBits, List.foldl_append]
  rfl

theorem bitsOf_ofBits (bits : List Bool) : bitsOf bits.length (ofBits bits) = bits := by
  induction bits using List.reverseRecOn with
  | nil => rfl
  | append_singleton bits bit ih =>
    have hhalf : ofBits (bits ++ [bit]) / 2 = ofBits bits := by
      rw [ofBits_concat]
      have := bit.toNat_lt
      omega
    have hlow : (ofBits (bits ++ [bit])).testBit 0 = bit := by
      rw [ofBits_concat, Nat.testBit_zero]
      cases bit <;> simp [Nat.add_mod]
    rw [List.length_append, List.length_singleton, bitsOf_succ, hhalf, hlow, ih]

theorem ofBits_lt (bits : List Bool) : ofBits bits < 2 ^ bits.length := by
  induction bits using List.reverseRecOn with
  | nil => decide
  | append_singleton bits bit ih =>
    have := bit.toNat_lt
    rw [ofBits_concat, List.length_append, List.length_singleton, Nat.pow_succ]
    omega

theorem ofBits_bitsOf {width n : ℕ} (h : n < 2 ^ width) : ofBits (bitsOf width n) = n := by
  induction width generalizing n with
  | zero =>
    obtain rfl : n = 0 := by simpa using h
    rfl
  | succ width ih =>
    rw [bitsOf_succ, ofBits_concat, ih (by rw [Nat.pow_succ] at h; omega), Nat.testBit_zero]
    rcases Nat.mod_two_eq_zero_or_one n with hbit | hbit <;> simp [hbit] <;> omega

/-! ## Groups of bits -/

/-- Groups lose no bit. -/
theorem flatMap_groups {width fuel : ℕ} (bits : List Bool) :
    (groups width fuel bits).1.flatMap (bitsOf width) ++ (groups width fuel bits).2 = bits := by
  induction fuel generalizing bits with
  | zero => rfl
  | succ fuel ih =>
    rw [groups]
    split_ifs with h
    · rfl
    · have hlength : (bits.take width).length = width := List.length_take_of_le (by omega)
      have hgroup := bitsOf_ofBits (bits.take width)
      rw [hlength] at hgroup
      dsimp only
      rw [List.flatMap_cons, hgroup, List.append_assoc, ih, List.take_append_drop]

theorem lt_of_mem_groups {width fuel value : ℕ} {bits : List Bool}
    (h : value ∈ (groups width fuel bits).1) : value < 2 ^ width := by
  induction fuel generalizing bits with
  | zero => cases h
  | succ fuel ih =>
    rw [groups] at h
    split_ifs at h with hshort
    · cases h
    · rcases List.mem_cons.1 h with rfl | h
      · have hlength : (bits.take width).length = width := List.length_take_of_le (by omega)
        simpa [hlength] using ofBits_lt (bits.take width)
      · exact ih h

theorem length_groups {width fuel : ℕ} {bits : List Bool} (hwidth : 0 < width)
    (h : bits.length ≤ fuel) : (groups width fuel bits).2.length < width := by
  induction fuel generalizing bits with
  | zero => simpa [groups, List.eq_nil_of_length_eq_zero (Nat.le_zero.1 h)] using hwidth
  | succ fuel ih =>
    rw [groups]
    split_ifs with hshort
    · dsimp only
      omega
    · exact ih (by rw [List.length_drop]; omega)

/-- The bits of a byte string. -/
def bitsOfBytes (bytes : Bytes) : List Bool :=
  bytes.flatMap fun byte => bitsOf 8 byte.toNat

theorem length_bitsOfBytes (bytes : Bytes) : (bitsOfBytes bytes).length = 8 * bytes.length := by
  induction bytes with
  | nil => rfl
  | cons byte rest ih =>
    rw [bitsOfBytes, List.flatMap_cons, List.length_append, length_bitsOf]
    rw [bitsOfBytes] at ih
    rw [ih, List.length_cons]
    omega

theorem bitsOfBytes_inj {bytes bytes' : Bytes} :
    bitsOfBytes bytes = bitsOfBytes bytes' ↔ bytes = bytes' := by
  refine ⟨fun h => ?_, fun h => h ▸ rfl⟩
  induction bytes generalizing bytes' with
  | nil =>
    have hlength := congrArg List.length h
    rw [length_bitsOfBytes, length_bitsOfBytes, List.length_nil] at hlength
    have hempty : bytes'.length = 0 := by omega
    exact (List.eq_nil_of_length_eq_zero hempty).symm
  | cons byte rest ih =>
    cases bytes' with
    | nil => simp [bitsOfBytes, bitsOf] at h
    | cons byte' rest' =>
      obtain ⟨hbyte, hrest⟩ := List.append_inj h (by simp [length_bitsOf])
      have hvalue := congrArg ofBits hbyte
      rw [ofBits_bitsOf byte.toNat_lt, ofBits_bitsOf byte'.toNat_lt] at hvalue
      rw [UInt8.toNat_inj.1 hvalue, ih hrest]

/-- The values of a byte string are the groups of its bits, and one more if some are left over. -/
theorem valuesOfBytes_eq (bytes : Bytes) :
    ∃ values left, values.flatMap (bitsOf 5) ++ left = bitsOfBytes bytes ∧
      (∀ value ∈ values, value < 32) ∧ left.length < 5 ∧
      valuesOfBytes bytes = if left.isEmpty then values
        else values ++ [ofBits (left ++ List.replicate (5 - left.length) false)] :=
  ⟨_, _, flatMap_groups _, fun _ => lt_of_mem_groups,
    length_groups (by decide) (Nat.le_refl _), rfl⟩

/-- The values of a byte string give its bits, with zeros behind. -/
theorem flatMap_valuesOfBytes (bytes : Bytes) :
    ∃ count, (valuesOfBytes bytes).flatMap (bitsOf 5) =
      bitsOfBytes bytes ++ List.replicate count false := by
  obtain ⟨values, left, hbits, -, hleft, heq⟩ := valuesOfBytes_eq bytes
  rw [heq, ← hbits]
  split_ifs with hempty
  · exact ⟨0, by simp [List.isEmpty_iff.1 hempty]⟩
  · have hfull : (left ++ List.replicate (5 - left.length) false).length = 5 := by
      rw [List.length_append, List.length_replicate]
      omega
    have hlast := bitsOf_ofBits (left ++ List.replicate (5 - left.length) false)
    rw [hfull] at hlast
    exact ⟨_, by rw [List.flatMap_append, List.flatMap_singleton, hlast, List.append_assoc]⟩

theorem valuesOfBytes_inj {bytes bytes' : Bytes} (hlength : bytes.length = bytes'.length) :
    valuesOfBytes bytes = valuesOfBytes bytes' ↔ bytes = bytes' := by
  refine ⟨fun h => ?_, fun h => h ▸ rfl⟩
  obtain ⟨count, hbits⟩ := flatMap_valuesOfBytes bytes
  obtain ⟨count', hbits'⟩ := flatMap_valuesOfBytes bytes'
  rw [h, hbits'] at hbits
  have hinj := List.append_inj hbits (by rw [length_bitsOfBytes, length_bitsOfBytes, hlength])
  exact (bitsOfBytes_inj.1 hinj.1).symm

theorem lt_of_mem_valuesOfBytes {bytes : Bytes} {value : ℕ} (h : value ∈ valuesOfBytes bytes) :
    value < 32 := by
  obtain ⟨values, left, -, hvalues, hleft, heq⟩ := valuesOfBytes_eq bytes
  rw [heq] at h
  split_ifs at h
  · exact hvalues value h
  · rcases List.mem_append.1 h with h | h
    · exact hvalues value h
    · have hlast := ofBits_lt (left ++ List.replicate (5 - left.length) false)
      rw [List.length_append, List.length_replicate,
        Nat.add_sub_cancel' (Nat.le_of_lt hleft)] at hlast
      rwa [List.mem_singleton.1 h]

/-! ## Texts -/

/-- The character of a value is read as the value. -/
theorem value?_digit : ∀ value < 32, value? (digit value) = some value := by
  decide +kernel

theorem map_digit_inj {values values' : List ℕ} (h : ∀ v ∈ values, v < 32)
    (h' : ∀ v ∈ values', v < 32) : values.map digit = values'.map digit ↔ values = values' := by
  refine ⟨fun heq => ?_, fun heq => heq ▸ rfl⟩
  have hread (vs : List ℕ) (hvs : ∀ v ∈ vs, v < 32) : (vs.map digit).map value? = vs.map some := by
    rw [List.map_map]
    exact List.map_congr_left fun v hv => value?_digit v (hvs v hv)
  have hsome := congrArg (List.map value?) heq
  rw [hread values h, hread values' h'] at hsome
  exact List.map_inj_right (fun _ _ => Option.some.inj) |>.1 hsome

/-- The separator is no character of a value. -/
theorem separator_notMem_map_digit (values : List ℕ) : '1' ∉ values.map digit := by
  intro h
  obtain ⟨value, -, heq⟩ := List.mem_map.1 h
  have hmem : digit value ∈ 'q' :: alphabet := by
    rw [digit, List.getD_eq_getElem?_getD]
    cases hget : alphabet[value]? with
    | none => exact List.mem_cons_self
    | some c => exact List.mem_cons_of_mem _ (List.mem_of_getElem? hget)
  rw [heq] at hmem
  revert hmem
  decide +kernel

theorem lt_of_mem_checksum {constant value : ℕ} {label : List Char} {values : List ℕ}
    (h : value ∈ checksum constant label values) : value < 32 := by
  obtain ⟨i, -, rfl⟩ := List.mem_map.1 h
  exact Nat.mod_lt _ (by decide)

/-- The text of a witness program tells the program, and the label if it holds no separator. -/
theorem encodeProgram_inj {label label' : String} {version version' : ℕ} {program program' : Bytes}
    (hlabel : '1' ∉ label.toList) (hversion : version < 32) (hversion' : version' < 32)
    (hlength : program.length = program'.length) :
    encodeProgram label version program = encodeProgram label' version' program' ↔
      label = label' ∧ version = version' ∧ program = program' := by
  constructor
  · intro h
    obtain ⟨hlabels, -, htails⟩ :=
      (List.append_cons_inj_of_notMem hlabel (separator_notMem_map_digit _)).1
        (String.ofList_injective h)
    have hvalues (v : ℕ) (hv : v < 32) (bytes : Bytes) (sum : List ℕ) (hsum : ∀ u ∈ sum, u < 32) :
        ∀ u ∈ v :: valuesOfBytes bytes ++ sum, u < 32 :=
      List.forall_mem_append.2
        ⟨List.forall_mem_cons.2 ⟨hv, fun _ => lt_of_mem_valuesOfBytes⟩, hsum⟩
    have heq := (map_digit_inj (hvalues _ hversion _ _ fun _ => lt_of_mem_checksum)
      (hvalues _ hversion' _ _ fun _ => lt_of_mem_checksum)).1 htails
    obtain ⟨rfl, hbytes⟩ := List.cons.inj (List.append_inj' heq (by simp [checksum])).1
    exact ⟨String.toList_injective hlabels, rfl, (valuesOfBytes_inj hlength).1 hbytes⟩
  · rintro ⟨rfl, rfl, rfl⟩
    rfl

end Bech32

namespace Address

/-- The address of a script tells the hash of the script and the label of the network. -/
theorem payToScriptHash_inj {network network' : Network} {script script' : Bytes} :
    payToScriptHash network script = payToScriptHash network' script' ↔
      network.segwitLabel = network'.segwitLabel ∧ Sha256.hash script = Sha256.hash script' := by
  have hlabel : '1' ∉ network.segwitLabel.toList := by cases network <;> decide
  rw [payToScriptHash, payToScriptHash, Bech32.encodeProgram_inj hlabel (by decide) (by decide)
    (by rw [Sha256.length_hash, Sha256.length_hash])]
  simp

end Address

end LiquidityClient

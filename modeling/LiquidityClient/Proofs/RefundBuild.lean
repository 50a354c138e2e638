import LiquidityClient.Proofs.Script.WitnessSpend
import LiquidityClient.Swap.Refund
import Mathlib.Data.List.Forall2

/-!
# How a refund is built

A refund is built in three steps, each of which can fail : the out points and the sum of the amounts
are read off the inputs (`gather_eq_ok_iff`), the fee is taken, and each input is signed
(`exists_signInputs_iff`). `build_eq_ok_iff` puts them together. The transaction is signed before
its witnesses are there; each signature is one of the digest of the finished transaction, since
witnesses do not enter it (`sweepsAt_of_build`).
-/

namespace LiquidityClient

/-- A sequence of results that has a value is a sequence of values. -/
theorem exists_of_bind_eq_ok {ε α β : Type} {x : Except ε α} {f : α → Except ε β} {b : β}
    (h : x >>= f = .ok b) : ∃ a, x = .ok a ∧ f a = .ok b := by
  cases x with
  | error e => cases h
  | ok a => exact ⟨a, rfl, h⟩

theorem eq_ok_of_toOption {ε α : Type} {x : Except ε α} {a : α} (h : x.toOption = some a) :
    x = .ok a := by
  cases x <;> cases h
  rfl

namespace Refund

/-! ## Out points and amounts -/

/-- The out point is the one that an input names. -/
structure Names (input : RefundInput) (point : OutPoint) : Prop where
  txid_eq : parseTxid? input.txid = some point.txid
  index_eq : point.index = input.index

/-- The sum of the amounts of inputs. -/
def totalSat (inputs : List RefundInput) : Nat :=
  (inputs.map fun input => input.amountSat.toNat).sum

theorem totalSat_cons (input : RefundInput) (inputs : List RefundInput) :
    totalSat (input :: inputs) = input.amountSat.toNat + totalSat inputs := rfl

theorem outPoint_eq_ok_iff {position : Nat} {input : RefundInput} {point : OutPoint} :
    outPoint position input = .ok point ↔ Names input point := by
  obtain ⟨txid, index⟩ := point
  unfold outPoint
  constructor
  · intro h
    split at h
    · next hparse =>
      cases h
      exact ⟨hparse, rfl⟩
    · cases h
  · rintro ⟨htxid, rfl⟩
    simp only [htxid]

/-- Inputs are gathered if each names an out point and the sum of their amounts fits 64 bits. -/
theorem gather_eq_ok_iff {inputs : List RefundInput} {position total sum : Nat}
    {points : List OutPoint} (htotal : total < UInt64.size) :
    gather position total inputs = .ok (points, sum) ↔
      List.Forall₂ Names inputs points ∧ sum = total + totalSat inputs ∧ sum < UInt64.size := by
  induction inputs generalizing position total points with
  | nil =>
    constructor
    · intro h
      cases h
      exact ⟨.nil, rfl, htotal⟩
    · rintro ⟨⟨⟩, rfl, -⟩
      rfl
  | cons input inputs ih =>
    rw [totalSat_cons]
    constructor
    · intro h
      obtain ⟨point, hpoint, h⟩ := exists_of_bind_eq_ok h
      dsimp only at h
      split_ifs at h with hfits
      obtain ⟨⟨rest, sum'⟩, hrest, h⟩ := exists_of_bind_eq_ok h
      cases h
      obtain ⟨hnames, hsum, hlt⟩ := (ih (Nat.lt_of_not_le hfits)).1 hrest
      exact ⟨.cons (outPoint_eq_ok_iff.1 hpoint) hnames, hsum.trans (Nat.add_assoc ..), hlt⟩
    · rintro ⟨_ | ⟨hpoint, hnames⟩, hsum, hlt⟩
      rw [← Nat.add_assoc] at hsum
      have hfits : total + input.amountSat.toNat < UInt64.size := by omega
      have hrest : gather (position + 1) (total + input.amountSat.toNat) inputs = .ok (_, sum) :=
        (ih hfits).2 ⟨hnames, hsum, hlt⟩
      rw [gather, outPoint_eq_ok_iff.2 hpoint]
      change (if _ then _ else _) = _
      rw [if_neg (Nat.not_le_of_lt hfits), hrest]
      rfl

/-! ## Signatures -/

/-- The witness of an input that spends through the refund branch. -/
def refundWitness (tx : Transaction) (txIn : TxIn) (input : RefundInput) (key : SecretKey) :
    List Bytes :=
  [(Signature.sign key (tx.signatureDigest txIn input.script input.amountSat)).der ++ [1], [],
    input.script]

theorem signInput_eq_ok {tx : Transaction} {position : Nat} {txIn : TxIn} {input : RefundInput}
    {signature : Bytes} (h : signInput tx position txIn input = .ok signature) :
    ∃ key, SecretKey.ofBytes? input.refundKey = some key ∧
      [signature, [], input.script] = refundWitness tx txIn input key := by
  unfold signInput at h
  split at h
  · cases h
  · next key hkey =>
    cases h
    exact ⟨key, hkey, rfl⟩

theorem exists_signInput {tx : Transaction} {position : Nat} {txIn : TxIn} {input : RefundInput}
    {key : SecretKey} (h : SecretKey.ofBytes? input.refundKey = some key) :
    ∃ signature, signInput tx position txIn input = .ok signature := by
  unfold signInput
  rw [h]
  exact ⟨_, rfl⟩

/-- Signing changes nothing but the witnesses, and each is the one of its input. -/
theorem signInputs_spec {tx : Transaction} {position : Nat} {txIns signed : List TxIn}
    {inputs : List RefundInput} (hlength : txIns.length = inputs.length)
    (h : signInputs tx position txIns inputs = .ok signed) :
    signed.map TxIn.unsigned = txIns.map TxIn.unsigned ∧
      ∀ (i : Nat) (txIn : TxIn) (input : RefundInput), txIns[i]? = some txIn →
        inputs[i]? = some input → ∃ key, SecretKey.ofBytes? input.refundKey = some key ∧
          signed[i]? = some { txIn with witness := refundWitness tx txIn input key } := by
  induction txIns generalizing position inputs signed with
  | nil =>
    cases h
    exact ⟨rfl, nofun⟩
  | cons txIn txIns ih =>
    rcases inputs with _ | ⟨input, inputs⟩
    · cases hlength
    · rw [signInputs] at h
      obtain ⟨signature, hsignature, h⟩ := exists_of_bind_eq_ok h
      obtain ⟨rest, hrest, h⟩ := exists_of_bind_eq_ok h
      cases h
      obtain ⟨key, hkey, hwitness⟩ := signInput_eq_ok hsignature
      obtain ⟨hunsigned, hinputs⟩ := ih (Nat.succ.inj hlength) hrest
      refine ⟨?_, fun i txIn' input' htxIn' hinput' => ?_⟩
      · rw [List.map_cons, List.map_cons, hunsigned]
        rfl
      · cases i with
        | zero =>
          cases htxIn'
          cases hinput'
          exact ⟨key, hkey, by rw [hwitness]; rfl⟩
        | succ i => exact hinputs i txIn' input' htxIn' hinput'

/-- All inputs are signed if each has a key, and otherwise none is. -/
theorem exists_signInputs_iff {tx : Transaction} {position : Nat} {txIns : List TxIn}
    {inputs : List RefundInput} (hlength : txIns.length = inputs.length) :
    (∃ signed, signInputs tx position txIns inputs = .ok signed) ↔
      ∀ input ∈ inputs, ∃ key, SecretKey.ofBytes? input.refundKey = some key := by
  constructor
  · rintro ⟨signed, h⟩ input hinput
    obtain ⟨i, hi, rfl⟩ := List.getElem_of_mem hinput
    obtain ⟨key, hkey, -⟩ := (signInputs_spec hlength h).2 i txIns[i] inputs[i] (by simp) (by simp)
    exact ⟨key, hkey⟩
  · intro h
    induction txIns generalizing position inputs with
    | nil =>
      obtain rfl := List.length_eq_zero_iff.1 hlength.symm
      exact ⟨[], rfl⟩
    | cons txIn txIns ih =>
      rcases inputs with _ | ⟨input, inputs⟩
      · cases hlength
      · obtain ⟨⟨key, hkey⟩, hkeys⟩ := List.forall_mem_cons.1 h
        obtain ⟨signature, hsignature⟩ :
            ∃ signature, signInput tx position txIn input = .ok signature :=
          exists_signInput hkey
        obtain ⟨rest, hrest⟩ : ∃ rest, signInputs tx (position + 1) txIns inputs = .ok rest :=
          ih (Nat.succ.inj hlength) hkeys
        refine ⟨{ txIn with witness := [signature, [], input.script] } :: rest, ?_⟩
        simp only [signInputs, hsignature, hrest, bind, Except.bind, pure, Except.pure]

/-! ## The transaction -/

/-- The fee of a refund from these out points. -/
def feeOf (inputs : List RefundInput) (points : List OutPoint) (destination : Bytes)
    (csvHeight : UInt32) (ratePerKw : UInt64) : UInt64 :=
  feeSat (weight inputs (skeleton points csvHeight ⟨0, destination⟩)) ratePerKw

/-- The refund from these out points, before it is signed. -/
def unsignedRefund (inputs : List RefundInput) (points : List OutPoint) (destination : Bytes)
    (csvHeight : UInt32) (ratePerKw : UInt64) : Transaction :=
  skeleton points csvHeight
    ⟨UInt64.ofNat
        (totalSat inputs - (feeOf inputs points destination csvHeight ratePerKw).toNat),
      destination⟩

variable {inputs : List RefundInput} {points : List OutPoint} {destination : Bytes}
  {csvHeight : UInt32} {ratePerKw : UInt64} {tx : Transaction}

theorem inputs_unsignedRefund :
    (unsignedRefund inputs points destination csvHeight ratePerKw).inputs =
      points.map fun previous => ⟨previous, [], csvHeight, []⟩ := rfl

theorem length_inputs_unsignedRefund (hnames : List.Forall₂ Names inputs points) :
    (unsignedRefund inputs points destination csvHeight ratePerKw).inputs.length =
      inputs.length := by
  rw [inputs_unsignedRefund, List.length_map, hnames.length_eq]

/-- What is built is the signed form of the refund from the inputs' out points, if the sum of the
amounts is large enough. -/
theorem build_eq_ok_iff :
    build inputs destination csvHeight ratePerKw = .ok tx ↔
      inputs ≠ [] ∧ ∃ points signed, List.Forall₂ Names inputs points ∧
        totalSat inputs < UInt64.size ∧
        leastTotalSat (feeOf inputs points destination csvHeight ratePerKw) destination
          ≤ totalSat inputs ∧
        let unsigned := unsignedRefund inputs points destination csvHeight ratePerKw
        signInputs unsigned 0 unsigned.inputs inputs = .ok signed ∧
        tx = { unsigned with inputs := signed } := by
  have hzero : 0 < UInt64.size := by decide
  constructor
  · intro h
    unfold build at h
    dsimp only at h
    split_ifs at h with hempty
    · cases h
    · obtain ⟨⟨points, total⟩, hpoints, h⟩ := exists_of_bind_eq_ok h
      obtain ⟨hnames, htotal, hlt⟩ := (gather_eq_ok_iff hzero).1 hpoints
      rw [Nat.zero_add] at htotal
      subst htotal
      dsimp only at h
      split_ifs at h with hfunds
      · cases h
      · obtain ⟨signed, hsigned, h⟩ := exists_of_bind_eq_ok h
        cases h
        exact ⟨by simpa using hempty, points, signed, hnames, hlt, Nat.le_of_not_lt hfunds, hsigned,
          rfl⟩
  · rintro ⟨hne, points, signed, hnames, hlt, hfunds, hsigned, rfl⟩
    have hgather : gather 0 0 inputs = .ok (points, totalSat inputs) :=
      (gather_eq_ok_iff hzero).2 ⟨hnames, (Nat.zero_add _).symm, hlt⟩
    have hfunds' := Nat.not_lt_of_le hfunds
    unfold unsignedRefund feeOf at hsigned
    unfold feeOf at hfunds'
    simp only [build, List.isEmpty_iff, hne, hgather, hfunds', hsigned, if_false, bind, Except.bind,
      pure, Except.pure]
    rfl

/-- The input at an index of a transaction sweeps a swap output : it names the output's out point,
has the lock height as its sequence and the witness of the refund branch, with a signature of the
digest of the transaction by the refund key. -/
structure SweepsAt (tx : Transaction) (csvHeight : UInt32) (index : Nat) (input : RefundInput)
    (txIn : TxIn) (key : SecretKey) : Prop where
  txIn_eq : tx.inputs[index]? = some txIn
  names : Names input txIn.previous
  key_eq : SecretKey.ofBytes? input.refundKey = some key
  signatureScript_eq : txIn.signatureScript = []
  sequence_eq : txIn.sequence = csvHeight
  witness_eq : txIn.witness =
    [(Signature.sign key (tx.signatureHash index txIn input.script input.amountSat 1)).der ++ [1],
      [], input.script]

/-- What is built has one input for each output that it sweeps, in their order. -/
theorem sweepsAt_of_build (h : build inputs destination csvHeight ratePerKw = .ok tx) :
    tx.inputs.length = inputs.length ∧
      ∀ (i : Nat) (input : RefundInput), inputs[i]? = some input →
        ∃ txIn key, SweepsAt tx csvHeight i input txIn key := by
  obtain ⟨-, points, signed, hnames, -, -, hsigned, rfl⟩ := build_eq_ok_iff.1 h
  obtain ⟨hsame, hwitness⟩ := signInputs_spec (length_inputs_unsignedRefund hnames) hsigned
  refine ⟨?_, fun i input hinput => ?_⟩
  · have hcount := congrArg List.length hsame
    rwa [List.length_map, List.length_map, length_inputs_unsignedRefund hnames] at hcount
  · obtain ⟨hi, rfl⟩ := List.getElem?_eq_some_iff.1 hinput
    have hpoint : i < points.length := hnames.length_eq ▸ hi
    have htxIn : (unsignedRefund inputs points destination csvHeight ratePerKw).inputs[i]? =
        some ⟨points[i], [], csvHeight, []⟩ := by
      simp [inputs_unsignedRefund, hpoint]
    obtain ⟨key, hkey, hat⟩ := hwitness i _ inputs[i] htxIn hinput
    refine ⟨_, key, hat, hnames.get hi hpoint, hkey, rfl, rfl, ?_⟩
    rw [Transaction.signatureHash_congr hsame rfl, Transaction.signatureHash_all]
    rfl

end Refund

end LiquidityClient

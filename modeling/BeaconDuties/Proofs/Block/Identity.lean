import BeaconDuties.Block.Attestation
import BeaconDuties.Proofs.Bits
import BeaconDuties.Proofs.Bytes

/-!
Which attestations have the same identity.

The identity of an attestation is the digest of its bytes. Two fields among these have no fixed
length, the bits of the members at the beginning and the bits of the committees at the end, and
nothing tells where they end. All else has the same length in every attestation
(`Attestation.length_fixedBytes`) and is told apart (`Attestation.fixedBytes_inj`).

So the bytes of two attestations are the same if they carry the same, or if the bits of the members
go on in one of them where they end in the other, and all that follows comes later by as much
(`Attestation.Slides`). What one field gains the other one loses, so that this is only possible if
the bits of the committees differ in length (`Attestation.Slides.length_lt`).
-/

namespace BeaconDuties

theorem BitList.toBytes_inj {x y : BitList} (h : x.toBytes = y.toBytes) : x = y := by
  have hread := congrArg ofBytes h
  rw [ofBytes_toBytes, ofBytes_toBytes] at hread
  exact Except.ok.inj hread

theorem BitVector.toBytes_inj {x y : BitVector} (hx : 8 ∣ x.length) (hy : 8 ∣ y.length)
    (h : x.toBytes = y.toBytes) : x = y := by
  have hread := congrArg ofBytes h
  rwa [ofBytes_toBytes hx, ofBytes_toBytes hy] at hread

namespace Attestation

/-! ## Numbers -/

/-- Numbers with the same digits in base 256 are the same. -/
theorem eq_of_forall_digit : ∀ (count : Nat) {m n : Nat},
    (∀ i < count, m / Nat.pow 256 i % 256 = n / Nat.pow 256 i % 256) →
    m < Nat.pow 256 count → n < Nat.pow 256 count → m = n
  | 0, m, n, _, hm, hn => by
    change m < 1 at hm
    change n < 1 at hn
    omega
  | count + 1, m, n, h, hm, hn => by
    have hpow : ∀ i, Nat.pow 256 (i + 1) = 256 * Nat.pow 256 i := fun i => Nat.mul_comm _ _
    have hlow := h 0 (Nat.succ_pos count)
    have hhigh : m / 256 = n / 256 := by
      refine eq_of_forall_digit count (fun i hi => ?_) ?_ ?_
      · rw [Nat.div_div_eq_div_mul, Nat.div_div_eq_div_mul, ← hpow]
        exact h (i + 1) (Nat.succ_lt_succ hi)
      · rw [hpow] at hm
        omega
      · rw [hpow] at hn
        omega
    change m / 1 % 256 = n / 1 % 256 at hlow
    omega

@[simp] theorem length_quantityBytes {n : UInt64} : (quantityBytes n).length = 8 := by
  simp [quantityBytes]

theorem quantityBytes_inj {m n : UInt64} (h : quantityBytes m = quantityBytes n) : m = n := by
  refine UInt64.toNat_inj.1 (eq_of_forall_digit 8 (fun i hi => ?_) m.toNat_lt n.toNat_lt)
  have hbyte := congrArg UInt8.toNat (List.map_inj_left.1 h i (List.mem_range.2 hi))
  rwa [UInt8.toNat_ofNat', UInt8.toNat_ofNat'] at hbyte

end Attestation

/-! ## Fields of fixed length -/

open Attestation

/-- The bytes of a checkpoint. -/
def Checkpoint.bytes (x : Checkpoint) : List UInt8 := quantityBytes x.epoch ++ x.root.bytes

theorem Checkpoint.length_bytes {x : Checkpoint} : x.bytes.length = 40 := by
  simp [bytes, x.root.length_eq]

theorem Checkpoint.bytes_inj {x y : Checkpoint} (h : x.bytes = y.bytes) : x = y := by
  obtain ⟨hepoch, hroot⟩ := List.append_inj h (by simp)
  cases x
  cases y
  congr 1
  · exact quantityBytes_inj hepoch
  · exact FixedBytes.bytes_inj hroot

/-- The bytes of what is voted for. -/
def AttestationData.bytes (x : AttestationData) : List UInt8 :=
  quantityBytes x.slot ++ quantityBytes x.index ++ x.head.bytes ++ x.source.bytes ++ x.target.bytes

theorem AttestationData.length_bytes {x : AttestationData} : x.bytes.length = 128 := by
  simp [bytes, Checkpoint.length_bytes, x.head.length_eq]

theorem AttestationData.bytes_inj {x y : AttestationData} (h : x.bytes = y.bytes) : x = y := by
  obtain ⟨h, htarget⟩ := List.append_inj' h (by simp [Checkpoint.length_bytes])
  obtain ⟨h, hsource⟩ := List.append_inj' h (by simp [Checkpoint.length_bytes])
  obtain ⟨h, hhead⟩ := List.append_inj' h (by simp [FixedBytes.length_eq])
  obtain ⟨hslot, hindex⟩ := List.append_inj' h (by simp)
  cases x
  cases y
  congr 1
  · exact quantityBytes_inj hslot
  · exact quantityBytes_inj hindex
  · exact FixedBytes.bytes_inj hhead
  · exact Checkpoint.bytes_inj hsource
  · exact Checkpoint.bytes_inj htarget

namespace Attestation

variable {x y : Attestation}

/-- The bytes of what is voted for and of the signature. -/
def fixedBytes (x : Attestation) : List UInt8 := x.data.bytes ++ x.signature.bytes

theorem length_fixedBytes : x.fixedBytes.length = 224 := by
  simp [fixedBytes, AttestationData.length_bytes, x.signature.length_eq]

theorem fixedBytes_inj (h : x.fixedBytes = y.fixedBytes) :
    x.data = y.data ∧ x.signature = y.signature := by
  obtain ⟨hdata, hsignature⟩ := List.append_inj h (by simp [AttestationData.length_bytes])
  exact ⟨AttestationData.bytes_inj hdata, FixedBytes.bytes_inj hsignature⟩

/-! ## Fields of any length -/

/-- The bytes of the bits of the committees; there are none if there are no such bits. -/
def committeeBytes (x : Attestation) : List UInt8 :=
  (x.committeeBits?.map BitVector.toBytes).getD []

theorem identityBytes_eq :
    x.identityBytes = x.bits.toBytes ++ (x.fixedBytes ++ x.committeeBytes) := by
  simp only [identityBytes, fixedBytes, AttestationData.bytes, Checkpoint.bytes, committeeBytes,
    List.append_assoc]

/-- The bits of the committees have a whole number of bytes. -/
def Whole (x : Attestation) : Prop := ∀ bits, x.committeeBits? = some bits → 8 ∣ bits.length

/-- The bits of the committees; none if there may be only one committee. -/
def committeeBits (x : Attestation) : BitVector := x.committeeBits?.getD ⟨[]⟩

theorem toBytes_committeeBits : x.committeeBits.toBytes = x.committeeBytes := by
  cases x <;> rfl

theorem Whole.dvd (h : x.Whole) : 8 ∣ x.committeeBits.length := by
  cases x with
  | single _ => exact Nat.dvd_zero 8
  | joint _ => exact h _ rfl

/-- Two attestations are both of one committee, or both of several. -/
def SameKind (x y : Attestation) : Prop := x.committeeBits?.isSome = y.committeeBits?.isSome

/-- Two attestations carry the same, of whichever kind they are. -/
structure CarriesSame (x y : Attestation) : Prop where
  data : x.data = y.data
  bits : x.bits = y.bits
  signature : x.signature = y.signature
  committees : x.committeeBits = y.committeeBits

theorem CarriesSame.eq (h : x.CarriesSame y) (hkind : x.SameKind y) : x = y := by
  obtain ⟨hdata, hbits, hsignature, hcommittees⟩ := h
  rcases x with ⟨xbits, xdata, xsignature⟩ | ⟨xbits, xdata, xsignature, xcommittees⟩ <;>
    rcases y with ⟨ybits, ydata, ysignature⟩ | ⟨ybits, ydata, ysignature, ycommittees⟩
  · cases hdata
    cases hbits
    cases hsignature
    rfl
  · cases hkind
  · cases hkind
  · cases hdata
    cases hbits
    cases hsignature
    cases hcommittees
    rfl

theorem CarriesSame.identityBytes_eq (h : x.CarriesSame y) :
    x.identityBytes = y.identityBytes := by
  have hfixed : x.fixedBytes = y.fixedBytes := by rw [fixedBytes, fixedBytes, h.data, h.signature]
  rw [Attestation.identityBytes_eq, Attestation.identityBytes_eq, ← toBytes_committeeBits,
    ← toBytes_committeeBits, h.bits, hfixed, h.committees]

/-- The bits of the members in `y` go on where those in `x` end, and all that follows in `x` comes
    later in `y`. -/
def Slides (x y : Attestation) : Prop :=
  ∃ moved, moved ≠ [] ∧ y.bits.toBytes = x.bits.toBytes ++ moved ∧
    x.fixedBytes ++ x.committeeBytes = moved ++ (y.fixedBytes ++ y.committeeBytes)

theorem Slides.identityBytes_eq (h : x.Slides y) : x.identityBytes = y.identityBytes := by
  obtain ⟨moved, -, hbits, hrest⟩ := h
  rw [Attestation.identityBytes_eq, Attestation.identityBytes_eq, hbits, hrest, List.append_assoc]

/-- What the bits of the members gain, the bits of the committees lose. -/
theorem Slides.length_lt (h : x.Slides y) : y.committeeBytes.length < x.committeeBytes.length := by
  obtain ⟨moved, hne, -, hrest⟩ := h
  have hlength := congrArg List.length hrest
  have hpos := List.length_pos_iff.2 hne
  simp only [List.length_append, length_fixedBytes] at hlength
  omega

/-- If nothing slides, what is read at the same places is the same. -/
theorem carriesSame_of_append (hx : x.Whole) (hy : y.Whole) (hbits : x.bits.toBytes = y.bits.toBytes)
    (h : x.fixedBytes ++ x.committeeBytes = y.fixedBytes ++ y.committeeBytes) :
    x.CarriesSame y := by
  obtain ⟨hfixed, hcommittees⟩ :=
    List.append_inj h (length_fixedBytes.trans length_fixedBytes.symm)
  obtain ⟨hdata, hsignature⟩ := fixedBytes_inj hfixed
  rw [← toBytes_committeeBits, ← toBytes_committeeBits] at hcommittees
  exact ⟨hdata, BitList.toBytes_inj hbits, hsignature,
    BitVector.toBytes_inj hx.dvd hy.dvd hcommittees⟩

theorem carriesSame_or_slides (hx : x.Whole) (hy : y.Whole)
    (h : x.identityBytes = y.identityBytes) : x.CarriesSame y ∨ x.Slides y ∨ y.Slides x := by
  rw [identityBytes_eq, identityBytes_eq, List.append_eq_append_iff] at h
  rcases h with ⟨moved, hbits, hrest⟩ | ⟨moved, hbits, hrest⟩ <;> rcases eq_or_ne moved [] with rfl | hne
  · rw [List.append_nil] at hbits
    exact .inl (carriesSame_of_append hx hy hbits.symm hrest)
  · exact .inr (.inl ⟨moved, hne, hbits, hrest⟩)
  · rw [List.append_nil] at hbits
    exact .inl (carriesSame_of_append hx hy hbits hrest.symm)
  · exact .inr (.inr ⟨moved, hne, hbits, hrest⟩)

/-- **Where the bytes of two attestations are the same.** They are if both carry the same, or if
    what follows the bits of the members slides. Attestations of one kind whose committees have as
    many bits are told apart. -/
theorem identityBytes_eq_iff (hx : x.Whole) (hy : y.Whole) :
    (x.identityBytes = y.identityBytes ↔ x.CarriesSame y ∨ x.Slides y ∨ y.Slides x) ∧
    (x.SameKind y → x.committeeBytes.length = y.committeeBytes.length →
      (x.identityBytes = y.identityBytes ↔ x = y)) := by
  refine ⟨⟨carriesSame_or_slides hx hy, ?_⟩, fun hkind hlength => ⟨fun h => ?_, fun h => h ▸ rfl⟩⟩
  · rintro (h | h | h)
    · exact h.identityBytes_eq
    · exact h.identityBytes_eq
    · exact h.identityBytes_eq.symm
  · rcases carriesSame_or_slides hx hy h with h | h | h
    · exact h.eq hkind
    · have hlt := h.length_lt
      omega
    · have hlt := h.length_lt
      omega

/-- An attestation of nobody in slot 1, of a committee whose bit is in the second byte. -/
def nobody : Attestation :=
  .joint ⟨⟨[]⟩, ⟨1, 0, .zero 32, ⟨0, .zero 32⟩, ⟨0, .zero 32⟩⟩, .zero 96,
    ⟨List.replicate 8 false ++ true :: List.replicate 7 false⟩⟩

/-- An attestation of the first member of the first committee in slot 0. -/
def somebody : Attestation :=
  .joint ⟨⟨true :: List.replicate 7 false⟩, ⟨0, 0, .zero 32, ⟨0, .zero 32⟩, ⟨0, .zero 32⟩⟩, .zero 96,
    ⟨true :: List.replicate 7 false⟩⟩

theorem whole_nobody : nobody.Whole := by
  rintro _ ⟨⟩
  decide

theorem whole_somebody : somebody.Whole := by
  rintro _ ⟨⟩
  decide

/-- The bits of the members slide by the first byte of the slot. -/
theorem slides_nobody : nobody.Slides somebody :=
  ⟨[1], List.cons_ne_nil _ _, by decide, by decide +kernel⟩

/-- The bytes do not tell who has voted for what, and they do not tell the kind of an attestation
    either. -/
theorem identityBytes_confused :
    nobody.Whole ∧ somebody.Whole ∧ nobody.identityBytes = somebody.identityBytes ∧
    nobody.data ≠ somebody.data ∧ nobody.bits ≠ somebody.bits ∧
    (single ⟨nobody.bits, nobody.data, nobody.signature⟩).identityBytes =
      (joint ⟨nobody.bits, nobody.data, nobody.signature, ⟨[]⟩⟩).identityBytes := by
  refine ⟨whole_nobody, whole_somebody, slides_nobody.identityBytes_eq, by decide, by decide, ?_⟩
  exact CarriesSame.identityBytes_eq ⟨rfl, rfl, rfl, rfl⟩

/-- What follows the bits of the members may slide. Votes for two slots are told apart if both are
    of one committee. -/
theorem identityBytes_eq_iff_nobody :
    nobody.Whole ∧ somebody.Whole ∧ nobody.identityBytes = somebody.identityBytes ∧
    (single ⟨nobody.bits, nobody.data, nobody.signature⟩).identityBytes ≠
      (single ⟨nobody.bits, somebody.data, nobody.signature⟩).identityBytes := by
  have hsingle : ∀ x, (single x).Whole := fun _ _ h => nomatch h
  refine ⟨whole_nobody, whole_somebody, ?_, fun h => ?_⟩
  · exact (identityBytes_eq_iff whole_nobody whole_somebody).1.2 (.inr (.inl slides_nobody))
  · have htold := (identityBytes_eq_iff (hsingle ⟨nobody.bits, nobody.data, nobody.signature⟩)
      (hsingle ⟨nobody.bits, somebody.data, nobody.signature⟩)).2
    exact absurd ((htold rfl rfl).1 h) (by decide)

end Attestation

end BeaconDuties

import VisibleFacets.Proofs.Facet.Falling

/-!
# What scaling loses

Where not all of a sample is visible, scaling keeps the entries that come to one at least, and the
whole part of each one's share. Less than one is lost for every entry: `rescale_truncates`.
-/

namespace VisibleFacets

def totalCount : List Entry → Nat
  | [] => 0
  | entry :: entries => entry.count + totalCount entries

@[simp] theorem totalCount_nil : totalCount [] = 0 := rfl

@[simp] theorem totalCount_cons (entry : Entry) (entries : List Entry) :
    totalCount (entry :: entries) = entry.count + totalCount entries := rfl

/-- The second entry has the whole part of the first one's share, and this is not nothing. -/
structure Entry.Shares (sampleSize accessible : Nat) (entry scaled : Entry) : Prop where
  label : scaled.label = entry.label
  within : scaled.count * sampleSize ≤ entry.count * accessible
  beyond : entry.count * accessible < (scaled.count + 1) * sampleSize
  positive : 0 < scaled.count
  no_more : scaled.count ≤ entry.count

/-- A share in words of 64 bits. The product has 128, and the quotient is cut to 64 again. -/
def scaledWord (sampleSize accessible count : UInt64) : UInt64 :=
  let product := count.toBitVec.setWidth 128 * accessible.toBitVec.setWidth 128
  ⟨(product / sampleSize.toBitVec.setWidth 128).setWidth 64⟩

section Partial

variable {sampleSize accessible : Nat} (below : accessible < sampleSize)
include below

theorem lt_count_scale_add_one (entry : Entry) :
    entry.count * accessible < ((entry.scale sampleSize accessible).count + 1) * sampleSize := by
  have positive : 0 < sampleSize := Nat.zero_lt_of_lt below
  exact (Nat.div_lt_iff_lt_mul positive).mp (Nat.lt_succ_self _)

theorem shares_scale {entry : Entry} (enough : sampleSize ≤ entry.count * accessible) :
    Entry.Shares sampleSize accessible entry (entry.scale sampleSize accessible) where
  label := rfl
  within := Nat.div_mul_le_self _ _
  beyond := lt_count_scale_add_one below entry
  positive := Nat.div_pos enough (Nat.zero_lt_of_lt below)
  no_more := entry.count_scale_le (Nat.le_of_lt below)

theorem rescale_cons (entry : Entry) (entries : List Entry) :
    rescale sampleSize accessible (entry :: entries) =
      if sampleSize ≤ entry.count * accessible then
        entry.scale sampleSize accessible :: rescale sampleSize accessible entries
      else rescale sampleSize accessible entries := by
  have scaled : entry.rescaled? sampleSize accessible =
      if sampleSize ≤ entry.count * accessible then some (entry.scale sampleSize accessible)
      else none := if_neg (Nat.not_le.mpr below)
  rw [rescale_eq_filterMap, rescale_eq_filterMap, List.filterMap_cons, scaled]
  by_cases enough : sampleSize ≤ entry.count * accessible <;> simp [enough]

theorem rescale_shares (entries : List Entry) :
    List.Forall₂ (Entry.Shares sampleSize accessible)
      (entries.filter fun entry => sampleSize ≤ entry.count * accessible)
      (rescale sampleSize accessible entries) := by
  induction entries with
  | nil => simp [rescale_eq_filterMap]
  | cons entry entries ih =>
    rw [rescale_cons below]
    by_cases enough : sampleSize ≤ entry.count * accessible
    · simpa [enough] using ⟨shares_scale below enough, ih⟩
    · simpa [enough] using ih

theorem totalCount_rescale_le (entries : List Entry) :
    sampleSize * totalCount (rescale sampleSize accessible entries) ≤
      accessible * totalCount entries := by
  induction entries with
  | nil => simp [rescale_eq_filterMap]
  | cons entry entries ih =>
    have within : sampleSize * (entry.scale sampleSize accessible).count ≤
        accessible * entry.count := by
      rw [Nat.mul_comm accessible]
      exact Nat.mul_div_le _ _
    rw [rescale_cons below, totalCount_cons, Nat.mul_add]
    split
    case isTrue =>
      rw [totalCount_cons, Nat.mul_add]
      exact Nat.add_le_add within ih
    case isFalse => exact Nat.le_add_left_of_le ih

theorem le_totalCount_rescale (entries : List Entry) :
    accessible * totalCount entries ≤
      sampleSize * totalCount (rescale sampleSize accessible entries) +
        (sampleSize - 1) * entries.length := by
  induction entries with
  | nil => simp
  | cons entry entries ih =>
    rw [rescale_cons below, totalCount_cons, List.length_cons, Nat.mul_add, Nat.mul_succ,
      Nat.mul_comm accessible]
    split
    case isTrue enough =>
      have beyond := lt_count_scale_add_one below entry
      rw [Nat.succ_mul, Nat.mul_comm _ sampleSize] at beyond
      rw [totalCount_cons, Nat.mul_add]
      omega
    case isFalse few => omega

theorem toNat_scaledWord {size part : UInt64} (sizes : size.toNat = sampleSize)
    (parts : part.toNat = accessible) (count : UInt64) :
    (scaledWord size part count).toNat = count.toNat * accessible / sampleSize := by
  subst sizes parts
  have low : count.toNat < 2 ^ 64 := count.toNat_lt
  have product : count.toNat * part.toNat < 2 ^ 128 := by
    have high : part.toNat < 2 ^ 64 := part.toNat_lt
    calc count.toNat * part.toNat < 2 ^ 64 * 2 ^ 64 := Nat.mul_lt_mul'' low high
      _ = 2 ^ 128 := by decide
  have quotient : count.toNat * part.toNat / size.toNat < 2 ^ 64 :=
    Nat.lt_of_le_of_lt (Entry.count_scale_le (Nat.le_of_lt below) ⟨"", count.toNat⟩) low
  have words (word : UInt64) : (word.toBitVec.setWidth 128).toNat = word.toNat := by
    rw [BitVec.toNat_setWidth]
    exact Nat.mod_eq_of_lt (Nat.lt_trans word.toNat_lt (by decide))
  show (BitVec.setWidth 64 _).toNat = _
  rw [BitVec.toNat_setWidth, BitVec.toNat_udiv, BitVec.toNat_mul, words, words, words,
    Nat.mod_eq_of_lt product, Nat.mod_eq_of_lt quotient]

end Partial

/-- A sample seen in full changes nothing. Otherwise the entries whose share is one at least are
kept in order, each with the whole part of it, which 64-bit words compute without a loss, and the
counts lose less than one for every entry. -/
theorem rescale_truncates (sampleSize accessible : Nat) (entries : List Entry) :
    (sampleSize ≤ accessible → rescale sampleSize accessible entries = entries) ∧
    (accessible < sampleSize →
      let scaled := rescale sampleSize accessible entries
      List.Forall₂ (Entry.Shares sampleSize accessible)
        (entries.filter fun entry => sampleSize ≤ entry.count * accessible) scaled ∧
      (∀ size part : UInt64, size.toNat = sampleSize → part.toNat = accessible →
        ∀ label (count : UInt64), Entry.scale sampleSize accessible ⟨label, count.toNat⟩ =
          ⟨label, (scaledWord size part count).toNat⟩) ∧
      sampleSize * totalCount scaled ≤ accessible * totalCount entries ∧
      accessible * totalCount entries ≤
        sampleSize * totalCount scaled + (sampleSize - 1) * entries.length) := by
  constructor
  · exact fun full => rescale_of_le full entries
  · intro below
    refine ⟨rescale_shares below entries, ?_, totalCount_rescale_le below entries,
      le_totalCount_rescale below entries⟩
    intro size part sizes parts label count
    rw [toNat_scaledWord below sizes parts]
    rfl

theorem rescale_truncates_three :
    let entries : List Entry := [⟨"a", 18446744073709551615⟩, ⟨"b", 1⟩, ⟨"c", 2⟩]
    rescale 3 3 entries = entries ∧
    List.Forall₂ (Entry.Shares 3 2) [⟨"a", 18446744073709551615⟩, ⟨"c", 2⟩]
      (rescale 3 2 entries) ∧
    Entry.scale 3 2 ⟨"a", 18446744073709551615⟩ =
      ⟨"a", (scaledWord 3 2 18446744073709551615).toNat⟩ ∧
    2 * totalCount entries ≤ 3 * totalCount (rescale 3 2 entries) + 2 * 3 := by
  intro entries
  obtain ⟨shares, words, -, most⟩ := (rescale_truncates 3 2 entries).2 (by decide)
  exact ⟨(rescale_truncates 3 3 entries).1 (Nat.le_refl 3), shares,
    words 3 2 rfl rfl "a" 18446744073709551615, most⟩

end VisibleFacets

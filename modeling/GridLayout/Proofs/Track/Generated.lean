import GridLayout.Border.Basic
import GridLayout.ButtonBar
import GridLayout.Proofs.Track.Specification

/-!
# Tracks of generated grids

The grids of border layouts and button bars are made of two kinds of tracks: strips of one length
and tracks that follow the preferred sizes of their components. Both let their components fill
them. A strip can be made exactly of the lengths that are not below zero.

* `Track.strip` and `Track.elastic` are these tracks.
* `ButtonBarProperties.marginTrack_eq_ok_iff` and its siblings: they are what the builders make.
-/

namespace GridLayout

theorem Weight.le_maxWeight (weight : Weight) : weight.val ≤ maxWeight := weight.property

/-- A fixed track of one length. -/
def Track.strip (l : Length) (h : l.value.isNegative = false) (weight : Weight) : Track :=
  ⟨.fill, .fixed, l, weight.val, h, weight.le_maxWeight⟩

/-- A track that follows its components. -/
def Track.elastic (weight : Weight) : Track :=
  ⟨.fill, .preferred, .zero, weight.val, Length.isNegative_zero, weight.le_maxWeight⟩

theorem TrackBuilder.setWeight_eq (b : TrackBuilder) (weight : Weight) :
    b.setWeight weight.val = { b with weight } := by
  simp only [setWeight, Weight.ofInt?_eq_some_iff.2 (rfl : (weight.val : Int) = weight.val)]

/-- A strip can be made of a length that is not below zero with a percentage for a weight. -/
theorem ButtonBarProperties.marginTrack_eq_ok_iff {l : Length} {n : Int} {track : Track} :
    marginTrack l n = .ok track ↔
      ∃ h weight, n = (weight : Weight).val ∧ track = .strip l h weight := by
  constructor
  · intro hbuild
    unfold marginTrack TrackBuilder.setMinimum TrackBuilder.setWeight at hbuild
    split at hbuild
    · next weight hweight =>
      split at hbuild
      · next h =>
        exact ⟨h, weight, Weight.ofInt?_eq_some_iff.1 hweight, (Except.ok.inj hbuild).symm⟩
      · cases hbuild
    · split at hbuild <;> cases hbuild
  · rintro ⟨h, weight, rfl, rfl⟩
    rw [marginTrack, TrackBuilder.setWeight_eq, TrackBuilder.setMinimum, dif_pos h]
    rfl

theorem ButtonBarProperties.exists_marginTrack_iff {l : Length} {n : Int} (hzero : 0 ≤ n)
    (hhundred : n ≤ 100) :
    (∃ track, marginTrack l n = .ok track) ↔ l.value.isNegative = false := by
  simp only [marginTrack_eq_ok_iff]
  constructor
  · rintro ⟨_, h, -⟩
    exact h
  · intro h
    have hweight : n.toNat ≤ maxWeight := Int.toNat_le.2 hhundred
    exact ⟨_, h, ⟨n.toNat, hweight⟩, (Int.toNat_of_nonneg hzero).symm, rfl⟩

theorem ButtonBarProperties.buttonTrack_eq : buttonTrack = .ok (.elastic .zero) := rfl

theorem BorderProperties.fixedTrack_eq_ok_iff {l : Length} {track : Track} :
    fixedTrack l = .ok track ↔ ∃ h, track = .strip l h .zero := by
  unfold fixedTrack TrackBuilder.setMinimum
  split
  · next h =>
    constructor
    · intro hbuild
      exact ⟨h, (Except.ok.inj hbuild).symm⟩
    · rintro ⟨-, rfl⟩
      rfl
  · next h =>
    constructor
    · intro hbuild
      cases hbuild
    · rintro ⟨h', -⟩
      exact absurd h' h

theorem BorderProperties.elasticTrack_eq (weight : Weight) :
    elasticTrack weight.val = .ok (.elastic weight) := by
  rw [elasticTrack, TrackBuilder.setWeight_eq]
  rfl

end GridLayout

import GridLayout.Proofs.Grid.Arrangement
import GridLayout.Proofs.Grid.History

/-!
# Tracks that keep their size

Gaps and margins are tracks that are fixed, have no weight and belong to no group. No step of the
solver changes the size of such a track. Components of the track alone do not, because a fixed track
does not measure them; those of several tracks do not, because they enlarge elastic tracks only;
groups and shares do not, because the track takes part in neither. All of this holds in both passes.
A component could still claim more of the track by a track of its own, or by one that it is aligned
to instead.

* `Grid.IsSpacer`: the track keeps its least size.
* `Grid.IsSpacer.claim_eq`: what the components of the track alone claim.
* `Grid.IsSpacer.getD_sharedSizes`: the size of the track in every container.
* `CachedGrid.sizesIn_of_isSpacer`: it is the size that every reachable grid answers with.
-/

namespace GridLayout

/-- The track at the index is fixed, without weight and outside all groups, its least size is not
negative, and the components of the track alone are measured by it. -/
structure Grid.IsSpacer (g : Grid) (m : Measures) (axis : Axis) (i : Nat) (track : Track) :
    Prop where
  getElem?_eq : (g.tracks axis)[i]? = some track
  fixed : track.sizing = .fixed
  weight_eq : track.weight = 0
  minimum_nonneg : 0 ≤ track.minimum.toPixels m.metrics axis
  ungrouped : ∀ group ∈ g.groups axis, i ∉ group.indices
  measured : ∀ e ∈ g.components, (e.placement.along axis).span = 1 →
    (e.placement.along axis).start = i →
    (e.placement.along axis).override = none ∧ (e.placement.along axis).target = none

namespace Grid

variable {g : Grid} {m : Measures} {axis : Axis}

/-- Without an override and a target the track that a component starts in governs it. -/
theorem governing_of_start {slot : Slot} {track : Track} (hoverride : slot.override = none)
    (htarget : slot.target = none) (hstart : (g.tracks axis)[slot.start]? = some track) :
    g.governing slot axis = track := by
  simp [governing, hoverride, htarget, hstart]

/-- A fixed track does not measure the components that it governs. -/
theorem claim_of_governing_fixed {e : Entry} {track : Track}
    (hgoverning : g.governing (e.placement.along axis) axis = track)
    (hfixed : track.sizing = .fixed) (pass : Pass) :
    g.claim m pass axis e = max 0 (track.minimum.toPixels m.metrics axis) := by
  simp [claim, hgoverning, hfixed]

namespace IsSpacer

variable {i : Nat} {track : Track}

/-- The components of the track alone claim its least size. -/
theorem claim_eq (h : g.IsSpacer m axis i track) (pass : Pass) {e : Entry}
    (he : e ∈ g.aloneIn axis i) :
    g.claim m pass axis e = track.minimum.toPixels m.metrics axis := by
  obtain ⟨he, hspan, hstart⟩ : e ∈ g.components ∧ (e.placement.along axis).span = 1 ∧
      (e.placement.along axis).start = i := by
    simpa [aloneIn, Entry.isAlone] using he
  obtain ⟨hoverride, htarget⟩ := h.measured e he hspan hstart
  have hgoverning := governing_of_start hoverride htarget (hstart ▸ h.getElem?_eq)
  rw [claim_of_governing_fixed hgoverning h.fixed, max_eq_right h.minimum_nonneg]

theorem not_isWeighted (h : g.IsSpacer m axis i track) : ¬IsWeighted (g.tracks axis) i := by
  rintro ⟨other, hother, hweight⟩
  obtain rfl := Option.some.inj (h.getElem?_eq.symm.trans hother)
  exact hweight.ne' h.weight_eq

/-- The track has its least size in both passes. -/
theorem getD_equalizedSizes (h : g.IsSpacer m axis i track) (hgroups : g.GroupsInside axis)
    (pass : Pass) :
    (g.equalizedSizes m pass axis).getD i 0 = track.minimum.toPixels m.metrics axis :=
  getD_equalizedSizes_of_fixed m pass hgroups h.getElem?_eq h.fixed h.ungrouped
    fun _ he => (h.claim_eq pass he).le

/-- The track has its least size in every container. -/
theorem getD_sharedSizes (h : g.IsSpacer m axis i track) (hgroups : g.GroupsInside axis)
    (container : Int) :
    (g.sharedSizes m axis container).getD i 0 = track.minimum.toPixels m.metrics axis := by
  rw [(g.changedAt_sharedSizes m axis container).eq i h.not_isWeighted,
    h.getD_equalizedSizes hgroups]

end IsSpacer

end Grid

namespace CachedGrid

variable {g : CachedGrid}

/-- **Gaps and margins keep their size**: in a reachable grid whose placements and groups fit, a
spacer has exactly its least size in every container, whether or not the grid shrinks. -/
theorem sizesIn_of_isSpacer (h : g.Reachable) (hvalid : (g.answer .validate).1 = .ok ())
    {m : Measures} {axis : Axis} (hgroups : g.grid.GroupsInside axis) {i : Nat} {track : Track}
    (hspacer : g.grid.IsSpacer m axis i track) (container : Int) :
    ∃ sizes, (g.answer (.sizesIn m axis container)).1 = .ok sizes ∧
      sizes[i]? = some (track.minimum.toPixels m.metrics axis) := by
  have hcheck : g.grid.check = .ok () := (h.answer_eq_scan .validate).symm.trans hvalid
  have hsizes : (g.answer (.sizesIn m axis container)).1 =
      .ok (g.grid.sharedSizes m axis container) :=
    (h.answer_eq_scan _).trans (g.grid.scanSizesIn_eq_ok m hcheck hgroups container)
  have hi : i < (g.grid.sharedSizes m axis container).length := by
    rw [Grid.length_sharedSizes hgroups]
    exact (List.getElem?_eq_some_iff.1 hspacer.getElem?_eq).1
  refine ⟨_, hsizes, ?_⟩
  rw [← hspacer.getD_sharedSizes hgroups container, List.getD_eq_getElem?_getD]
  simp [hi]

/-- In the edited grid the last column keeps its 20 pixels when the grid shrinks, though the second
component reaches into it. -/
theorem sizesIn_edited_spacer :
    let m := multiples 40 1
    let g := edited [] []
    g.Reachable ∧ (g.answer .validate).1 = .ok () ∧ g.grid.GroupsInside .horizontal ∧
      ∃ track, g.grid.IsSpacer m .horizontal 2 track ∧
        ∃ sizes, (g.answer (.sizesIn m .horizontal 100)).1 = .ok sizes ∧ sizes[2]? = some 20 := by
  intro m g
  let fixed : Track := ⟨.center, .fixed, .pixels 20, 0, by decide +kernel, Nat.zero_le _⟩
  have hg : g.Reachable := reachable_edited [] []
  have hvalid : (g.answer .validate).1 = .ok () := by decide +kernel
  have hgroups : g.grid.GroupsInside .horizontal := by
    unfold Grid.GroupsInside GroupsFit
    decide +kernel
  have hspacer : g.grid.IsSpacer m .horizontal 2 fixed := by
    constructor <;> decide +kernel
  have hpixels : fixed.minimum.toPixels m.metrics .horizontal = 20 := by decide +kernel
  obtain ⟨sizes, hsizes, hsize⟩ := sizesIn_of_isSpacer hg hvalid hgroups hspacer 100
  exact ⟨hg, hvalid, hgroups, fixed, hspacer, sizes, hsizes, hpixels ▸ hsize⟩

end CachedGrid

end GridLayout

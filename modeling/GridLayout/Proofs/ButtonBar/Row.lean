import Mathlib.Tactic.LinearCombination
import GridLayout.Proofs.Layout.History

/-!
# Buttons in a row

In every layout of a bar the buttons have one width and stand in a row with the gap between them.
The margins take what is left of the container, as the alignment says: all of it goes to the left or
to the right, or half of it to each side, and a pixel more to the left. All of this is so as long as
32 bits hold the widths and the positions.

* `ButtonBarProperties.buttonWidth` and `ButtonBarProperties.baseWidth`: the widths in a pass.
* `ButtonBar.exists_arrange_iff`: when there is a layout.
* `Arrangement.IsRow`: where the buttons are.
* `ButtonBar.isRow_of_arrange`: they are there in every layout of a bar with any history.
-/

namespace GridLayout

open Finset

/-! ## Sums over the columns of a bar -/

/-- Of a sum with nothing but its ends these are left. -/
theorem sum_range_ends {M : Type} [AddCommMonoid M] {f : Nat → M} {last : Nat} (hlast : 0 < last)
    (h : ∀ i, 0 < i → i < last → f i = 0) : ∑ i ∈ range (last + 1), f i = f 0 + f last := by
  obtain ⟨k, rfl⟩ := Nat.exists_eq_succ_of_ne_zero hlast.ne'
  rw [sum_range_succ, sum_range_succ', sum_eq_zero, zero_add]
  intro i hi
  exact h (i + 1) (Nat.succ_pos i) (Nat.succ_lt_succ (mem_range.1 hi))

/-- What stands before a button: the left margin, and all buttons before it with their gaps. -/
theorem sum_range_row {f : Nat → Int} {count : Nat} {width gap : Int}
    (hwidth : ∀ k, k < count → f (2 * k + 1) = width)
    (hgap : ∀ k, k + 1 < count → f (2 * k + 2) = gap) {i : Nat} (hi : i < count) :
    ∑ j ∈ range (2 * i + 1), f j = f 0 + i * (width + gap) := by
  induction i with
  | zero => simp
  | succ i ih =>
    have hbefore := ih (by omega)
    rw [show 2 * (i + 1) + 1 = 2 * i + 1 + 1 + 1 by omega, sum_range_succ, sum_range_succ, hbefore,
      hwidth i (by omega), hgap i hi]
    push_cast
    ring

namespace ButtonBarProperties

/-! ## Widths -/

section

variable (p : ButtonBarProperties) (m : Measures) (pass : Pass)

/-- The width of the buttons in a pass, that of the widest one. -/
def buttonWidth : Int :=
  p.buttons.foldl (fun width id => max width (m.extent pass id .horizontal)) 0

/-- The width of all margins, buttons and gaps in a pass. -/
def baseWidth : Int :=
  p.spacing.leftMargin.toPixels m.metrics .horizontal + p.buttons.length * p.buttonWidth m pass +
    (p.buttons.length - 1) * p.spacing.gap.toPixels m.metrics .horizontal +
    p.spacing.rightMargin.toPixels m.metrics .horizontal

/-- The pass whose widths are laid out in a container. -/
def fittingPass (container : Int) : Pass :=
  if p.canShrink = false ∨ p.baseWidth m .preferred ≤ container then .preferred else .minimum

/-- What is left of the container besides the widths. -/
def slack (container : Int) : Int :=
  max 0 (container - p.baseWidth m (p.fittingPass m container))

theorem buttonWidth_le_iff {width : Int} :
    p.buttonWidth m pass ≤ width ↔
      0 ≤ width ∧ ∀ id ∈ p.buttons, m.extent pass id .horizontal ≤ width := by
  have h : ∀ (ids : List ComponentId) (start : Int),
      ids.foldl (fun width id => max width (m.extent pass id .horizontal)) start ≤ width ↔
        start ≤ width ∧ ∀ id ∈ ids, m.extent pass id .horizontal ≤ width := by
    intro ids
    induction ids with
    | nil => simp
    | cons id ids ih =>
      intro start
      rw [List.foldl_cons, ih, max_le_iff, List.forall_mem_cons, and_assoc]
  exact h _ _

end

/-- The parts of the slack left and right of the buttons. -/
def slackBeside (alignment : ButtonAlignment) (slack : Int) : Int × Int :=
  match alignment with
  | .left => (0, slack)
  | .center => ((slack + 1) / 2, slack / 2)
  | .right => (slack, 0)

theorem slackBeside_add (alignment : ButtonAlignment) (slack : Int) :
    (slackBeside alignment slack).1 + (slackBeside alignment slack).2 = slack := by
  cases alignment <;> simp only [slackBeside] <;> omega

/-- The left part is a floored share, with the pixel that the two shares may leave over. -/
theorem slackBeside_fst (alignment : ButtonAlignment) (slack : Int) :
    (slackBeside alignment slack).1 = slack * alignment.leftWeight / 100 +
      if 0 < alignment.leftWeight ∧ 0 < slack - (slack * alignment.leftWeight / 100 +
        slack * alignment.rightWeight / 100) then 1 else 0 := by
  by_cases hpixel : 0 < slack - (slack * alignment.leftWeight / 100 +
      slack * alignment.rightWeight / 100)
  · simp only [hpixel, and_true]
    cases alignment <;>
      simp only [slackBeside, ButtonAlignment.leftWeight, ButtonAlignment.rightWeight]
        at hpixel ⊢ <;>
      simp <;> omega
  · simp only [hpixel, and_false, if_false]
    cases alignment <;>
      simp only [slackBeside, ButtonAlignment.leftWeight, ButtonAlignment.rightWeight]
        at hpixel ⊢ <;>
      omega

namespace IsGrid

variable {p : ButtonBarProperties} {g : Grid} (m : Measures) (pass : Pass)

/-! ## Base sizes -/

/-- A strip has its length. -/
theorem getD_equalizedSizes_strip (h : p.IsGrid g) {i : Nat} (heven : i % 2 = 0) {l : Length}
    {hnonneg : l.value.isNegative = false} {weight : Weight}
    (htrack : (g.tracks .horizontal)[i]? = some (.strip l hnonneg weight)) :
    (g.equalizedSizes m pass .horizontal).getD i 0 = l.toPixels m.metrics .horizontal := by
  have hcolumn (k : Nat) : i ≠ ButtonBarProperties.buttonColumn k := by
    unfold ButtonBarProperties.buttonColumn
    omega
  refine Grid.getD_equalizedSizes_of_fixed m pass (h.groupsInside _) htrack rfl
    (fun group hgroup => ?_) fun e he => ?_
  · rcases h.columnGroups_eq with ⟨-, only, honly, hmem⟩ | ⟨-, hnone⟩
    · rw [honly, List.mem_singleton] at hgroup
      subst hgroup
      rintro hi
      obtain ⟨k, -, hk⟩ := (hmem i).1 hi
      exact hcolumn k hk
    · simp [hnone] at hgroup
  · obtain ⟨k, -, -, hk, -⟩ := h.mem_aloneIn.1 he
    exact absurd hk (hcolumn k)

theorem governing_button (h : p.IsGrid g) {k : Nat} (hk : k < p.buttons.length) :
    g.governing (.single (ButtonBarProperties.buttonColumn k)) .horizontal = .elastic .zero := by
  simp [Grid.governing, Slot.single, h.buttonColumn hk]

/-- Before the group is applied each button has its own width. -/
theorem getD_scanCellSizes_button (h : p.IsGrid g) {k : Nat} {id : ComponentId}
    (hid : p.buttons[k]? = some id) :
    (g.scanCellSizes m pass .horizontal).getD (ButtonBarProperties.buttonColumn k) 0 =
      max (m.extent pass id .horizontal) 0 := by
  have hk : k < p.buttons.length := (List.getElem?_eq_some_iff.1 hid).1
  have hclaim : g.claim m pass .horizontal
      ⟨id, .single (ButtonBarProperties.buttonColumn k) 1⟩ =
        max (m.extent pass id .horizontal) 0 := by
    have hgoverning := h.governing_button hk
    simp only [Grid.claim, Placement.single, PerAxis.along, hgoverning]
    change max (m.extent pass id .horizontal) (Length.zero.toPixels m.metrics .horizontal) = _
    rw [toPixels_zero]
  have hzero : (Track.elastic .zero).minimum.toPixels m.metrics .horizontal = 0 := toPixels_zero _ _
  rw [Grid.scanCellSizes, h.spanning_eq_nil, List.foldl_nil,
    g.getD_scanBaseSizes m pass .horizontal (h.buttonColumn hk)]
  apply le_antisymm
  · rw [Grid.baseSize_le_iff]
    refine ⟨hzero.trans_le (le_max_right _ _), fun e he => ?_⟩
    obtain ⟨k', id', hid', hcolumn, rfl⟩ := h.mem_aloneIn.1 he
    obtain rfl : k = k' := by
      unfold ButtonBarProperties.buttonColumn at hcolumn
      omega
    obtain rfl := Option.some.inj (hid.symm.trans hid')
    exact hclaim.le
  · have halone := h.mem_aloneIn.2 ⟨k, id, hid, rfl, rfl⟩
    exact hclaim.symm.trans_le (g.claim_le_baseSize m pass .horizontal _ halone)

/-- All buttons are as wide as the widest one. -/
theorem getD_equalizedSizes_button (h : p.IsGrid g) {k : Nat} (hk : k < p.buttons.length) :
    (g.equalizedSizes m pass .horizontal).getD (ButtonBarProperties.buttonColumn k) 0 =
      p.buttonWidth m pass := by
  have hown {k : Nat} (hk : k < p.buttons.length) :=
    h.getD_scanCellSizes_button m pass (List.getElem?_eq_getElem hk)
  have hle {k : Nat} (hk : k < p.buttons.length) :
      (g.scanCellSizes m pass .horizontal).getD (ButtonBarProperties.buttonColumn k) 0 ≤
        p.buttonWidth m pass := by
    obtain ⟨hnonneg, hwidth⟩ := (p.buttonWidth_le_iff m pass).1 le_rfl
    rw [hown hk]
    exact max_le (hwidth _ (List.getElem_mem hk)) hnonneg
  have hge {width : Int} (hwidth : ∀ k, k < p.buttons.length →
      (g.scanCellSizes m pass .horizontal).getD (ButtonBarProperties.buttonColumn k) 0 ≤ width) :
      p.buttonWidth m pass ≤ width := by
    have hnonneg : 0 ≤ width := by
      have hfirst := hwidth k hk
      rw [hown hk] at hfirst
      exact (le_max_right _ _).trans hfirst
    rw [buttonWidth_le_iff]
    refine ⟨hnonneg, fun id hid => ?_⟩
    obtain ⟨k', hk', rfl⟩ := List.getElem_of_mem hid
    have hbutton := hwidth k' hk'
    rw [hown hk'] at hbutton
    exact (le_max_left _ _).trans hbutton
  rcases h.columnGroups_eq with ⟨-, group, honly, hmem⟩ | ⟨hfew, hnone⟩
  · have hfit : group.maxIndex < (g.scanCellSizes m pass .horizontal).length := by
      rw [Grid.length_scanCellSizes]
      exact h.groupsInside .horizontal group (by simp [honly])
    have hequalized : g.equalizedSizes m pass .horizontal =
        group.equalize (g.scanCellSizes m pass .horizontal) := by
      rw [Grid.equalizedSizes, honly]
      rfl
    rw [hequalized, TrackGroup.getD_equalize hfit, if_pos ((hmem _).2 ⟨k, hk, rfl⟩)]
    obtain ⟨⟨i, hi, hlargest⟩, hall⟩ := group.largest_spec (g.scanCellSizes m pass .horizontal)
    apply le_antisymm
    · obtain ⟨k', hk', rfl⟩ := (hmem i).1 hi
      rw [hlargest]
      exact hle hk'
    · exact hge fun k' hk' => hall _ ((hmem _).2 ⟨k', hk', rfl⟩)
  · have hequalized : g.equalizedSizes m pass .horizontal = g.scanCellSizes m pass .horizontal := by
      rw [Grid.equalizedSizes, hnone]
      rfl
    rw [hequalized]
    refine le_antisymm (hle hk) (hge fun k' hk' => ?_)
    rw [show k' = k by omega]

/-! ## Widths in a container -/

/-- Only the margins have weights. -/
theorem weightAt_eq_zero (h : p.IsGrid g) {i : Nat} (hfirst : 0 < i)
    (hlast : i < 2 * p.buttons.length) : weightAt (g.tracks .horizontal) i = 0 := by
  rcases Nat.even_or_odd' i with ⟨k, rfl | rfl⟩
  · obtain ⟨k, rfl⟩ := Nat.exists_eq_succ_of_ne_zero (show k ≠ 0 by omega)
    obtain ⟨hnonneg, htrack⟩ := h.gap (i := k) (by omega)
    exact weightAt_eq htrack
  · exact weightAt_eq (h.buttonColumn (i := k) (by omega))

/-- The weights of the margins are those of the alignment. -/
theorem weightAt_margins (h : p.IsGrid g) (hne : p.buttons ≠ []) :
    (weightAt (g.tracks .horizontal) 0 : Int) = p.alignment.leftWeight ∧
      (weightAt (g.tracks .horizontal) (2 * p.buttons.length) : Int) = p.alignment.rightWeight := by
  obtain ⟨_, left, hleft, hfirst⟩ := h.leftMargin hne
  obtain ⟨_, right, hright, hlast⟩ := h.rightMargin
  rw [weightAt_eq hfirst, weightAt_eq hlast]
  exact ⟨hleft.symm, hright.symm⟩

/-- Together the margins have all of the weight. -/
theorem weightSum_eq (h : p.IsGrid g) (hne : p.buttons ≠ []) : g.weightSum .horizontal = 100 := by
  have hcount := List.length_pos_of_ne_nil hne
  obtain ⟨hleft, hright⟩ := h.weightAt_margins hne
  have hsum : g.weightSum .horizontal = weightAt (g.tracks .horizontal) 0 +
      weightAt (g.tracks .horizontal) (2 * p.buttons.length) := by
    change ((g.tracks .horizontal).map Track.weight).sum = _
    rw [sum_weights_eq, show (g.tracks .horizontal).length = _ from h.count_eq]
    exact sum_range_ends (by omega) fun i => h.weightAt_eq_zero
  have hmargins : p.alignment.leftWeight + p.alignment.rightWeight = 100 := by
    cases p.alignment <;> rfl
  omega

theorem sharesSum_eq (h : p.IsGrid g) (hne : p.buttons ≠ []) (space : Int) {sizes : List Int}
    (hlen : sizes.length = (g.tracks .horizontal).length) :
    sharesSum space 100 sizes (g.tracks .horizontal) =
      space * p.alignment.leftWeight / 100 + space * p.alignment.rightWeight / 100 := by
  have hcount := List.length_pos_of_ne_nil hne
  obtain ⟨hleft, hright⟩ := h.weightAt_margins hne
  rw [sharesSum_eq_sum space 100 hlen, show (g.tracks .horizontal).length = _ from h.count_eq,
    sum_range_ends (by omega), hleft, hright]
  · rfl
  · intro i hfirst hlast
    simp [h.weightAt_eq_zero hfirst hlast]

/-- The widths of all columns but the margins. -/
theorem getD_equalizedSizes_between (h : p.IsGrid g) :
    (∀ k, k < p.buttons.length →
      (g.equalizedSizes m pass .horizontal).getD (2 * k + 1) 0 = p.buttonWidth m pass) ∧
    ∀ k, k + 1 < p.buttons.length → (g.equalizedSizes m pass .horizontal).getD (2 * k + 2) 0 =
      p.spacing.gap.toPixels m.metrics .horizontal := by
  refine ⟨fun k hk => h.getD_equalizedSizes_button m pass hk, fun k hk => ?_⟩
  obtain ⟨hnonneg, htrack⟩ := h.gap hk
  exact h.getD_equalizedSizes_strip m pass (by omega) htrack

theorem total_equalizedSizes (h : p.IsGrid g) (hne : p.buttons ≠ []) :
    total (g.equalizedSizes m pass .horizontal) = p.baseWidth m pass := by
  obtain ⟨k, hk⟩ := Nat.exists_eq_succ_of_ne_zero (List.length_pos_of_ne_nil hne).ne'
  obtain ⟨_, _, -, hfirst⟩ := h.leftMargin hne
  obtain ⟨_, _, -, hlast⟩ := h.rightMargin
  obtain ⟨hwidth, hgap⟩ := h.getD_equalizedSizes_between m pass
  have hleft := h.getD_equalizedSizes_strip m pass (by omega) hfirst
  have hright := h.getD_equalizedSizes_strip m pass (by omega) hlast
  rw [total_eq_sum, Grid.length_equalizedSizes m pass (h.groupsInside _), h.count_eq]
  rw [hk] at hright ⊢
  rw [show 2 * (k + 1) + 1 = 2 * k + 1 + 1 + 1 by omega, sum_range_succ, sum_range_succ,
    sum_range_row hwidth hgap (by omega), hleft, hwidth k (by omega),
    show 2 * k + 1 + 1 = 2 * (k + 1) by omega, hright, baseWidth, hk]
  push_cast
  ring

/-- The pass that is laid out is the one whose widths fit, or the minimum one. -/
theorem fittingPass_eq (h : p.IsGrid g) (hne : p.buttons ≠ []) {container : Int}
    (hfit : g.SizingFits m .horizontal container) :
    g.fittingPass m .horizontal container = p.fittingPass m container := by
  have hkeeps : g.KeepsPreferred m .horizontal container ↔
      p.canShrink = false ∨ p.baseWidth m .preferred ≤ container := by
    rw [hfit.keepsPreferred_iff, h.total_equalizedSizes m .preferred hne, h.canShrink]
  exact if_congr hkeeps rfl rfl

/-- The left margin takes the part of the slack that the alignment gives it. -/
theorem getD_sharedSizes_zero (h : p.IsGrid g) (hne : p.buttons ≠ []) {container : Int}
    (hfit : g.SizingFits m .horizontal container) :
    (g.sharedSizes m .horizontal container).getD 0 0 =
      p.spacing.leftMargin.toPixels m.metrics .horizontal +
        (slackBeside p.alignment (p.slack m container)).1 := by
  obtain ⟨_, _, -, hfirst⟩ := h.leftMargin hne
  have hbase := h.getD_equalizedSizes_strip m (p.fittingPass m container) (by omega)
    hfirst
  have htotal := h.total_equalizedSizes m (p.fittingPass m container) hne
  have hlen : (g.equalizedSizes m (p.fittingPass m container) .horizontal).length =
      (g.tracks .horizontal).length := Grid.length_equalizedSizes m _ (h.groupsInside _)
  have hshares := hfit.shares
  rw [h.fittingPass_eq m hne hfit, h.weightSum_eq hne] at hshares
  rw [Grid.sharedSizes, h.fittingPass_eq m hne hfit, h.weightSum_eq hne]
  by_cases hspace : 0 < container - p.baseWidth m (p.fittingPass m container)
  · have hcount : 0 < (g.tracks .horizontal).length := (List.getElem?_eq_some_iff.1 hfirst).1
    have hslack : p.slack m container = container - p.baseWidth m (p.fittingPass m container) :=
      max_eq_right hspace.le
    have hweight := (h.weightAt_margins hne).1
    rw [getD_shareOut hshares (htotal.symm ▸ hspace) (by decide) (hlen ▸ hcount), htotal, ← hslack,
      hbase, slackBeside_fst, ← h.sharesSum_eq hne _ hlen]
    simp only [← hweight, Int.natCast_pos]
    rfl
  · have hslack : p.slack m container = 0 := max_eq_left (by omega)
    rw [shareOut_eq_self (.inl (by omega)), hbase, hslack]
    cases p.alignment <;> simp [slackBeside]

/-- The widths of all columns but the margins in a container. -/
theorem getD_sharedSizes_between (h : p.IsGrid g) (hne : p.buttons ≠ []) {container : Int}
    (hfit : g.SizingFits m .horizontal container) :
    (∀ k, k < p.buttons.length → (g.sharedSizes m .horizontal container).getD (2 * k + 1) 0 =
      p.buttonWidth m (p.fittingPass m container)) ∧
    ∀ k, k + 1 < p.buttons.length → (g.sharedSizes m .horizontal container).getD (2 * k + 2) 0 =
      p.spacing.gap.toPixels m.metrics .horizontal := by
  have hgrown := hfit.grownAt
  rw [h.fittingPass_eq m hne hfit] at hgrown
  have hsame {i : Nat} (hfirst : 0 < i) (hlast : i < 2 * p.buttons.length) :=
    hgrown.eq i (by simp [isWeighted_iff, h.weightAt_eq_zero hfirst hlast])
  obtain ⟨hwidth, hgap⟩ := h.getD_equalizedSizes_between m (p.fittingPass m container)
  exact ⟨fun k hk => (hsame (by omega) (by omega)).trans (hwidth k hk),
    fun k hk => (hsame (by omega) (by omega)).trans (hgap k hk)⟩

/-! ## The buttons -/

/-- Where a button starts, and how wide it is. -/
theorem interval_button (h : p.IsGrid g) {start container : Int}
    (hsizing : g.SizingFits m .horizontal container)
    (hplaces : g.PlacesFit m .horizontal start (g.sharedSizes m .horizontal container)) {k : Nat}
    {id : ComponentId} (hid : p.buttons[k]? = some id) :
    let sizes := g.sharedSizes m .horizontal container
    g.interval m .horizontal ⟨id, .single (ButtonBarProperties.buttonColumn k) 1⟩ sizes
        (positions start sizes) =
      (start + p.spacing.leftMargin.toPixels m.metrics .horizontal +
        (slackBeside p.alignment (p.slack m container)).1 + k *
          (p.buttonWidth m (p.fittingPass m container) +
            p.spacing.gap.toPixels m.metrics .horizontal),
        p.buttonWidth m (p.fittingPass m container)) := by
  intro sizes
  have hk : k < p.buttons.length := (List.getElem?_eq_some_iff.1 hid).1
  have hne : p.buttons ≠ [] := List.ne_nil_of_length_pos (by omega)
  obtain ⟨hwidth, hgap⟩ := h.getD_sharedSizes_between m hne hsizing
  have hlen : sizes.length = 2 * p.buttons.length + 1 :=
    (Grid.length_sharedSizes (h.groupsInside _) container).trans h.count_eq
  have hgoverning := h.governing_button hk
  have hposition : (positions start sizes).getD (2 * k + 1) 0 = start +
      (sizes.getD 0 0 + k * (p.buttonWidth m (p.fittingPass m container) +
        p.spacing.gap.toPixels m.metrics .horizontal)) := by
    rw [getD_positions hplaces.positions (show 2 * k + 1 < sizes.length by omega),
      sum_range_row hwidth hgap hk]
  have hextent : (Slot.single (ButtonBarProperties.buttonColumn k)).extent sizes =
      p.buttonWidth m (p.fittingPass m container) := by
    simp only [Slot.extent_eq_sum, Slot.single, Slot.stop, sum_Ico_succ_top (Nat.le_refl _),
      Ico_self, sum_empty, zero_add]
    exact hwidth k hk
  have hcomponent : (⟨id, .single (ButtonBarProperties.buttonColumn k) 1⟩ : Entry) ∈ g.components :=
    h.components ▸ List.mem_of_getElem? ((p.getElem?_entries k).trans (by rw [hid]; rfl))
  have hheld := wrap_eq_self (hplaces.extent _ hcomponent)
  simp only [Placement.single, PerAxis.along] at hheld
  simp only [Grid.interval, Placement.single, PerAxis.along, hgoverning]
  rw [hheld, hextent]
  change ((positions start sizes).getD (2 * k + 1) 0, _) = _
  rw [hposition, h.getD_sharedSizes_zero m hne hsizing]
  simp only [add_assoc]

/-- A button ends where 32 bits reach. -/
theorem representable_stop (h : p.IsGrid g) {start container : Int}
    (hsizing : g.SizingFits m .horizontal container)
    (hplaces : g.PlacesFit m .horizontal start (g.sharedSizes m .horizontal container)) {k : Nat}
    (hk : k < p.buttons.length) :
    Representable (start + p.spacing.leftMargin.toPixels m.metrics .horizontal +
      (slackBeside p.alignment (p.slack m container)).1 + k *
        (p.buttonWidth m (p.fittingPass m container) +
          p.spacing.gap.toPixels m.metrics .horizontal) +
      p.buttonWidth m (p.fittingPass m container)) := by
  have hne : p.buttons ≠ [] := List.ne_nil_of_length_pos (by omega)
  have hlen : (g.sharedSizes m .horizontal container).length = 2 * p.buttons.length + 1 :=
    (Grid.length_sharedSizes (h.groupsInside _) container).trans h.count_eq
  obtain ⟨hwidth, hgap⟩ := h.getD_sharedSizes_between m hne hsizing
  have hstop := hplaces.positions (2 * k + 1 + 1) (by omega)
  rw [sum_range_succ, sum_range_row hwidth hgap hk, hwidth k hk,
    h.getD_sharedSizes_zero m hne hsizing] at hstop
  simpa only [add_assoc] using hstop

end IsGrid

/-! ## Bars with a history -/

/-- No edit puts a button into a bar twice. -/
theorem nodup_after (b : ButtonBar) (edit : ButtonEdit) (h : b.properties.buttons.Nodup) :
    (b.after edit).properties.buttons.Nodup := by
  cases edit with
  | setSpacing | setAlignment | setCanShrink => exact h
  | add id =>
    refine List.nodup_append.2 ⟨h.filter _, List.nodup_singleton id, fun a ha b hb => ?_⟩
    obtain rfl := List.mem_singleton.1 hb
    simpa using (List.mem_filter.1 ha).2
  | remove id =>
    simp only [ButtonBar.after, ButtonBar.remove]
    split
    · exact h.filter _
    · exact h

end ButtonBarProperties

theorem Layout.Reaches.nodup_buttons {b : ButtonBar}
    (h : (Layout.buttons .new).Reaches (.buttons b)) : b.properties.buttons.Nodup := by
  obtain ⟨b', hb, hnodup⟩ := h.buttons (P := fun p => p.buttons.Nodup) List.nodup_nil
    ButtonBarProperties.nodup_after
  rwa [Layout.buttons.inj hb]

/-- The buttons of a bar stand in a row: they have one width, the gap is between any two of them,
and they leave the margins and the slack on both sides. The row starts at `start`, and the columns
are laid out in the extent `container`. -/
structure Arrangement.IsRow (a : Arrangement) (p : ButtonBarProperties) (m : Measures)
    (start container : Int) : Prop where
  ids : a.bounds.map Prod.fst = p.buttons
  width : ∀ entry ∈ a.bounds, entry.2.width = p.buttonWidth m (p.fittingPass m container)
  gap : ∀ (i : Nat) (entry next : ComponentId × Rect), a.bounds[i]? = some entry →
    a.bounds[i + 1]? = some next →
      next.2.x = entry.2.right + p.spacing.gap.toPixels m.metrics .horizontal
  first : ∀ entry, a.bounds.head? = some entry →
    entry.2.x = start + p.spacing.leftMargin.toPixels m.metrics .horizontal +
      (ButtonBarProperties.slackBeside p.alignment (p.slack m container)).1
  last : ∀ entry, a.bounds.getLast? = some entry →
    entry.2.right + p.spacing.rightMargin.toPixels m.metrics .horizontal +
      (ButtonBarProperties.slackBeside p.alignment (p.slack m container)).2 =
        start + max container (p.baseWidth m (p.fittingPass m container))

namespace ButtonBarProperties

variable {p : ButtonBarProperties} {g : Grid} {m : Measures} {insets : Insets} {container : Size}

/-- The rectangle at a place is that of the button there. -/
theorem rect_arranged (hgrid : p.IsGrid g) (hfit : g.LayoutFits m .horizontal insets container)
    {k : Nat} {entry : ComponentId × Rect}
    (hk : (g.arranged m insets container).bounds[k]? = some entry) :
    let width := (insets.shrink container).width
    p.buttons[k]? = some entry.1 ∧
      entry.2.x = insets.left + p.spacing.leftMargin.toPixels m.metrics .horizontal +
        (slackBeside p.alignment (p.slack m width)).1 + k *
          (p.buttonWidth m (p.fittingPass m width) + p.spacing.gap.toPixels m.metrics .horizontal) ∧
      entry.2.width = p.buttonWidth m (p.fittingPass m width) ∧
      entry.2.right = entry.2.x + entry.2.width := by
  intro width
  have hbounds : (g.arranged m insets container).bounds = g.components.map
      (g.placed m (g.arranged m insets container).sizes
        (g.arranged m insets container).positions) := rfl
  rw [hbounds, List.getElem?_map, hgrid.components, getElem?_entries, Option.map_map] at hk
  obtain ⟨id, hid, rfl⟩ := Option.map_eq_some_iff.1 hk
  have hinterval := Grid.intervals_placed (g := g) (m := m)
    (g.arranged m insets container).sizes (g.arranged m insets container).positions
    ⟨id, .single (buttonColumn k) 1⟩ .horizontal
  rw [Grid.sizes_arranged, Grid.positions_arranged] at hinterval
  have hbutton := hinterval.trans (hgrid.interval_button m hfit.sizing hfit.places hid)
  obtain ⟨hx, hwidth⟩ := Prod.mk.inj hbutton
  have hstop := hgrid.representable_stop m hfit.sizing hfit.places
    (List.getElem?_eq_some_iff.1 hid).1
  refine ⟨hid, hx, hwidth, wrap_eq_self ?_⟩
  exact (congrArg₂ (· + ·) hx hwidth).symm ▸ hstop

theorem isRow_arranged (hgrid : p.IsGrid g) (hne : p.buttons ≠ [])
    (hfit : g.LayoutFits m .horizontal insets container) :
    (g.arranged m insets container).IsRow p m insets.left (insets.shrink container).width := by
  have hrect {k : Nat} {entry : ComponentId × Rect}
      (hk : (g.arranged m insets container).bounds[k]? = some entry) :=
    rect_arranged hgrid hfit hk
  have hids : (g.arranged m insets container).bounds.map Prod.fst = p.buttons := by
    rw [← p.map_id_entries, ← hgrid.components]
    simp [Grid.arranged, Grid.placed]
  constructor
  · exact hids
  · intro entry hentry
    obtain ⟨k, hk⟩ := List.mem_iff_getElem?.1 hentry
    exact (hrect hk).2.2.1
  · intro i entry next hentry hnext
    obtain ⟨-, hx, hwidth, hright⟩ := hrect hentry
    obtain ⟨-, hx', -⟩ := hrect hnext
    rw [hx', hright, hx, hwidth]
    push_cast
    ring
  · intro entry hentry
    rw [List.head?_eq_getElem?] at hentry
    obtain ⟨-, hx, -⟩ := hrect hentry
    rw [hx]
    simp
  · intro entry hentry
    have hlength : (g.arranged m insets container).bounds.length = p.buttons.length := by
      rw [← hids, List.length_map]
    obtain ⟨k, hk⟩ := Nat.exists_eq_succ_of_ne_zero (List.length_pos_of_ne_nil hne).ne'
    rw [List.getLast?_eq_getElem?, hlength, hk] at hentry
    obtain ⟨-, hx, hwidth, hright⟩ := hrect hentry
    have hadd := slackBeside_add p.alignment (p.slack m (insets.shrink container).width)
    have hmax : max (insets.shrink container).width
        (p.baseWidth m (p.fittingPass m (insets.shrink container).width)) =
          p.baseWidth m (p.fittingPass m (insets.shrink container).width) +
            p.slack m (insets.shrink container).width := by
      unfold slack
      omega
    rw [hmax, hright, hx, hwidth, baseWidth, hk]
    push_cast
    linear_combination hadd

end ButtonBarProperties

/-- A button bar can be laid out, in any container, exactly if no length that it uses is below
zero. -/
theorem ButtonBar.exists_arrange_iff {b : ButtonBar}
    (h : (Layout.buttons .new).Reaches (.buttons b)) (m : Measures) (insets : Insets)
    (container : Size) :
    (∃ a, ((Layout.buttons b).answer (.arrange m insets container)).1 = .ok a) ↔
      b.properties.LengthsNonneg := by
  rw [← ButtonBarProperties.exists_build_iff]
  refine (h.fresh Layout.IsInitial.newButtons.fresh).exists_arrange_iff fun g hbuild => ?_
  have hgrid := ButtonBarProperties.isGrid_of_build h.nodup_buttons hbuild
  exact ⟨hgrid.check_eq_ok, hgrid.groupsInside⟩

/-- **Buttons stand in a row**, in every layout of a bar with any history whose columns are laid out
in 32 bits. -/
theorem ButtonBar.isRow_of_arrange {b : ButtonBar}
    (h : (Layout.buttons .new).Reaches (.buttons b)) (hne : b.properties.buttons ≠ [])
    {m : Measures} {insets : Insets} {container : Size} {a : Arrangement}
    (harrange : ((Layout.buttons b).answer (.arrange m insets container)).1 = .ok a)
    (hfit : (Layout.buttons b).LayoutFits m .horizontal insets container) :
    a.IsRow b.properties m insets.left (insets.shrink container).width := by
  obtain ⟨g, hbuild, -, -, rfl⟩ :=
    (h.fresh Layout.IsInitial.newButtons.fresh).arranged_of_answer harrange
  exact ButtonBarProperties.isRow_arranged
    (ButtonBarProperties.isGrid_of_build h.nodup_buttons hbuild) hne (hfit g hbuild)

/-- Two buttons in the middle of a bar; of 25 pixels the left one is given one more. -/
theorem ButtonBar.isRow_centered :
    let b := ((ButtonBar.new.after (.setAlignment .center)).after (.add ⟨1⟩)).after (.add ⟨2⟩)
    let m := CachedGrid.multiples 40 1
    let a : Arrangement := ⟨⟨[19, 80, 3, 80, 18], [3, 2, 3]⟩, ⟨[0, 19, 99, 102, 182], [0, 3, 5]⟩,
      [(⟨1⟩, ⟨19, -16, 80, 40⟩), (⟨2⟩, ⟨102, -36, 80, 80⟩)]⟩
    ((Layout.buttons b).answer (.arrange m .zero ⟨200, 50⟩)).1 = .ok a ∧
      a.IsRow b.properties m 0 200 := by
  intro b m a
  have hreaches : (Layout.buttons .new).Reaches (.buttons b) :=
    ((Layout.Reaches.refl.after (.buttons (.setAlignment .center))).after
      (.buttons (.add ⟨1⟩))).after (.buttons (.add ⟨2⟩))
  have hne : b.properties.buttons ≠ [] := by decide
  have harrange : ((Layout.buttons b).answer (.arrange m .zero ⟨200, 50⟩)).1 = .ok a := by
    decide +kernel
  have hfit : (Layout.buttons b).LayoutFits m .horizontal .zero ⟨200, 50⟩ := by decide +kernel
  exact ⟨harrange, isRow_of_arrange hreaches hne harrange hfit⟩

/-- With a gap as narrow as 32 bits can say, more is left of a container than they can say. The left
margin takes it, is cut, and so the buttons do not start behind all that is left. Where three
buttons together are wider than 32 bits hold, the last one does not end where all of them would. -/
theorem ButtonBar.not_isRow_negativeGap_and_wide :
    (let spacing : ButtonSpacing := ⟨.zero, .zero, .zero, .zero, ⟨.ofInt 1, .dialog⟩⟩
      let edits : List ButtonEdit := [.setSpacing fun _ => spacing, .add ⟨1⟩, .add ⟨2⟩]
      let b := edits.foldl ButtonBar.after .new
      let m : Measures := ⟨CachedGrid.negativeFont, fun _ _ => 10, fun _ _ => 10⟩
      let a : Arrangement := ⟨⟨[-21, 10, -2147483648, 10, 0], [0, 10, 0]⟩,
        ⟨[1000, 979, 989, -2147482659, -2147482649], [0, 0, 10]⟩,
        [(⟨1⟩, ⟨979, 0, 10, 10⟩), (⟨2⟩, ⟨-2147482659, 0, 10, 10⟩)]⟩
      (Layout.buttons .new).Reaches (.buttons b) ∧
        ((Layout.buttons b).answer (.arrange m ⟨1000, 0, -1000, 0⟩ ⟨2147483647, 10⟩)).1 = .ok a ∧
        ¬a.IsRow b.properties m 1000 2147483647) ∧
    (let edits : List ButtonEdit :=
        [.setSpacing fun _ => ⟨.zero, .zero, .zero, .zero, .zero⟩, .setCanShrink false, .add ⟨1⟩,
          .add ⟨2⟩, .add ⟨3⟩]
      let b := edits.foldl ButtonBar.after .new
      (Layout.buttons .new).Reaches (.buttons b) ∧
        ∃ a, ((Layout.buttons b).answer
            (.arrange CachedGrid.wideMeasures .zero ⟨100, 10⟩)).1 = .ok a ∧
          ¬a.IsRow b.properties CachedGrid.wideMeasures 0 100) := by
  constructor
  · intro spacing edits b m a
    refine ⟨Layout.Reaches.refl.foldl (edits.map Layout.Step.buttons), by decide +kernel,
      fun hrow => ?_⟩
    exact absurd (hrow.first _ rfl) (by decide +kernel)
  · intro edits b
    refine ⟨Layout.Reaches.refl.foldl (edits.map Layout.Step.buttons),
      ⟨⟨[0, 1500000000, 0, 1500000000, 0, 1500000000, 0], [0, 10, 0]⟩,
        ⟨[0, 0, 1500000000, 1500000000, -1294967296, -1294967296, 205032704], [0, 0, 10]⟩,
        [(⟨1⟩, ⟨0, 0, 1500000000, 10⟩), (⟨2⟩, ⟨1500000000, 0, 1500000000, 10⟩),
          (⟨3⟩, ⟨-1294967296, 0, 1500000000, 10⟩)]⟩, by decide +kernel, fun hrow => ?_⟩
    exact absurd (hrow.last _ rfl) (by decide +kernel)

end GridLayout

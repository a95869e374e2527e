import GridLayout.Proofs.Grid.History
import GridLayout.Proofs.Layout.History
import GridLayout.Proofs.Persist.Grid
import GridLayout.Proofs.Persist.Plain
import GridLayout.Value.JsonReader
import GridLayout.Value.JsonWriter

/-!
# What a written layout is read as

The persisted form of a layout is read as a layout that compares equal to it and has kept nothing.
So after any histories, the two answer every query alike.

* `Layout.lengths` and `Layout.numbers`: what has to be finite, and what has to have 64 bits.
* `Layout.decodeAs_encode`: reading the form gives `Layout.forget`, the layout with nothing kept.
* `Layout.read_write`: so does reading a text of the form, if plain values can be written as texts
  and read back from them.
-/

namespace GridLayout

open Persisted

/-! ## Border layouts and button bars -/

def BorderProperties.lengths (p : BorderProperties) : List Length :=
  p.spacing.margins ++ p.spacing.gaps

def BorderProperties.numbers (p : BorderProperties) : List Nat :=
  p.regions.map fun entry => entry.1.value

def ButtonBarProperties.lengths (p : ButtonBarProperties) : List Length :=
  let s := p.spacing
  [s.leftMargin, s.rightMargin, s.topMargin, s.bottomMargin, s.gap]

def ButtonBarProperties.numbers (p : ButtonBarProperties) : List Nat :=
  p.buttons.map ComponentId.value

namespace Persisted

theorem readBack_borderProperties {p : BorderProperties}
    (hlengths : ∀ l ∈ p.lengths, l.value.HasNumeral)
    (hnumbers : ∀ n ∈ p.numbers, n ≤ maxWritableIndex) : ReadBack p := by
  have hregions : ReadBack p.regions := readBack_list fun entry hentry =>
    readBack_pair (readBack_id (hnumbers _ (List.mem_map_of_mem hentry)))
      (readBack_region entry.2)
  have hfields (name : String) : (encode p).field? name = Value.lookup name _ := rfl
  have hlength {name : String} {l default : Length} (hl : l ∈ p.lengths)
      (hfield : (encode p).field? name = some (encode l)) :
      defaulted (encode p) name default = some l :=
    defaulted_eq hfield (readBack_length (hlengths l hl))
  simp only [BorderProperties.lengths, BorderSpacing.margins, BorderSpacing.gaps] at hlength
  have hspacing : BorderSpacing.decode (encode p) = some p.spacing := by
    simp only [BorderSpacing.decode]
    rw [hlength (l := p.spacing.leftMargin) (by simp) (by simp [hfields]),
      hlength (l := p.spacing.topMargin) (by simp) (by simp [hfields]),
      hlength (l := p.spacing.rightMargin) (by simp) (by simp [hfields]),
      hlength (l := p.spacing.bottomMargin) (by simp) (by simp [hfields]),
      hlength (l := p.spacing.northGap) (by simp) (by simp [hfields]),
      hlength (l := p.spacing.westGap) (by simp) (by simp [hfields]),
      hlength (l := p.spacing.southGap) (by simp) (by simp [hfields]),
      hlength (l := p.spacing.eastGap) (by simp) (by simp [hfields])]
    rfl
  have hcanShrink : defaulted (encode p) "can_shrink" true = some p.canShrink :=
    defaulted_eq (by simp [hfields]) (readBack_bool _)
  have hregions : defaulted (encode p) "regions" [] = some p.regions :=
    defaulted_eq (by simp [hfields]) hregions
  simp only [ReadBack, decode, hspacing, hcanShrink, hregions]
  rfl

theorem readBack_buttonBarProperties {p : ButtonBarProperties}
    (hlengths : ∀ l ∈ p.lengths, l.value.HasNumeral)
    (hnumbers : ∀ n ∈ p.numbers, n ≤ maxWritableIndex) : ReadBack p := by
  have hbuttons : ReadBack p.buttons := readBack_list fun id hid =>
    readBack_id (hnumbers _ (List.mem_map_of_mem hid))
  have hfields (name : String) : (encode p).field? name = Value.lookup name _ := rfl
  have hlength {name : String} {l default : Length} (hl : l ∈ p.lengths)
      (hfield : (encode p).field? name = some (encode l)) :
      defaulted (encode p) name default = some l :=
    defaulted_eq hfield (readBack_length (hlengths l hl))
  simp only [ButtonBarProperties.lengths] at hlength
  have hspacing : ButtonSpacing.decode (encode p) = some p.spacing := by
    simp only [ButtonSpacing.decode]
    rw [hlength (l := p.spacing.leftMargin) (by simp) (by simp [hfields]),
      hlength (l := p.spacing.rightMargin) (by simp) (by simp [hfields]),
      hlength (l := p.spacing.topMargin) (by simp) (by simp [hfields]),
      hlength (l := p.spacing.bottomMargin) (by simp) (by simp [hfields]),
      hlength (l := p.spacing.gap) (by simp) (by simp [hfields])]
    rfl
  have halignment : defaulted (encode p) "alignment" ButtonAlignment.right = some p.alignment :=
    defaulted_eq (by simp [hfields]) (readBack_alignment _)
  have hcanShrink : defaulted (encode p) "can_shrink" true = some p.canShrink :=
    defaulted_eq (by simp [hfields]) (readBack_bool _)
  have hbuttons : defaulted (encode p) "buttons" [] = some p.buttons :=
    defaulted_eq (by simp [hfields]) hbuttons
  simp only [ReadBack, decode, hspacing, halignment, hcanShrink, hbuttons]
  rfl

theorem isPlain_borderProperties {p : BorderProperties}
    (h : ∀ n ∈ p.numbers, n ≤ maxWritableIndex) : (encode p).IsPlain := by
  have hregions : (encode p.regions).IsPlain := isPlain_list fun entry hentry =>
    isPlain_pair (isPlain_nat (h _ (List.mem_map_of_mem hentry))) (.text _)
  refine .object (by simp) ?_
  simp only [List.forall_mem_cons]
  exact ⟨.text _, .text _, .text _, .text _, .text _, .text _, .text _, .text _, .bool _, hregions,
    by simp⟩

theorem isPlain_buttonBarProperties {p : ButtonBarProperties}
    (h : ∀ n ∈ p.numbers, n ≤ maxWritableIndex) : (encode p).IsPlain := by
  have hbuttons : (encode p.buttons).IsPlain := isPlain_list fun id hid =>
    isPlain_nat (h _ (List.mem_map_of_mem hid))
  refine .object (by simp) ?_
  simp only [List.forall_mem_cons]
  exact ⟨.text _, .text _, .text _, .text _, .text _, .text _, .bool _, hbuttons, by simp⟩

end Persisted

namespace Layout

/-! ## Layouts -/

/-- The lengths that a layout is made with. -/
def lengths : Layout → List Length
  | .free g => g.grid.lengths
  | .border b => b.properties.lengths
  | .buttons b => b.properties.lengths

/-- The numbers that a layout is made with. -/
def numbers : Layout → List Nat
  | .free g => g.grid.numbers
  | .border b => b.properties.numbers
  | .buttons b => b.properties.numbers

/-- The layout with nothing kept. -/
def forget : Layout → Layout
  | .free g => .free (.ofGrid g.grid)
  | .border b => .border (.ofProperties b.properties)
  | .buttons b => .buttons (.ofProperties b.properties)

theorem forget_beq (l : Layout) : (l.forget == l) = true := by
  cases l with
  | free g => exact beq_self_eq_true g.grid
  | border b => exact beq_self_eq_true b.properties
  | buttons b => exact beq_self_eq_true b.properties

/-- Reading the persisted form of a layout gives the layout with nothing kept. -/
theorem decodeAs_encode {l : Layout} (hlengths : ∀ x ∈ l.lengths, x.value.HasNumeral)
    (hnumbers : ∀ n ∈ l.numbers, n ≤ maxWritableIndex) : l.decodeAs l.encode = some l.forget := by
  cases l with
  | free g =>
    have hgrid : decode (Persisted.encode g.grid) = some g.grid := readBack_grid hlengths hnumbers
    change ((decode (Persisted.encode g.grid)).map CachedGrid.ofGrid).map Layout.free = _
    rw [hgrid]
    rfl
  | border b =>
    have hproperties : decode (Persisted.encode b.properties) = some b.properties :=
      readBack_borderProperties hlengths hnumbers
    change ((decode (Persisted.encode b.properties)).map BorderLayout.ofProperties).map
      Layout.border = _
    rw [hproperties]
    rfl
  | buttons b =>
    have hproperties : decode (Persisted.encode b.properties) = some b.properties :=
      readBack_buttonBarProperties hlengths hnumbers
    change ((decode (Persisted.encode b.properties)).map ButtonBar.ofProperties).map
      Layout.buttons = _
    rw [hproperties]
    rfl

/-! ## Histories -/

/-- A history leads to the layout; to a free layout, one of its grid. -/
def HasHistory : Layout → Prop
  | .free g => g.Reachable
  | .border b => (Layout.border b).Reachable
  | .buttons b => (Layout.buttons b).Reachable

theorem HasHistory.fresh {l : Layout} (h : l.HasHistory) : l.Fresh := by
  cases l with
  | free g =>
    intro g' hg'
    obtain rfl := Option.some.inj hg'
    exact ⟨rfl, CachedGrid.Reachable.agrees h⟩
  | border | buttons => exact Reachable.fresh h

theorem fresh_forget (l : Layout) : l.forget.Fresh := by
  cases l with
  | free g =>
    intro g' hg'
    obtain rfl := Option.some.inj hg'
    exact ⟨rfl, Cache.agrees_empty g.grid⟩
  | border | buttons => exact fresh_of_kept?_eq_none rfl

/-! ## Texts -/

theorem isPlain_encode {l : Layout} (h : ∀ n ∈ l.numbers, n ≤ maxWritableIndex) :
    l.encode.IsPlain := by
  cases l with
  | free g => exact isPlain_grid h
  | border b => exact isPlain_borderProperties h
  | buttons b => exact isPlain_buttonBarProperties h

/-- **A layout is read as it was written**: if its lengths are finite without a sign, its numbers
have at most 64 bits, and its form, which is plain, is read back from its text, then what is read is
the layout with nothing kept. It compares equal to the layout, and after any history of that it
answers every query and is laid out in every container alike. -/
theorem read_write {write : Value → String} {read : String → Option Value} {l : Layout}
    (hlengths : ∀ x ∈ l.lengths, x.value.HasNumeral)
    (hnumbers : ∀ n ∈ l.numbers, n ≤ maxWritableIndex)
    (htext : l.encode.IsPlain → read (write l.encode) = some l.encode) :
    (read (write l.encode)).bind l.decodeAs = some l.forget ∧ (l.forget == l) = true ∧
      (l.HasHistory →
        (∀ q, (l.forget.answer q).1 = (l.answer q).1) ∧
        ∀ p insets container,
          (l.forget.perform p insets container).1 = (l.perform p insets container).1 ∧
            (l.forget.perform p insets container).2.2 = (l.perform p insets container).2.2) := by
  refine ⟨?_, l.forget_beq, fun hhistory => ⟨?_, ?_⟩⟩
  · rw [htext (isPlain_encode hnumbers), Option.bind_some, decodeAs_encode hlengths hnumbers]
  · exact (fresh_forget l).answer_congr hhistory.fresh l.forget_beq
  · exact (fresh_forget l).perform_congr hhistory.fresh l.forget_beq

/-- A row of three cells, of which the component of the largest name covers two. -/
def spannedGrid : Grid :=
  ⟨⟨⟨List.replicate 3 .defaultColumn, [⟨[1, 2], by decide, by decide⟩]⟩, ⟨[.defaultRow], []⟩⟩,
    [⟨⟨18446744073709551615⟩, ⟨⟨0, 2, some 1, some (.preferred .trailing)⟩, .single 0⟩⟩], true⟩

/-- It is built step by step, and validated. -/
def spanned : CachedGrid :=
  [Operation.addGroup .horizontal ⟨[1, 2], by decide, by decide⟩,
    .add ⟨18446744073709551615⟩ ⟨⟨0, 2, some 1, some (.preferred .trailing)⟩, .single 0⟩,
    .ask .validate].foldl CachedGrid.after
    (.ofGrid ⟨⟨⟨List.replicate 3 .defaultColumn, []⟩, ⟨[.defaultRow], []⟩⟩, [], true⟩)

/-- The text of its form. -/
def spannedText : String :=
  "\x7b\"columns\":[\"FULL/PREFERRED(0px)/0\",\"FULL/PREFERRED(0px)/0\"," ++
    "\"FULL/PREFERRED(0px)/0\"],\"rows\":[\"CENTER/PREFERRED(0px)/0\"]," ++
    "\"column_groups\":[[1,2]],\"row_groups\":[],\"components\":[[18446744073709551615," ++
    "\x7b\"column\":0,\"row\":0,\"span_x\":2,\"span_y\":1,\"target_column\":1," ++
    "\"column_constraints\":\"END/PREFERRED(0px)/0\"\x7d]],\"can_shrink\":true\x7d"

theorem append_eq_ofList {s t : String} {cs ds : List Char} (hs : s = String.ofList cs)
    (ht : t = String.ofList ds) : s ++ t = String.ofList (cs ++ ds) := by
  rw [hs, ht, String.ofList_append]

/-- A text whose characters are known is read from these. -/
theorem ofJson?_of_value {text : String} {cs : List Char} {v : Value}
    (htext : text = String.ofList cs) (hvalue : Json.value (2 * cs.length + 2) cs = some (v, [])) :
    Value.ofJson? text = some v := by
  simp [Value.ofJson?, htext, hvalue, Json.skipSpace]

set_option maxRecDepth 20000 in
/-- The text of its form is read as the form. -/
theorem ofJson?_toJson_spannedGrid :
    Value.ofJson? (Persisted.encode spannedGrid).toJson = some (Persisted.encode spannedGrid) := by
  have htext : (Persisted.encode spannedGrid).toJson = spannedText := by decide +kernel
  rw [htext]
  -- a literal is made of its characters; asked for them, the kernel would decode bytes
  refine ofJson?_of_value (append_eq_ofList (append_eq_ofList (append_eq_ofList
    (append_eq_ofList rfl rfl) rfl) rfl) rfl) ?_
  rfl

/-- It has kept a classification, and is read from its text without it. -/
theorem read_write_spanned :
    let l := Layout.free spanned
    (spanned.cache.isValid ∧ l.HasHistory ∧ (∀ x ∈ l.lengths, x.value.HasNumeral) ∧
      ∀ n ∈ l.numbers, n ≤ maxWritableIndex) ∧
      (Value.ofJson? l.encode.toJson).bind l.decodeAs = some l.forget ∧ (l.forget == l) = true ∧
      (∀ q, (l.forget.answer q).1 = (l.answer q).1) ∧
      ∀ p insets container,
        (l.forget.perform p insets container).1 = (l.perform p insets container).1 ∧
          (l.forget.perform p insets container).2.2 = (l.perform p insets container).2.2 := by
  intro l
  have hstart : Grid.ofDimensions 3 1 =
      .ok ⟨⟨⟨List.replicate 3 .defaultColumn, []⟩, ⟨[.defaultRow], []⟩⟩, [], true⟩ := rfl
  have hhistory : l.HasHistory := (CachedGrid.Reachable.ofDimensions hstart).foldl _
  have hgrid : spanned.grid = spannedGrid := by decide +kernel
  have hencode : l.encode = Persisted.encode spannedGrid := congrArg Persisted.encode hgrid
  have hlengths : ∀ x ∈ l.lengths, x.value.HasNumeral := by
    have hzero : ∀ x ∈ l.lengths, x = .zero := by decide +kernel
    intro x hx
    rw [hzero x hx]
    exact ⟨.zero, rfl⟩
  have hnumbers : ∀ n ∈ l.numbers, n ≤ maxWritableIndex := by decide +kernel
  have htext : l.encode.IsPlain → Value.ofJson? l.encode.toJson = some l.encode :=
    fun _ => hencode ▸ ofJson?_toJson_spannedGrid
  obtain ⟨hread, heq, halike⟩ := read_write hlengths hnumbers htext
  exact ⟨⟨by decide +kernel, hhistory, hlengths, hnumbers⟩, hread, heq, halike hhistory⟩

end Layout

end GridLayout

import Mathlib.Data.List.TakeWhile
import GridLayout.Text.Basic

/-!
# Texts put together from fields

A text that was put together from fields is taken apart again, as long as no field contains a
separator.

* `Text.split_append_cons`: a field, a separator and the rest. So splitting is the inverse of
  joining (`Text.split_eq_iff`).
* `Text.words_flatMap`: fields with runs of separators around and between them.
* `Text.trim_eq_self`: a text without blanks at its ends. Any text is what trimming leaves of it
  with blanks around it (`Text.isPadded_trim`), and trimming takes off just those
  (`Text.trim_of_isPadded`).
* `Text.uppercase_eq_iff`: texts that differ in the case of letters only.
-/

namespace GridLayout.Text

variable {p : Char → Bool}

/-! ## Trimming -/

theorem trimStart_eq_self {s : List Char} (h : ∀ c ∈ s.head?, isBlank c = false) :
    trimStart s = s := by
  cases s with
  | nil => rfl
  | cons c rest =>
    have hc : isBlank c = false := h c rfl
    simp [trimStart, hc]

theorem trim_eq_self {s : List Char} (hhead : ∀ c ∈ s.head?, isBlank c = false)
    (hlast : ∀ c ∈ s.getLast?, isBlank c = false) : trim s = s := by
  have hreverse : s.reverse.dropWhile isBlank = s.reverse := by
    apply trimStart_eq_self
    intro c hc
    rw [List.head?_reverse] at hc
    exact hlast c hc
  rw [trim, trimStart_eq_self hhead, trimEnd, hreverse, List.reverse_reverse]

/-- No blank at all, and so none at the ends. -/
theorem trim_of_forall {s : List Char} (h : ∀ c ∈ s, isBlank c = false) : trim s = s :=
  trim_eq_self (fun c hc => h c (List.mem_of_mem_head? hc))
    (fun c hc => h c (List.mem_of_mem_getLast? hc))

/-! ## Blanks around a text -/

/-- All characters of the text are blank. -/
def IsBlankText (s : List Char) : Prop := ∀ c ∈ s, isBlank c = true

/-- The text is the core with blanks around it. -/
def IsPadded (core s : List Char) : Prop :=
  ∃ lead trail, IsBlankText lead ∧ IsBlankText trail ∧ s = lead ++ core ++ trail

theorem isBlankText_takeWhile (s : List Char) : IsBlankText (s.takeWhile isBlank) :=
  fun _ hc => List.mem_takeWhile_imp hc

/-- Trimming takes off blanks and nothing else. -/
theorem isPadded_trim (s : List Char) : IsPadded (trim s) s := by
  have hstart := List.takeWhile_append_dropWhile (p := isBlank) (l := s)
  have hend := List.takeWhile_append_dropWhile (p := isBlank) (l := (trimStart s).reverse)
  refine ⟨s.takeWhile isBlank, ((trimStart s).reverse.takeWhile isBlank).reverse,
    isBlankText_takeWhile s, ?_, ?_⟩
  · intro c hc
    exact isBlankText_takeWhile _ c (List.mem_reverse.1 hc)
  · rw [List.append_assoc, trim, trimEnd, ← List.reverse_append, hend, List.reverse_reverse]
    exact hstart.symm

theorem trimStart_append_of_blank {lead : List Char} (h : IsBlankText lead) (s : List Char) :
    trimStart (lead ++ s) = trimStart s := List.dropWhile_append_of_pos h

theorem trimEnd_append_of_blank {trail : List Char} (h : IsBlankText trail) (s : List Char) :
    trimEnd (s ++ trail) = trimEnd s := by
  have hreverse : ∀ c ∈ trail.reverse, isBlank c = true := fun c hc => h c (List.mem_reverse.1 hc)
  rw [trimEnd, List.reverse_append, List.dropWhile_append_of_pos hreverse, trimEnd]

/-- Blanks around a text are trimmed off. -/
theorem trim_of_isPadded {core s : List Char} (h : IsPadded core s) : trim s = trim core := by
  obtain ⟨lead, trail, hlead, htrail, rfl⟩ := h
  rw [trim, List.append_assoc, trimStart_append_of_blank hlead, trim]
  by_cases hcore : trimStart core = []
  · -- nothing is left of a blank core, so the blanks behind it are in front
    have hblank : IsBlankText core := List.dropWhile_eq_nil_iff.1 hcore
    have htrailing : trimStart trail = [] := List.dropWhile_eq_nil_iff.2 htrail
    rw [trimStart_append_of_blank hblank, htrailing, hcore]
  · have happend : trimStart (core ++ trail) = trimStart core ++ trail := by
      simp only [trimStart] at hcore ⊢
      rw [List.dropWhile_append, if_neg (by simpa using hcore)]
    rw [happend, trimEnd_append_of_blank htrail]

/-- Blanks in front of a core are around it. -/
theorem IsPadded.of_append {lead core s : List Char} (h : IsPadded (lead ++ core) s)
    (hlead : IsBlankText lead) : IsPadded core s := by
  obtain ⟨front, back, hfront, hback, rfl⟩ := h
  refine ⟨front ++ lead, back, ?_, hback, by simp⟩
  intro c hc
  exact (List.mem_append.1 hc).elim (hfront c) (hlead c)

theorem trim_trim (s : List Char) : trim (trim s) = trim s :=
  (trim_of_isPadded (isPadded_trim s)).symm

/-! ## Letter case -/

theorem toNat_toUpper (c : Char) :
    c.toUpper.toNat = if 97 ≤ c.toNat ∧ c.toNat ≤ 122 then c.toNat - 32 else c.toNat := by
  have hadd : (c.val + ('A'.val - 'a'.val)).toNat = (c.toNat + 4294967264) % 4294967296 := by
    rw [UInt32.toNat_add, show ('A'.val - 'a'.val : UInt32) = 4294967264 from by decide]
    rfl
  by_cases h : 97 ≤ c.toNat ∧ c.toNat ≤ 122
  · have hval : 'a'.val ≤ c.val ∧ c.val ≤ 'z'.val := h
    rw [if_pos h]
    delta Char.toUpper
    rw [dif_pos hval]
    exact hadd.trans (by omega)
  · have hval : ¬('a'.val ≤ c.val ∧ c.val ≤ 'z'.val) := h
    rw [if_neg h]
    delta Char.toUpper
    rw [dif_neg hval]

theorem toNat_toLower (c : Char) :
    c.toLower.toNat = if 65 ≤ c.toNat ∧ c.toNat ≤ 90 then c.toNat + 32 else c.toNat := by
  have hadd : (c.val + ('a'.val - 'A'.val)).toNat = (c.toNat + 32) % 4294967296 := by
    rw [UInt32.toNat_add, show ('a'.val - 'A'.val : UInt32) = 32 from by decide]
    rfl
  by_cases h : 65 ≤ c.toNat ∧ c.toNat ≤ 90
  · have hval : c.val ≥ 'A'.val ∧ c.val ≤ 'Z'.val := h
    rw [if_pos h]
    delta Char.toLower
    rw [dif_pos hval]
    exact hadd.trans (by omega)
  · have hval : ¬(c.val ≥ 'A'.val ∧ c.val ≤ 'Z'.val) := h
    rw [if_neg h]
    delta Char.toLower
    rw [dif_neg hval]

theorem toUpper_eq_toUpper_iff {c d : Char} : c.toUpper = d.toUpper ↔ c.toLower = d.toLower := by
  rw [← Char.toNat_inj, ← Char.toNat_inj, toNat_toUpper, toNat_toUpper, toNat_toLower,
    toNat_toLower]
  split <;> split <;> split <;> split <;> omega

/-- Texts that are equal in capital letters are so in small ones. -/
theorem uppercase_eq_iff {s t : List Char} :
    uppercase s = uppercase t ↔ lowercase s = lowercase t := by
  simp only [uppercase, lowercase]
  induction s generalizing t with
  | nil => cases t <;> simp
  | cons c s ih =>
    cases t with
    | nil => simp
    | cons d t => simp only [List.map_cons, List.cons.injEq, toUpper_eq_toUpper_iff, ih]

/-! ## Splitting -/

theorem split_of_forall {s : List Char} (h : ∀ c ∈ s, p c = false) : split p s = [s] := by
  induction s with
  | nil => rfl
  | cons c rest ih =>
    have hc : p c = false := h c (by simp)
    have hrest := ih fun d hd => h d (by simp [hd])
    simp [split, hc, hrest]

/-- A field ends at the first separator. -/
theorem split_append_cons {s : List Char} (h : ∀ c ∈ s, p c = false) {c : Char} (hc : p c = true)
    (rest : List Char) : split p (s ++ c :: rest) = s :: split p rest := by
  induction s with
  | nil => simp [split, hc]
  | cons d s ih =>
    have hd : p d = false := h d (by simp)
    have hs := ih fun e he => h e (by simp [he])
    simp [split, hd, hs]

/-- The fields with the separator between them are the text again. -/
theorem joinWith_split (sep : Char) (s : List Char) :
    joinWith [sep] (split (· == sep) s) = s := by
  induction s with
  | nil => rfl
  | cons c rest ih =>
    obtain ⟨field, fields, hsplit⟩ := List.exists_cons_of_ne_nil (split_ne_nil (· == sep) rest)
    rw [hsplit] at ih
    by_cases hc : c = sep
    · subst hc
      simp [split, hsplit, joinWith, ih]
    · have hcons : split (· == sep) (c :: rest) = (c :: field) :: fields := by
        simp [split, hc, hsplit]
      rw [hcons, ← ih]
      cases fields <;> rfl

theorem notMem_of_mem_split {sep : Char} {s field : List Char}
    (h : field ∈ split (· == sep) s) : sep ∉ field := by
  induction s generalizing field with
  | nil =>
    obtain rfl := List.mem_singleton.1 h
    simp
  | cons c rest ih =>
    obtain ⟨first, fields, hsplit⟩ := List.exists_cons_of_ne_nil (split_ne_nil (· == sep) rest)
    rw [hsplit] at ih
    by_cases hc : c = sep
    · subst hc
      simp only [split, hsplit, beq_self_eq_true, if_true] at h
      rcases List.mem_cons.1 h with rfl | h
      · simp
      · exact ih h
    · have hcons : split (· == sep) (c :: rest) = (c :: first) :: fields := by
        simp [split, hc, hsplit]
      rw [hcons] at h
      rcases List.mem_cons.1 h with rfl | h
      · have hfirst : sep ∉ first := ih (by simp)
        simp [hfirst, Ne.symm hc]
      · exact ih (List.mem_cons_of_mem _ h)

/-- **Splitting is the inverse of joining**: the fields are the only texts without a separator that
make up the text. -/
theorem split_eq_iff {sep : Char} {s : List Char} {fields : List (List Char)} :
    split (· == sep) s = fields ↔
      fields ≠ [] ∧ s = joinWith [sep] fields ∧ ∀ field ∈ fields, sep ∉ field := by
  constructor
  · rintro rfl
    exact ⟨split_ne_nil _ s, (joinWith_split sep s).symm, fun field => notMem_of_mem_split⟩
  · rintro ⟨hne, rfl, hfields⟩
    induction fields with
    | nil => exact absurd rfl hne
    | cons field fields ih =>
      have hfield : ∀ c ∈ field, (c == sep) = false := by
        intro c hc
        refine beq_false_of_ne ?_
        rintro rfl
        exact hfields field (by simp) hc
      cases fields with
      | nil => exact split_of_forall hfield
      | cons next fields =>
        have hrest := ih (by simp) fun f hf => hfields f (List.mem_cons_of_mem _ hf)
        have hjoin : joinWith [sep] (field :: next :: fields) =
            field ++ sep :: joinWith [sep] (next :: fields) := by
          simp [joinWith]
        rw [hjoin, split_append_cons hfield (beq_self_eq_true sep), hrest]

/-! ## Words -/

theorem words_of_forall {s : List Char} (h : ∀ c ∈ s, p c = false) (hne : s ≠ []) :
    words p s = [s] := by
  simp [words, split_of_forall h, hne]

/-- Separators in front do not count. -/
theorem words_append_of_forall {lead : List Char} (h : ∀ c ∈ lead, p c = true) (s : List Char) :
    words p (lead ++ s) = words p s := by
  induction lead with
  | nil => rfl
  | cons c lead ih =>
    have hc : p c = true := h c (by simp)
    rw [← ih fun d hd => h d (by simp [hd])]
    simp [words, split, hc]

theorem words_append_cons {s : List Char} (h : ∀ c ∈ s, p c = false) (hne : s ≠ []) {c : Char}
    (hc : p c = true) (rest : List Char) : words p (s ++ c :: rest) = s :: words p rest := by
  simp [words, split_append_cons h hc, hne]

/-- Words with a single separator between neighbours. -/
theorem words_intercalate {sep : Char} (hsep : p sep = true) {fields : List (List Char)}
    (h : ∀ field ∈ fields, field ≠ [] ∧ ∀ c ∈ field, p c = false) :
    words p ([sep].intercalate fields) = fields := by
  induction fields with
  | nil => rfl
  | cons field fields ih =>
    obtain ⟨hne, hfield⟩ := h field (by simp)
    cases fields with
    | nil => simpa [List.intercalate] using words_of_forall hfield hne
    | cons next fields =>
      have hrest := ih fun other hother => h other (List.mem_cons_of_mem field hother)
      have hcons : [sep].intercalate (field :: next :: fields) =
          field ++ sep :: [sep].intercalate (next :: fields) := by
        simp [List.intercalate]
      rw [hcons, words_append_cons hfield hne hsep, hrest]

/-- Words with runs of separators behind them. Only behind the last one the run may be empty. -/
theorem words_flatMap {α : Type} (word : α → List Char) {items : List (α × List Char)}
    (hword : ∀ item ∈ items, word item.1 ≠ [] ∧ ∀ c ∈ word item.1, p c = false)
    (hrun : ∀ item ∈ items, ∀ c ∈ item.2, p c = true)
    (hbetween : ∀ item ∈ items.dropLast, item.2 ≠ []) :
    words p (items.flatMap fun item => word item.1 ++ item.2) =
      items.map fun item => word item.1 := by
  induction items with
  | nil => rfl
  | cons item items ih =>
    obtain ⟨a, run⟩ := item
    obtain ⟨hnonempty, hfield⟩ := hword (a, run) (by simp)
    have hblank := hrun (a, run) (by simp)
    have hrest := ih (fun other hother => hword other (by simp [hother]))
      (fun other hother => hrun other (by simp [hother]))
      (fun other hother => hbetween other (by
        cases items with
        | nil => simp at hother
        | cons next items => exact List.mem_cons_of_mem _ hother))
    rw [List.flatMap_cons, List.map_cons, List.append_assoc]
    cases run with
    | nil =>
      -- no word follows without a separator
      cases items with
      | nil => simpa using words_of_forall hfield hnonempty
      | cons next items => exact absurd rfl (hbetween (a, []) (by simp))
    | cons c run =>
      rw [List.cons_append, words_append_cons hfield hnonempty (hblank c (by simp)),
        words_append_of_forall fun d hd => hblank d (by simp [hd]), hrest]

end GridLayout.Text

/-!
# Pixels, axes, sizes and rectangles

All positions and extents are whole pixels, held in 32 bits. An operation on them whose exact result
does not fit keeps the last 32 bits of it, read as a signed number: `wrap`. What is lost is a
multiple of `2 ^ 32`, so a sum of many pixels may be cut once at the end as well as at every step
(`wrap_add_wrap` and the lemmas beside it). `Representable` are the numbers that 32 bits hold; they
are kept as they are.

A layout is computed twice, once along each axis, so data that exists for both axes is kept as a
`PerAxis`; exchanging the axes is `PerAxis.swap`.
-/

namespace GridLayout

/-! ## Pixels -/

/-- What 32 bits keep of a whole number. -/
def wrap (n : Int) : Int := n.bmod 4294967296

/-- The number can be held in 32 bits. -/
def Representable (n : Int) : Prop := -2147483648 ≤ n ∧ n ≤ 2147483647

instance (n : Int) : Decidable (Representable n) := inferInstanceAs (Decidable (_ ∧ _))

theorem representable_wrap (n : Int) : Representable (wrap n) :=
  ⟨Int.le_bmod (by decide), Int.le_of_lt_add_one (Int.bmod_lt (by decide))⟩

theorem wrap_eq_self {n : Int} (h : Representable n) : wrap n = n :=
  Int.bmod_eq_of_le_mul_two (by have := h.1; omega) (by have := h.2; omega)

theorem wrap_eq_self_iff {n : Int} : wrap n = n ↔ Representable n :=
  ⟨fun h => h ▸ representable_wrap n, wrap_eq_self⟩

/-- What is not below the range is not made larger. -/
theorem wrap_le_self {n : Int} (h : -2147483648 ≤ n) : wrap n ≤ n := by
  by_cases hn : n ≤ 2147483647
  · exact Int.le_of_eq (wrap_eq_self ⟨h, hn⟩)
  · have hwrap := (representable_wrap n).2
    omega

@[simp] theorem wrap_wrap (n : Int) : wrap (wrap n) = wrap n := wrap_eq_self (representable_wrap n)

@[simp] theorem wrap_add_wrap (m n : Int) : wrap (m + wrap n) = wrap (m + n) := Int.add_bmod_bmod

@[simp] theorem wrap_wrap_add (m n : Int) : wrap (wrap m + n) = wrap (m + n) := Int.bmod_add_bmod

@[simp] theorem wrap_sub_wrap (m n : Int) : wrap (m - wrap n) = wrap (m - n) := Int.sub_bmod_bmod

@[simp] theorem wrap_wrap_sub (m n : Int) : wrap (wrap m - n) = wrap (m - n) := Int.bmod_sub_bmod

/-! ## Axes -/

/-- Columns lie along the horizontal axis, rows along the vertical one. -/
inductive Axis where
  | horizontal
  | vertical
deriving DecidableEq, Repr

def Axis.other : Axis → Axis
  | horizontal => vertical
  | vertical => horizontal

/-- One value for each axis. -/
structure PerAxis (α : Type) where
  horizontal : α
  vertical : α
deriving DecidableEq, Repr

namespace PerAxis

variable {α β : Type}

/-- The value along an axis. -/
def along (p : PerAxis α) : Axis → α
  | .horizontal => p.horizontal
  | .vertical => p.vertical

def ofFun (f : Axis → α) : PerAxis α := ⟨f .horizontal, f .vertical⟩

def map (f : α → β) (p : PerAxis α) : PerAxis β := ⟨f p.horizontal, f p.vertical⟩

/-- Change the value along one axis. -/
def modify (p : PerAxis α) (axis : Axis) (f : α → α) : PerAxis α :=
  match axis with
  | .horizontal => { p with horizontal := f p.horizontal }
  | .vertical => { p with vertical := f p.vertical }

def both (a : α) : PerAxis α := ⟨a, a⟩

/-- The value for one axis taken as that for the other. -/
def swap (p : PerAxis α) : PerAxis α := ⟨p.vertical, p.horizontal⟩

@[simp] theorem along_ofFun (f : Axis → α) (axis : Axis) : (ofFun f).along axis = f axis := by
  cases axis <;> rfl

@[simp] theorem along_map (f : α → β) (p : PerAxis α) (axis : Axis) :
    (p.map f).along axis = f (p.along axis) := by
  cases axis <;> rfl

@[simp] theorem along_both (a : α) (axis : Axis) : (both a).along axis = a := by
  cases axis <;> rfl

@[simp] theorem along_swap (p : PerAxis α) (axis : Axis) :
    p.swap.along axis = p.along axis.other := by
  cases axis <;> rfl

theorem along_modify (p : PerAxis α) (axis : Axis) (f : α → α) (axis' : Axis) :
    (p.modify axis f).along axis' = if axis' = axis then f (p.along axis') else p.along axis' := by
  cases axis <;> cases axis' <;> rfl

theorem eq_of_along_eq {p q : PerAxis α} (h : ∀ axis, p.along axis = q.along axis) : p = q := by
  obtain ⟨a, b⟩ := p
  obtain ⟨c, d⟩ := q
  obtain rfl : a = c := h .horizontal
  obtain rfl : b = d := h .vertical
  rfl

end PerAxis

/-! ## Sizes -/

structure Size where
  width : Int
  height : Int
deriving DecidableEq, Repr

namespace Size

def zero : Size := ⟨0, 0⟩

instance : Inhabited Size := ⟨zero⟩

/-- The extent along an axis. -/
def along (s : Size) : Axis → Int
  | .horizontal => s.width
  | .vertical => s.height

def ofPerAxis (p : PerAxis Int) : Size := ⟨p.horizontal, p.vertical⟩

/-- The other size is not larger along either axis. -/
def contains (s t : Size) : Bool := t.width ≤ s.width && t.height ≤ s.height

end Size

/-! ## Rectangles -/

/-- A rectangle by its top left corner and its extents. -/
structure Rect where
  x : Int
  y : Int
  width : Int
  height : Int
deriving DecidableEq, Repr

namespace Rect

/-- The rectangle at the origin. -/
def ofSize (s : Size) : Rect := ⟨0, 0, s.width, s.height⟩

def size (r : Rect) : Size := ⟨r.width, r.height⟩

/-- The first position right of the rectangle. -/
def right (r : Rect) : Int := wrap (r.x + r.width)

/-- The first position below the rectangle. -/
def bottom (r : Rect) : Int := wrap (r.y + r.height)

/-- No edge of the other rectangle lies outside. -/
def containsRect (r q : Rect) : Bool :=
  r.x ≤ q.x && r.y ≤ q.y && q.right ≤ r.right && q.bottom ≤ r.bottom

/-- The rectangle over an interval, given by start and extent, along each axis. -/
def ofIntervals (p : PerAxis (Int × Int)) : Rect :=
  ⟨p.horizontal.1, p.vertical.1, p.horizontal.2, p.vertical.2⟩

/-- The start and the extent along each axis. -/
def intervals (r : Rect) : PerAxis (Int × Int) := ⟨(r.x, r.width), (r.y, r.height)⟩

end Rect

/-! ## Insets -/

/-- The space kept free on each side of a container. -/
structure Insets where
  left : Int
  top : Int
  right : Int
  bottom : Int
deriving DecidableEq, Repr

namespace Insets

def zero : Insets := ⟨0, 0, 0, 0⟩

instance : Inhabited Insets := ⟨zero⟩

def uniform (n : Int) : Insets := ⟨n, n, n, n⟩

/-- The space taken along the horizontal axis. -/
def horizontal (i : Insets) : Int := wrap (i.left + i.right)

/-- The space taken along the vertical axis. -/
def vertical (i : Insets) : Int := wrap (i.top + i.bottom)

/-- The position at which the content starts along an axis. -/
def leading (i : Insets) : Axis → Int
  | .horizontal => i.left
  | .vertical => i.top

/-- The space left for the content; it may be negative. -/
def shrink (i : Insets) (s : Size) : Size :=
  ⟨wrap (s.width - i.horizontal), wrap (s.height - i.vertical)⟩

/-- The insets with the axes exchanged. -/
def swap (i : Insets) : Insets := ⟨i.top, i.left, i.bottom, i.right⟩

end Insets

/-! ## Regions of a border layout -/

/-- The four edges and the centre. -/
inductive BorderRegion where
  | north
  | south
  | west
  | east
  | center
deriving DecidableEq, Repr

namespace BorderRegion

def all : List BorderRegion := [north, south, west, east, center]

def name : BorderRegion → String
  | north => "NORTH"
  | south => "SOUTH"
  | west => "WEST"
  | east => "EAST"
  | center => "CENTER"

/-- The region with exactly this name. -/
def ofName? (name : String) : Option BorderRegion := all.find? fun r => r.name == name

end BorderRegion

end GridLayout

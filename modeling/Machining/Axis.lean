set_option autoImplicit false

/-!
# Axes

A machine has three linear axes `x`, `y`, `z` and two rotary axes `a`, `b`.  Program words address an
axis by its capital letter, positions by its small letter.  `PerAxis` holds one value for each axis.
-/

namespace Machining

/-- An axis of the machine. -/
inductive Axis where
  | x
  | y
  | z
  | a
  | b
  deriving DecidableEq, Repr, Inhabited

namespace Axis

/-- All axes, in the order in which they are moved. -/
def all : List Axis := [x, y, z, a, b]

/-- The linear axes, which offsets are kept for. -/
def linear : List Axis := [x, y, z]

/-- The name of an axis in positions. -/
def name : Axis → String
  | x => "x"
  | y => "y"
  | z => "z"
  | a => "a"
  | b => "b"

/-- The letter of an axis in program words. -/
def letter : Axis → String
  | x => "X"
  | y => "Y"
  | z => "Z"
  | a => "A"
  | b => "B"

/-- The axis of that name, small letters only. -/
def ofName? (name : String) : Option Axis := all.find? fun axis => axis.name = name

/-- The axis of that name in small or capital letters. -/
def ofAnyCase? (name : String) : Option Axis := ofName? (name.map Char.toLower)

theorem mem_all (axis : Axis) : axis ∈ all := by cases axis <;> decide

theorem ofName?_name (axis : Axis) : ofName? axis.name = some axis := by cases axis <;> decide

theorem name_injective {p q : Axis} (h : p.name = q.name) : p = q := by
  have hp := ofName?_name p
  rw [h, ofName?_name q] at hp
  exact (Option.some.inj hp).symm

end Axis

/-- One value for each axis. -/
structure PerAxis (α : Type) where
  x : α
  y : α
  z : α
  a : α
  b : α
  deriving DecidableEq, Repr, Inhabited

namespace PerAxis

variable {α : Type}

/-- The same value for every axis. -/
def constant (value : α) : PerAxis α := ⟨value, value, value, value, value⟩

/-- Builds the values from a function of the axis. -/
def ofFn (f : Axis → α) : PerAxis α := ⟨f .x, f .y, f .z, f .a, f .b⟩

/-- The value of an axis. -/
def get (values : PerAxis α) : Axis → α
  | .x => values.x
  | .y => values.y
  | .z => values.z
  | .a => values.a
  | .b => values.b

/-- Changes the value of one axis. -/
def set (values : PerAxis α) (axis : Axis) (value : α) : PerAxis α :=
  match axis with
  | .x => { values with x := value }
  | .y => { values with y := value }
  | .z => { values with z := value }
  | .a => { values with a := value }
  | .b => { values with b := value }

@[simp] theorem get_ofFn (f : Axis → α) (axis : Axis) : (ofFn f).get axis = f axis := by
  cases axis <;> rfl

@[simp] theorem get_constant (value : α) (axis : Axis) : (constant value).get axis = value := by
  cases axis <;> rfl

theorem get_set (values : PerAxis α) (axis other : Axis) (value : α) :
    (values.set axis value).get other = if other = axis then value else values.get other := by
  cases axis <;> cases other <;> rfl

end PerAxis

end Machining

import Machining.Fault
set_option autoImplicit false

/-!
# Address maps

Positions, offsets and the parameters of a command are numbers under addresses: axis names, offset
words or word letters.  A map keeps the order in which its addresses were first given; giving an
address again changes the number and keeps the place.  An address need not be known to the machine,
and a map need not hold every axis, so reading one is a step that may fail.
-/

namespace Machining

/-- Numbers under addresses, in the order in which the addresses were first given. -/
structure AddressMap where
  entries : List (String × Float) := []
  deriving DecidableEq, Repr, Inhabited

namespace AddressMap

/-- The number at an address. -/
def get? (m : AddressMap) (address : String) : Option Float := m.entries.lookup address

/-- The number at an address, or a replacement. -/
def getD (m : AddressMap) (address : String) (fallback : Float) : Float :=
  (m.get? address).getD fallback

/-- The number at an address that has to be there. -/
def get (m : AddressMap) (address : String) : Except Fault Float :=
  match m.get? address with
  | some value => .ok value
  | none => .error (.missingEntry address)

/-- The addresses in order. -/
def addresses (m : AddressMap) : List String := m.entries.map Prod.fst

/-- Sets an address in a list of entries. -/
def setIn (address : String) (value : Float) : List (String × Float) → List (String × Float)
  | [] => [(address, value)]
  | (a, v) :: rest => if a = address then (a, value) :: rest else (a, v) :: setIn address value rest

/-- Sets an address; a new one comes last. -/
def set (m : AddressMap) (address : String) (value : Float) : AddressMap :=
  ⟨setIn address value m.entries⟩

/-- Sets several addresses, from left to right. -/
def setAll (m : AddressMap) (entries : List (String × Float)) : AddressMap :=
  entries.foldl (fun m entry => m.set entry.1 entry.2) m

/-- The map of a list of entries; a repeated address keeps its first place and its last number. -/
def ofList (entries : List (String × Float)) : AddressMap := setAll ⟨[]⟩ entries

theorem get_eq_ok_iff {m : AddressMap} {address : String} {value : Float} :
    m.get address = .ok value ↔ m.get? address = some value := by
  unfold get
  cases m.get? address <;> simp

theorem lookup_setIn (address other : String) (value : Float) (entries : List (String × Float)) :
    (setIn address value entries).lookup other
      = if other = address then some value else entries.lookup other := by
  induction entries with
  | nil =>
    by_cases h : other = address
    · subst h; simp [setIn]
    · have h' : (other == address) = false := by simpa using h
      simp [setIn, List.lookup_cons, h, h']
  | cons entry rest ih =>
    obtain ⟨a, v⟩ := entry
    by_cases ha : a = address
    · subst ha
      by_cases h : other = a
      · subst h; simp [setIn]
      · have h' : (other == a) = false := by simpa using h
        simp [setIn, List.lookup_cons, h, h']
    · by_cases h : other = a
      · subst h
        simp [setIn, ha]
      · have h' : (other == a) = false := by simpa using h
        simp [setIn, ha, List.lookup_cons, h', ih]

@[simp] theorem get?_set (m : AddressMap) (address other : String) (value : Float) :
    (m.set address value).get? other = if other = address then some value else m.get? other :=
  lookup_setIn address other value m.entries

theorem map_fst_setIn (address : String) (value : Float) (entries : List (String × Float)) :
    (setIn address value entries).map Prod.fst
      = if address ∈ entries.map Prod.fst then entries.map Prod.fst
        else entries.map Prod.fst ++ [address] := by
  induction entries with
  | nil => simp [setIn]
  | cons entry rest ih =>
    obtain ⟨a, v⟩ := entry
    by_cases ha : a = address
    · simp [setIn, ha]
    · have ha' : ¬ address = a := fun h => ha h.symm
      simp only [setIn, ha, if_false, List.map_cons, ih, List.mem_cons, ha', false_or]
      split <;> simp

/-- Setting an address that is there keeps the addresses. -/
theorem addresses_set (m : AddressMap) (address : String) (value : Float) :
    (m.set address value).addresses
      = if address ∈ m.addresses then m.addresses else m.addresses ++ [address] :=
  map_fst_setIn address value m.entries

/-- After several settings an address has the last number it was given, or else its old one. -/
theorem get?_setAll (address : String) :
    ∀ (entries : List (String × Float)) (m : AddressMap),
      (m.setAll entries).get? address =
        (entries.filterMap fun e => if e.1 = address then some e.2 else none).getLast?.or
          (m.get? address) := by
  intro entries
  induction entries with
  | nil => intro m; rfl
  | cons entry rest ih =>
    intro m
    have hset : m.setAll (entry :: rest) = (m.set entry.1 entry.2).setAll rest := rfl
    rw [hset, ih, get?_set, List.filterMap_cons]
    by_cases h : entry.1 = address
    · rw [if_pos h.symm, if_pos h, List.getLast?_cons]
      cases (rest.filterMap fun e => if e.1 = address then some e.2 else none).getLast? <;> rfl
    · rw [if_neg fun h' => h h'.symm, if_neg h]

/-- In the map of a list of entries an address has the last number that the list gives it. -/
theorem get?_ofList (entries : List (String × Float)) (address : String) :
    (ofList entries).get? address =
      (entries.filterMap fun e => if e.1 = address then some e.2 else none).getLast? := by
  unfold ofList
  rw [get?_setAll]
  exact Option.or_none

end AddressMap

end Machining

import Mathlib.Data.List.Induction
import Machining.Machine.Travel
import Machining.Proofs.Number.Order
set_option autoImplicit false

/-!
# The account of a simulated machine

Moves are asked for by the name of an axis.  Where the machine stands and what it has
counted can be told from the requests alone: every axis stands where the last request for
it leads, as far as the travel allows, and every request that names an axis is counted.
Other requests are refused and change nothing.
-/

namespace Machining.Axis

/-! ## Names of axes -/

/-- A character that becomes a small letter is that letter or its capital. -/
theorem eq_or_eq_of_toLower {c small capital : Char}
    (hcapital : small.val = capital.val + ('a'.val - 'A'.val)) (h : c.toLower = small) :
    c = small ∨ c = capital := by
  unfold Char.toLower at h
  split at h
  · right
    have hval : c.val + ('a'.val - 'A'.val) = small.val := congrArg Char.val h
    exact Char.ext ((UInt32.add_left_inj _).mp (hval.trans hcapital))
  · exact .inl h

theorem eq_or_eq_of_map_toLower {name : String} (small capital : Char)
    (hcapital : small.val = capital.val + ('a'.val - 'A'.val))
    (h : name.map Char.toLower = String.singleton small) :
    name = String.singleton small ∨ name = String.singleton capital := by
  have hlist := congrArg String.toList h
  rw [String.toList_map, String.toList_singleton] at hlist
  obtain ⟨c, hc, hlower⟩ := List.map_eq_singleton_iff.mp hlist
  rw [← String.toList_inj, ← String.toList_inj, hc, String.toList_singleton,
    String.toList_singleton]
  rcases eq_or_eq_of_toLower hcapital hlower with rfl | rfl
  · exact .inl rfl
  · exact .inr rfl

theorem ofName?_eq_some_iff {name : String} {axis : Axis} :
    ofName? name = some axis ↔ name = axis.name := by
  constructor
  · intro h
    unfold ofName? at h
    have hfound := List.find?_some h
    exact (of_decide_eq_true hfound).symm
  · rintro rfl
    exact ofName?_name axis

/-- The names of an axis are its small letter and its capital letter. -/
theorem ofAnyCase?_eq_some_iff {name : String} {axis : Axis} :
    ofAnyCase? name = some axis ↔ name = axis.name ∨ name = axis.letter := by
  constructor
  · intro h
    have hname := ofName?_eq_some_iff.mp h
    cases axis with
    | x => exact eq_or_eq_of_map_toLower 'x' 'X' (by decide) hname
    | y => exact eq_or_eq_of_map_toLower 'y' 'Y' (by decide) hname
    | z => exact eq_or_eq_of_map_toLower 'z' 'Z' (by decide) hname
    | a => exact eq_or_eq_of_map_toLower 'a' 'A' (by decide) hname
    | b => exact eq_or_eq_of_map_toLower 'b' 'B' (by decide) hname
  · rintro (rfl | rfl) <;> cases axis <;> decide +kernel

end Machining.Axis

namespace Machining.Machine

/-! ## Travel -/

/-- The coordinate that the travel allows for a target: min(max(target, low), high). -/
def Range.clamp (r : Range) (target : Float) : Float :=
  Number.lesser (Number.greater target r.low) r.high

theorem Range.clip_eq_clamp {r : Range} (h : r.low ≤ r.high) (target : Float) :
    Number.clip r.low r.high target = r.clamp target :=
  Number.clip_eq_lesser_greater h target

/-- The limits of every axis are numbers, and in order. -/
def TravelLimits.InOrder (limits : TravelLimits) : Prop :=
  ∀ axis, (limits.get axis).low ≤ (limits.get axis).high

/-- Limits are in order if those that are listed are; the others do not limit. -/
theorem TravelLimits.ofList_inOrder {listed : List (String × Range)}
    (h : ∀ (axis : Axis) (range : Range), listed.lookup axis.name = some range →
      range.low ≤ range.high) : (TravelLimits.ofList listed).InOrder := by
  intro axis
  rw [TravelLimits.ofList, PerAxis.get_ofFn]
  cases hrange : listed.lookup axis.name with
  | none => decide
  | some range => exact h axis range hrange

/-! ## Requests -/

/-- A move that is asked for by the name of an axis. -/
structure MoveRequest where
  name : String
  target : Float
  rapid : Bool
  deriving DecidableEq, Repr, Inhabited

namespace MoveRequest

/-- The request names the axis, by its small letter or its capital one. -/
def names (r : MoveRequest) (axis : Axis) : Bool := r.name = axis.name || r.name = axis.letter

/-- The request names an axis. -/
def isServed (r : MoveRequest) : Bool := Axis.all.any r.names

/-- The target that the request has for an axis. -/
def target? (axis : Axis) (r : MoveRequest) : Option Float :=
  if r.names axis then some r.target else none

/-- The target is beyond the travel of the axis that the request names, or no number. -/
def isExcluded (limits : TravelLimits) (r : MoveRequest) : Bool :=
  Axis.all.any fun axis => r.names axis &&
    (r.target.isNaN || r.target < (limits.get axis).low || (limits.get axis).high < r.target)

variable {r : MoveRequest} {axis : Axis}

theorem names_iff : r.names axis = true ↔ Axis.ofAnyCase? r.name = some axis := by
  rw [Axis.ofAnyCase?_eq_some_iff, names, Bool.or_eq_true_iff, decide_eq_true_iff,
    decide_eq_true_iff]

/-- A request names one axis at most. -/
theorem names_eq (h : r.names axis = true) (other : Axis) :
    r.names other = decide (other = axis) := by
  rw [names_iff] at h
  by_cases hother : other = axis
  · rw [decide_eq_true hother, names_iff, hother, h]
  · rw [decide_eq_false hother, Bool.eq_false_iff, Ne, names_iff, h]
    exact fun heq => hother (Option.some.inj heq).symm

theorem isServed_iff : r.isServed = true ↔ ∃ axis, r.names axis = true := by
  rw [isServed, List.any_eq_true]
  exact ⟨fun ⟨axis, _, h⟩ => ⟨axis, h⟩, fun ⟨axis, h⟩ => ⟨axis, axis.mem_all, h⟩⟩

/-- Of all axes only the one that is named is asked. -/
theorem any_names (h : r.names axis = true) (p : Axis → Bool) :
    (Axis.all.any fun other => r.names other && p other) = p axis := by
  rw [Bool.eq_iff_iff, List.any_eq_true]
  constructor
  · rintro ⟨other, _, hother⟩
    rw [names_eq h, Bool.and_eq_true_iff, decide_eq_true_iff] at hother
    exact hother.1 ▸ hother.2
  · intro hp
    exact ⟨axis, axis.mem_all, Bool.and_eq_true_iff.mpr ⟨h, hp⟩⟩

end MoveRequest

namespace Simulation

/-- The machine after a request. -/
def serve (m : Simulation) (r : MoveRequest) : Simulation :=
  (m.moveNamed r.name r.target r.rapid).1

/-- The machine after requests, one after the other. -/
def serveAll (m : Simulation) (requests : List MoveRequest) : Simulation :=
  requests.foldl serve m

theorem serveAll_concat (m : Simulation) (requests : List MoveRequest) (r : MoveRequest) :
    m.serveAll (requests ++ [r]) = (m.serveAll requests).serve r :=
  List.foldl_append

section

variable (m : Simulation) {r : MoveRequest}

/-- A request that names no axis is refused. -/
theorem moveNamed_of_not_served (h : r.isServed = false) :
    m.moveNamed r.name r.target r.rapid = (m, .error (.unknownAxis r.name), []) := by
  have hnone : Axis.ofAnyCase? r.name = none := by
    rw [Option.eq_none_iff_forall_ne_some]
    intro axis haxis
    rw [MoveRequest.isServed_iff.mpr ⟨axis, MoveRequest.names_iff.mpr haxis⟩] at h
    cases h
  unfold moveNamed
  rw [hnone]

/-- A request that names an axis moves it, and is answered with the coordinate reached. -/
theorem moveNamed_of_names {axis : Axis} (h : r.names axis = true) :
    let range := m.limits.get axis
    let value := Number.clip range.low range.high r.target
    (m.moveNamed r.name r.target r.rapid).2.1 = .ok value ∧
    m.serve r =
      { m with
        position := m.position.set axis value
        rapidMoves := if r.rapid then m.rapidMoves + 1 else m.rapidMoves
        feedMoves := if r.rapid then m.feedMoves else m.feedMoves + 1
        clampedMoves := if !(value == r.target) then m.clampedMoves + 1 else m.clampedMoves } := by
  unfold serve moveNamed
  rw [MoveRequest.names_iff.mp h]
  exact ⟨rfl, rfl⟩

end

/-! ## The account -/

/-- The machine stands and has counted as the requests tell. -/
structure Accounts (limits : TravelLimits) (requests : List MoveRequest) (m : Simulation) :
    Prop where
  travel : m.limits = limits
  position : ∀ axis, m.position.get axis =
    ((requests.filterMap (MoveRequest.target? axis)).getLast?.map (limits.get axis).clamp).getD 0.0
  rapidMoves : m.rapidMoves = requests.countP fun r => r.isServed && r.rapid
  feedMoves : m.feedMoves = requests.countP fun r => r.isServed && !r.rapid
  clampedMoves : m.clampedMoves = requests.countP (MoveRequest.isExcluded limits)

namespace Accounts

variable {limits : TravelLimits} {requests : List MoveRequest} {m : Simulation}

/-- One request more keeps the account. -/
theorem serve (h : m.Accounts limits requests) (hlimits : limits.InOrder) (r : MoveRequest) :
    (m.serve r).Accounts limits (requests ++ [r]) := by
  cases hserved : r.isServed with
  | false =>
    have hnames : ∀ axis, r.names axis = false := by
      intro axis
      rw [Bool.eq_false_iff]
      intro haxis
      rw [MoveRequest.isServed_iff.mpr ⟨axis, haxis⟩] at hserved
      cases hserved
    have hsame : m.serve r = m := congrArg Prod.fst (moveNamed_of_not_served m hserved)
    have hexcluded : r.isExcluded limits = false := by
      simp [MoveRequest.isExcluded, hnames]
    rw [hsame]
    constructor
    · exact h.travel
    · intro axis
      simpa [MoveRequest.target?, hnames] using h.position axis
    · simpa [hserved] using h.rapidMoves
    · simpa [hserved] using h.feedMoves
    · simpa [hexcluded] using h.clampedMoves
  | true =>
    obtain ⟨axis, haxis⟩ := MoveRequest.isServed_iff.mp hserved
    obtain ⟨_, hserve⟩ := moveNamed_of_names m haxis
    rw [h.travel] at hserve
    have hexcluded : r.isExcluded limits =
        !(Number.clip (limits.get axis).low (limits.get axis).high r.target == r.target) := by
      have hchanged := Number.clip_beq_eq_false_iff (hlimits axis) r.target
      unfold MoveRequest.isExcluded
      rw [MoveRequest.any_names haxis, Bool.eq_iff_iff, Bool.not_eq_true', hchanged]
      simp only [Bool.or_eq_true_iff, decide_eq_true_iff, or_assoc]
    rw [hserve, ← hexcluded]
    constructor
    · rfl
    · intro other
      rw [PerAxis.get_set, List.filterMap_append]
      by_cases hother : other = axis
      · subst hother
        rw [if_pos rfl, Range.clip_eq_clamp (hlimits other)]
        simp [MoveRequest.target?, haxis]
      · rw [if_neg hother, h.position other]
        simp [MoveRequest.target?, MoveRequest.names_eq haxis, hother]
    · rw [List.countP_append, ← h.rapidMoves]
      cases hrapid : r.rapid <;> simp [hserved, hrapid]
    · rw [List.countP_append, ← h.feedMoves]
      cases hrapid : r.rapid <;> simp [hserved, hrapid]
    · rw [List.countP_append, ← h.clampedMoves]
      cases hchanged : r.isExcluded limits <;> simp [hchanged]

end Accounts

/-- The account of a new machine is kept by every row of requests. -/
theorem serveAll_accounts {limits : TravelLimits} (hlimits : limits.InOrder)
    (requests : List MoveRequest) :
    (serveAll { limits := limits } requests).Accounts limits requests := by
  induction requests using List.reverseRecOn with
  | nil =>
    refine ⟨rfl, ?_, rfl, rfl, rfl⟩
    intro axis
    exact PerAxis.get_constant 0.0 axis
  | append_singleton requests r ih =>
    rw [serveAll_concat]
    exact ih.serve hlimits r

end Simulation

namespace MoveRequest

/-- The served requests are the rapid ones and the others. -/
theorem countP_isServed (requests : List MoveRequest) :
    requests.countP (fun r => r.isServed && r.rapid) +
        requests.countP (fun r => r.isServed && !r.rapid) =
      requests.countP isServed := by
  induction requests with
  | nil => rfl
  | cons r rest ih =>
    simp only [List.countP_cons, ← ih]
    cases r.isServed <;> cases r.rapid <;> simp <;> omega

end MoveRequest

/-- A new machine with limits in order, after any requests: every axis stands at zero or
where the last request for it leads, as far as its travel allows, so at the target itself if
that is within the travel; every request that names an axis is counted by its rate, and those
whose target was changed are counted once more.  The next request is answered with the
coordinate reached if it names an axis; otherwise it is refused and changes nothing. -/
theorem moves_accounted_for {listed : List (String × Range)}
    (hlisted : ∀ (axis : Axis) (range : Range), listed.lookup axis.name = some range →
      range.low ≤ range.high)
    (requests : List MoveRequest) :
    let limits := TravelLimits.ofList listed
    let m := Simulation.serveAll { limits := limits } requests
    m.Accounts limits requests ∧
    m.rapidMoves + m.feedMoves = requests.countP MoveRequest.isServed ∧
    (∀ axis target, (requests.filterMap (MoveRequest.target? axis)).getLast? = some target →
      (target.isNaN = false → (limits.get axis).low ≤ m.position.get axis ∧
        m.position.get axis ≤ (limits.get axis).high) ∧
      ((limits.get axis).low ≤ target → target ≤ (limits.get axis).high →
        m.position.get axis = target)) ∧
    ∀ r : MoveRequest,
      (r.isServed = true → ∃ axis, r.names axis = true ∧
        (m.moveNamed r.name r.target r.rapid).2.1 = .ok ((m.serve r).position.get axis)) ∧
      (r.isServed = false →
        m.moveNamed r.name r.target r.rapid = (m, .error (.unknownAxis r.name), []) ∧
          (Fault.unknownAxis r.name).category = "ValueError") := by
  intro limits m
  have hlimits : limits.InOrder := TravelLimits.ofList_inOrder hlisted
  have haccounts : m.Accounts limits requests := Simulation.serveAll_accounts hlimits requests
  refine ⟨haccounts, ?_, ?_, ?_⟩
  · rw [haccounts.rapidMoves, haccounts.feedMoves]
    exact MoveRequest.countP_isServed requests
  · intro axis target hlast
    have hposition : m.position.get axis =
        Number.clip (limits.get axis).low (limits.get axis).high target := by
      rw [haccounts.position, hlast, Range.clip_eq_clamp (hlimits axis)]
      rfl
    obtain ⟨hlow, hhigh⟩ := Number.isNaN_of_le (hlimits axis)
    rw [hposition]
    refine ⟨Number.clip_mem hlow hhigh (hlimits axis), ?_⟩
    intro hbelow habove
    exact Number.clip_eq_self hlow hhigh (Number.not_lt_of_le hbelow)
      (Number.not_lt_of_le habove)
  · intro r
    constructor
    · intro hserved
      obtain ⟨axis, haxis⟩ := MoveRequest.isServed_iff.mp hserved
      obtain ⟨hanswer, hserve⟩ := Simulation.moveNamed_of_names m haxis
      refine ⟨axis, haxis, ?_⟩
      rw [hanswer, hserve, PerAxis.get_set, if_pos rfl]
    · intro hrefused
      exact ⟨Simulation.moveNamed_of_not_served m hrefused, rfl⟩

/-- Six requests: beyond the travel of `x`, for no axis, for an axis without limits, for no
number, for a limit of `z` with the other sign, and for two axes at once. -/
theorem moves_accounted_for_six_requests :
    let listed : List (String × Range) := [("x", ⟨-1.0, 1.0⟩), ("z", ⟨0.0, 5.0⟩)]
    let requests : List MoveRequest :=
      [⟨"X", 3.0, true⟩, ⟨"q", 1.0, false⟩, ⟨"y", 1e300, false⟩, ⟨"z", 0.0 / 0.0, true⟩,
        ⟨"Z", -0.0, false⟩, ⟨"xy", 2.0, true⟩]
    let m := Simulation.serveAll { limits := TravelLimits.ofList listed } requests
    (∀ (axis : Axis) (range : Range), listed.lookup axis.name = some range →
      range.low ≤ range.high) ∧
    m.position = { x := 1.0, y := 1e300, z := -0.0, a := 0.0, b := 0.0 } ∧
    m.rapidMoves = 2 ∧ m.feedMoves = 2 ∧ m.clampedMoves = 2 := by
  intro listed requests m
  have hall : ∀ entry ∈ listed, entry.2.low ≤ entry.2.high := by decide +kernel
  have hlisted : ∀ (axis : Axis) (range : Range), listed.lookup axis.name = some range →
      range.low ≤ range.high := by
    intro axis range hrange
    obtain ⟨before, after, hsplit, _⟩ := List.lookup_eq_some_iff.mp hrange
    exact hall (axis.name, range) (hsplit ▸ List.mem_append_right before List.mem_cons_self)
  obtain ⟨haccounts, _⟩ := moves_accounted_for hlisted requests
  refine ⟨hlisted, ?_, ?_, ?_, ?_⟩
  · have hposition : m.position = .ofFn m.position.get := rfl
    rw [hposition, funext haccounts.position]
    decide +kernel
  · exact haccounts.rapidMoves.trans (by decide +kernel)
  · exact haccounts.feedMoves.trans (by decide +kernel)
  · exact haccounts.clampedMoves.trans (by decide +kernel)

end Machining.Machine

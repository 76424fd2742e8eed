import Machining.Proofs.Playback.Invariant
set_option autoImplicit false

/-!
# Playback in time

An advance in time is a loop that plays segments while the time at hand covers them.
The loop ends from every session, and what it plays is exactly what the time covers:
every segment that is played was covered when its turn came, and the next one, if
there is one, is not.
-/

namespace Machining.Playback

open Machining.Machine
open Machining.Program
open Machining.Toolpath

/-! ## Time and durations -/

/-- The time left when `k` segments from the index `c` on have taken their
durations, one after the other. -/
def timeLeft (durations : List Float) (c : Nat) (time : Float) : Nat → Float
  | 0 => time
  | k + 1 => timeLeft durations c time k - durations.getD (c + k) 0.0

/-- The time covers `n` segments from the index `c` on: none of them asks for more
than is left when its turn comes.  A comparison with "not a number" does not ask for
more. -/
def Covers (durations : List Float) (c : Nat) (time : Float) (n : Nat) : Prop :=
  ∀ k < n, ∃ d, durations[c + k]? = some d ∧ ¬ timeLeft durations c time k < d

/-- After `n` segments there is another one, and it asks for more than is left. -/
def FallsShort (durations : List Float) (c : Nat) (time : Float) (n : Nat) : Prop :=
  ∃ d, durations[c + n]? = some d ∧ timeLeft durations c time n < d

section

variable {durations : List Float} {c n : Nat} {time d : Float}

/-- Taking off the first duration at once changes nothing. -/
theorem timeLeft_succ (h : durations[c]? = some d) (k : Nat) :
    timeLeft durations (c + 1) (time - d) k = timeLeft durations c time (k + 1) := by
  induction k with
  | zero =>
    simp only [timeLeft, Nat.add_zero, List.getD_eq_getElem?_getD, h,
      Option.getD_some]
  | succ k ih =>
    have hindex : c + 1 + k = c + (k + 1) := by omega
    rw [timeLeft, ih, hindex]
    rfl

theorem covers_zero : Covers durations c time 0 := by
  intro k hk
  omega

theorem covers_succ (h : durations[c]? = some d) (hd : ¬ time < d)
    (hrest : Covers durations (c + 1) (time - d) n) :
    Covers durations c time (n + 1) := by
  intro k hk
  cases k with
  | zero => exact ⟨d, h, hd⟩
  | succ k =>
    obtain ⟨d', hd', hcovered⟩ := hrest k (by omega)
    have hindex : c + 1 + k = c + (k + 1) := by omega
    rw [hindex] at hd'
    rw [timeLeft_succ h] at hcovered
    exact ⟨d', hd', hcovered⟩

theorem fallsShort_succ (h : durations[c]? = some d)
    (hrest : FallsShort durations (c + 1) (time - d) n) :
    FallsShort durations c time (n + 1) := by
  obtain ⟨d', hd', hshort⟩ := hrest
  have hindex : c + 1 + n = c + (n + 1) := by omega
  rw [hindex] at hd'
  rw [timeLeft_succ h] at hshort
  exact ⟨d', hd', hshort⟩

/-- Time that covers `m` segments and does not fall short after `n` of them covers
at most `n` if there are no more. -/
theorem le_of_covers {m : Nat} (hm : Covers durations c time m)
    (hn : c + n = durations.length ∨ FallsShort durations c time n) : m ≤ n := by
  rcases Nat.lt_or_ge n m with hlt | hle
  · exfalso
    obtain ⟨d, hd, hcovered⟩ := hm n hlt
    rcases hn with hend | ⟨d', hd', hshort⟩
    · obtain ⟨hbound, _⟩ := List.getElem?_eq_some_iff.mp hd
      omega
    · rw [hd] at hd'
      cases hd'
      exact hcovered hshort
  · exact hle

end

namespace Session

/-! ## The loop ends -/

/-- The loop of an advance, at most `bound` passes of it.  Every pass looks at the
mode and at the duration under the cursor anew; `none` says that the loop wants to
go on. -/
def passes : Nat → Session → Option (Turn (Except Fault Nat))
  | 0, _ => none
  | bound + 1, s =>
    if s.mode = .running then
      match s.durations[s.cursor]? with
      | none =>
        let turn := s.forward
        some ⟨turn.session, turn.answer.map fun _ => 0, turn.journal⟩
      | some duration =>
        if s.elapsed < duration then some ⟨s, .ok 0, []⟩
        else
          let turn := { s with elapsed := s.elapsed - duration }.forward
          match turn.answer with
          | .error fault => some ⟨turn.session, .error fault, turn.journal⟩
          | .ok played =>
            (passes bound turn.session).map fun later =>
              ⟨later.session, later.answer.map (· + if played then 1 else 0),
                turn.journal ++ later.journal⟩
    else some ⟨s, .ok 0, []⟩

/-- The time at hand in an advance by some seconds. -/
def timeAfter (s : Session) (seconds : Float) : Float :=
  s.elapsed + Number.keepUnlessGreater seconds 0.0 * s.speed

/-- An advance by way of the loop, at most `bound` passes of it. -/
def advanceWithin (bound : Nat) (s : Session) (seconds : Float) :
    Option (Turn (Except Fault Nat)) :=
  if s.mode = .running ∧ s.job.isSome then
    passes bound { s with elapsed := s.timeAfter seconds }
  else some ⟨s, .ok 0, []⟩

/-- A session that is not running leaves the loop at once. -/
theorem passes_of_not_running {s : Session} (bound : Nat) (h : s.mode ≠ .running) :
    passes (bound + 1) s = some ⟨s, .ok 0, []⟩ := by
  unfold passes
  rw [if_neg h]

/-- One pass for every duration from the cursor on, and one more, are enough. -/
theorem passes_eq_spend :
    ∀ (ahead : List Float) {s : Session} {job : Job}, s.job = some job →
      s.mode = .running → s.durations.drop s.cursor = ahead →
      passes (ahead.length + 1) s = some (spend ahead s) := by
  intro ahead
  induction ahead with
  | nil =>
    intro s job hjob hmode hahead
    have hnone : s.durations[s.cursor]? = none := by
      rw [← List.head?_drop, hahead]
      rfl
    simp only [passes, hmode, if_true, hnone, spend]
  | cons d rest ih =>
    intro s job hjob hmode hahead
    obtain ⟨hd, hnext⟩ := getElem?_of_drop hahead
    rw [List.length_cons]
    unfold passes spend
    rw [if_pos hmode]
    simp only [hd]
    by_cases hshort : s.elapsed < d
    · rw [if_pos hshort, if_pos hshort]
    · rw [if_neg hshort, if_neg hshort]
      -- A step that plays leaves the rest of the durations ahead; one that does not
      -- ends the loop by itself.
      rcases forward_cases (s := { s with elapsed := s.elapsed - d }) hjob with
        ⟨m, _, hanswer, hsession⟩ | ⟨m, fault, hanswer, _⟩ | ⟨m, _, hanswer, hsession⟩
      · have hlater := ih
          (s := { s with
            machine := m
            cursor := s.cursor + 1
            elapsed := s.elapsed - d })
          hjob hmode hnext
        simp only [hanswer, hsession]
        rw [hlater, if_pos hmode]
        rfl
      · simp only [hanswer]
      · have hstopped := passes_of_not_running
          (s := { s with
            machine := m
            mode := .stopped
            cursor := 0
            elapsed := 0.0 })
          rest.length (fun h => Mode.noConfusion h)
        simp only [hanswer, hsession]
        rw [hstopped]
        simp only [Option.map_some, List.append_nil]
        rfl

/-- The loop of an advance ends, from every session, also where durations and
toolpath do not fit. -/
theorem advanceWithin_eq_advance (s : Session) (seconds : Float) :
    advanceWithin (s.durations.length - s.cursor + 1) s seconds =
      some (s.advance seconds) := by
  unfold advanceWithin advance
  split
  · rename_i hrunning
    obtain ⟨job, hjob⟩ := Option.isSome_iff_exists.mp hrunning.2
    have hpasses := passes_eq_spend (s.durations.drop s.cursor)
      (s := { s with elapsed := s.timeAfter seconds }) hjob hrunning.1 rfl
    rw [List.length_drop] at hpasses
    exact hpasses
  · rfl

/-! ## What the time plays -/

/-- The turn that plays segments in a row and goes on, with some time left. -/
def playOn (s : Session) (segments : List Segment) (time : Float) :
    Turn (Except Fault Nat) :=
  ⟨{ s with
      machine := (s.row segments).1
      cursor := s.cursor + segments.length
      elapsed := time },
    .ok segments.length, (s.row segments).2⟩

/-- The turn that plays segments in a row and then ends the program. -/
def playOut (s : Session) (segments : List Segment) : Turn (Except Fault Nat) :=
  ⟨{ s with
      machine := (s.finale segments).1
      mode := .stopped
      cursor := 0
      elapsed := 0.0 },
    .ok segments.length, (s.finale segments).2⟩

/-- The loop plays the first `n` segments ahead and goes on, or it plays them all
and ends the program. -/
inductive Greedy (s : Session) (ahead : List Segment)
    (turn : Turn (Except Fault Nat)) (n : Nat) : Prop where
  | short (more : n < ahead.length)
      (covered : Covers s.durations s.cursor s.elapsed n)
      (short : FallsShort s.durations s.cursor s.elapsed n)
      (eq : turn =
        s.playOn (ahead.take n) (timeLeft s.durations s.cursor s.elapsed n))
  | out (all : n = ahead.length) (covered : Covers s.durations s.cursor s.elapsed n)
      (eq : turn = s.playOut ahead)

/-- One more segment in front of what the loop plays. -/
theorem Greedy.cons {s : Session} {g : Segment} {later : List Segment} {d : Float}
    {turn : Turn (Except Fault Nat)} {n : Nat} (hd : s.durations[s.cursor]? = some d)
    (hcovered : ¬ s.elapsed < d)
    (h : Greedy { s with
      machine := (s.schedule.play s.machine s.cursor g).1.machine
      cursor := s.cursor + 1
      elapsed := s.elapsed - d } later turn n) :
    Greedy s (g :: later)
      ⟨turn.session, turn.answer.map (· + 1),
        (s.schedule.play s.machine s.cursor g).1.journal ++
          s.renderer.tell (.setCurrentSegment s.cursor) ++ turn.journal⟩ (n + 1) := by
  cases h with
  | short more covered short eq =>
    have hlength : (later.take n).length = n :=
      List.length_take_of_le (Nat.le_of_lt more)
    have hindex : s.cursor + 1 + n = s.cursor + (n + 1) := by omega
    refine .short (Nat.succ_lt_succ more) (covers_succ hd hcovered covered)
      (fallsShort_succ hd short) ?_
    rw [eq]
    simp only [playOn, row, List.take_succ_cons, List.length_cons, hlength,
      Schedule.playRow, timeLeft_succ hd, hindex, Except.map]
  | out all covered eq =>
    refine .out (congrArg (· + 1) all) (covers_succ hd hcovered covered) ?_
    rw [eq]
    simp only [playOut, finale, row, List.length_cons, Schedule.playRow, Except.map,
      List.append_assoc]

/-- The loop is greedy wherever the durations ahead are those of the segments ahead. -/
theorem spend_greedy :
    ∀ (ahead : List Float) (segments : List Segment) {s : Session} {job : Job},
      s.job = some job → (∀ g ∈ job.toolpath, IsPlayable g) → s.mode = .running →
      s.durations.drop s.cursor = ahead → job.toolpath.drop s.cursor = segments →
      ahead.length = segments.length → ∃ n, Greedy s segments (spend ahead s) n := by
  intro ahead
  induction ahead with
  | nil =>
    intro segments s job hjob _ _ _ hsegments hlength
    have hnil : segments = [] := List.length_eq_zero_iff.mp hlength.symm
    subst hnil
    have hend : job.toolpath[s.cursor]? = none := by
      rw [← List.head?_drop, hsegments]
      rfl
    refine ⟨0, .out rfl covers_zero ?_⟩
    simp only [spend, forward_end hjob hend]
    rfl
  | cons d rest ih =>
    intro segments s job hjob hplayable hmode hahead hsegments hlength
    obtain ⟨hd, hnext⟩ := getElem?_of_drop hahead
    cases segments with
    | nil => cases hlength
    | cons g later =>
      by_cases hshort : s.elapsed < d
      · refine ⟨0, .short (Nat.zero_lt_succ _) covers_zero ⟨d, hd, hshort⟩ ?_⟩
        unfold spend
        rw [if_pos hshort]
        rfl
      -- Paying for the segment and playing it is one pass; the rest is the loop from
      -- the next segment on.
      · obtain ⟨hg, hlater⟩ := getElem?_of_drop hsegments
        have hg' : IsPlayable g := hplayable g (List.mem_of_getElem? hg)
        have hforward :=
          forward_play (s := { s with elapsed := s.elapsed - d }) hjob hg hg'
        obtain ⟨n, hgreedy⟩ := ih later
          (s := { s with
            machine := (s.schedule.play s.machine s.cursor g).1.machine
            cursor := s.cursor + 1
            elapsed := s.elapsed - d })
          hjob hplayable hmode hnext hlater (Nat.succ.inj hlength)
        refine ⟨n + 1, ?_⟩
        unfold spend
        rw [if_neg hshort]
        simp only [hforward]
        rw [if_pos hmode]
        exact hgreedy.cons hd hshort

/-- A session that is not running does not advance. -/
theorem advance_of_not_running {s : Session} (h : s.mode ≠ .running)
    (seconds : Float) : s.advance seconds = ⟨s, .ok 0, []⟩ := by
  unfold advance
  rw [if_neg (fun hboth => h hboth.1)]

/-- An advance of a running session with a job is greedy. -/
theorem advance_greedy {settings : Settings} {s : Session} {job : Job}
    (h : IsLoaded settings s job) (hmode : s.mode = .running) (seconds : Float) :
    ∃ n, Greedy { s with elapsed := s.timeAfter seconds } (job.toolpath.drop s.cursor)
      (s.advance seconds) n := by
  have hjob : s.job.isSome := Option.isSome_iff_exists.mpr ⟨job, h.held⟩
  have hlength : (s.durations.drop s.cursor).length =
      (job.toolpath.drop s.cursor).length := by
    rw [List.length_drop, List.length_drop, h.length_durations]
  unfold advance
  rw [if_pos ⟨hmode, hjob⟩]
  exact spend_greedy _ _ (s := { s with elapsed := s.timeAfter seconds })
    h.held h.playable hmode rfl rfl hlength

/-- A greedy loop answers with the number of segments that it played. -/
theorem Greedy.answer {s : Session} {ahead : List Segment}
    {turn : Turn (Except Fault Nat)} {n : Nat} (h : Greedy s ahead turn n) :
    turn.answer = .ok n := by
  cases h with
  | short more covered short eq =>
    rw [eq]
    exact congrArg Except.ok (List.length_take_of_le (Nat.le_of_lt more))
  | out all covered eq =>
    rw [eq, all]
    rfl

end Session

section

variable {settings : Settings} {s : Session}

/-- The advance of a running session, told by durations and times alone. -/
theorem advance_of_running (h : Reachable settings s) (hmode : s.mode = .running)
    (seconds : Float) :
    let time := s.timeAfter seconds
    let turn := s.advance seconds
    s.durations.length = s.toolpath.length ∧
      ∃ n, turn.answer = .ok n ∧ Covers s.durations s.cursor time n ∧
        ((s.cursor + n < s.toolpath.length ∧ FallsShort s.durations s.cursor time n ∧
            turn.session.mode = .running ∧ turn.session.cursor = s.cursor + n ∧
            turn.session.elapsed = timeLeft s.durations s.cursor time n ∧
            turn.session.durations = s.durations ∧ turn.session.job = s.job) ∨
          (s.cursor + n = s.toolpath.length ∧
            turn.session.mode = .stopped ∧ turn.session.cursor = 0 ∧
            turn.session.elapsed = 0.0)) := by
  intro time turn
  obtain ⟨job, hjob, hloaded⟩ :=
    h.consistent.exists_job (by rw [hmode]; exact Mode.noConfusion)
  have htoolpath : s.toolpath = job.toolpath := by simp only [Session.toolpath, hjob]
  have hcursor := hloaded.cursor
  obtain ⟨n, hgreedy⟩ := Session.advance_greedy hloaded hmode seconds
  rw [htoolpath]
  refine ⟨hloaded.length_durations, n, hgreedy.answer, ?_⟩
  cases hgreedy with
  | short more covered short eq =>
    have hlength := List.length_take_of_le (Nat.le_of_lt more)
    rw [List.length_drop] at more
    refine ⟨covered, .inl ⟨by omega, short, ?_⟩⟩
    have hturn : turn = _ := eq
    rw [hturn]
    refine ⟨hmode, ?_, rfl, rfl, rfl⟩
    simp only [Session.playOn, hlength]
  | out all covered eq =>
    rw [List.length_drop] at all
    refine ⟨covered, .inr ⟨by omega, ?_⟩⟩
    have hturn : turn = _ := eq
    rw [hturn]
    exact ⟨rfl, rfl, rfl⟩

/-- An advance never leaves a session running where the time at hand covers the
segment at the cursor, nor past the last segment. -/
theorem short_after_advance (h : Reachable settings s) (seconds : Float) {t : Session}
    (ht : (s.advance seconds).session = t) (hrunning : t.mode = .running) :
    t.cursor < t.toolpath.length ∧
      ∃ d, t.durations[t.cursor]? = some d ∧ t.elapsed < d := by
  by_cases hmode : s.mode = .running
  · obtain ⟨_, n, _, _, hwhere⟩ := advance_of_running h hmode seconds
    rw [ht] at hwhere
    rcases hwhere with hmore | ⟨_, hstopped, _⟩
    · obtain ⟨hmore, hshort, _, hcursor, helapsed, hdurations, hjob⟩ := hmore
      obtain ⟨d, hd, hless⟩ := hshort
      have htoolpath : t.toolpath = s.toolpath := by
        simp only [Session.toolpath, hjob]
      rw [htoolpath, hcursor, hdurations, helapsed]
      exact ⟨hmore, d, hd, hless⟩
    · rw [hstopped] at hrunning
      cases hrunning
  · rw [Session.advance_of_not_running hmode] at ht
    rw [← ht] at hrunning
    exact absurd hrunning hmode

/-- An advance always ends.  In a running session it plays exactly the segments that
the time covers one after the other: the session goes on at the first segment that
asks for more than is left, or it has played them all and stops.  So it is never left
running where the time covers the segment at the cursor, nor past the last segment. -/
theorem advance_plays_what_time_covers (settings : Settings) :
    (∀ (s : Session) (seconds : Float),
      Session.advanceWithin (s.durations.length - s.cursor + 1) s seconds =
        some (s.advance seconds)) ∧
    (∀ (s : Session) (seconds : Float), Reachable settings s → s.mode = .running →
      let time := s.elapsed + Number.keepUnlessGreater seconds 0.0 * s.speed
      let turn := s.advance seconds
      s.durations.length = s.toolpath.length ∧
      ∃ n, turn.answer = .ok n ∧ Covers s.durations s.cursor time n ∧
        ((s.cursor + n < s.toolpath.length ∧ FallsShort s.durations s.cursor time n ∧
            turn.session.mode = .running ∧ turn.session.cursor = s.cursor + n ∧
            turn.session.elapsed = timeLeft s.durations s.cursor time n) ∨
          (s.cursor + n = s.toolpath.length ∧
            turn.session.mode = .stopped ∧ turn.session.cursor = 0 ∧
            turn.session.elapsed = 0.0)) ∧
        ∀ m, Covers s.durations s.cursor time m →
          (s.cursor + m = s.toolpath.length ∨
            FallsShort s.durations s.cursor time m) → m = n) ∧
    (∀ (s : Session) (seconds : Float), Reachable settings s →
      let t := (s.advance seconds).session
      t.mode = .running →
        t.cursor < t.toolpath.length ∧
          ∃ d, t.durations[t.cursor]? = some d ∧ t.elapsed < d) := by
  refine ⟨Session.advanceWithin_eq_advance, ?_, ?_⟩
  · intro s seconds h hmode time turn
    obtain ⟨hlength, n, hanswer, hcovered, hwhere⟩ :=
      advance_of_running h hmode seconds
    have hbound : s.cursor + n = s.durations.length ∨
        FallsShort s.durations s.cursor time n := by
      rcases hwhere with ⟨_, hshort, _⟩ | ⟨hend, _⟩
      · exact .inr hshort
      · exact .inl (hend.trans hlength.symm)
    refine ⟨hlength, n, hanswer, hcovered, ?_, ?_⟩
    · rcases hwhere with ⟨hmore, hshort, hrunning, hcursor, helapsed, _⟩ | hstopped
      · exact .inl ⟨hmore, hshort, hrunning, hcursor, helapsed⟩
      · exact .inr hstopped
    · intro m hm hmbound
      rw [← hlength] at hmbound
      apply Nat.le_antisymm
      · exact le_of_covers hm hbound
      · exact le_of_covers hcovered hmbound
  · intro s seconds h t hrunning
    exact short_after_advance h seconds rfl hrunning

/-- Three segments of a second each, at double speed, after a pause within the
second one: half a second plays one segment more and leaves half a second of
playback time. -/
theorem advance_plays_what_time_covers_after_pause :
    let history :=
      [.load "G1 X10 F600\nG1 X20\nG1 X30" acceptAll, .start, .setSpeed 2.0,
        .advance 0.75, .pause, .advance 9.0, .resume]
    let fresh : Session := { machine := .recorder true }
    let s := (fresh.operateAll .standard history).session
    let turn := s.advance 0.5
    Reachable .standard s ∧ s.mode = .running ∧ s.cursor = 1 ∧ s.elapsed = 0.5 ∧
      turn.answer = .ok 1 ∧ turn.session.mode = .running ∧ turn.session.cursor = 2 ∧
      turn.session.elapsed = 0.5 := by
  intro history fresh s turn
  let time := s.elapsed + Number.keepUnlessGreater 0.5 0.0 * s.speed
  have hreachable : Reachable .standard s :=
    (Reachable.new (.recorder true) .absent).operateAll history (by decide +kernel)
  have hbefore : s.mode = .running ∧ s.cursor = 1 ∧ s.elapsed = 0.5 := by
    decide +kernel
  have hafter : turn.session.mode = .running ∧ turn.session.cursor = 2 ∧
      turn.session.elapsed = 0.5 := by decide +kernel
  have hdurations : s.durations = [1.0, 1.0, 1.0] := by decide +kernel
  have htimes : ¬ timeLeft s.durations s.cursor time 0 < 1.0 ∧
      timeLeft s.durations s.cursor time 1 < 1.0 := by decide +kernel
  obtain ⟨hmode, hcursor, helapsed⟩ := hbefore
  have hcovered : Covers s.durations s.cursor time 1 := by
    intro k hk
    obtain rfl : k = 0 := by omega
    refine ⟨1.0, ?_, htimes.1⟩
    rw [hdurations, hcursor]
    rfl
  have hshort : FallsShort s.durations s.cursor time 1 := by
    refine ⟨1.0, ?_, htimes.2⟩
    rw [hdurations, hcursor]
    rfl
  obtain ⟨_, n, hanswer, _, _, hunique⟩ :=
    (advance_plays_what_time_covers .standard).2.1 s 0.5 hreachable hmode
  have hn : 1 = n := hunique 1 hcovered (.inr hshort)
  refine ⟨hreachable, hmode, hcursor, helapsed, ?_, hafter⟩
  rw [hanswer, hn]

end

end Machining.Playback

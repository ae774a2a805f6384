import TextCoordinates.Proofs.LineMap.Halving

/-!
# Searching round by round

A search can also be kept with two plain numbers, the ends of a stretch of the table, and
go on in rounds.  A round ends the search if the stretch is empty, and else it asks the
table for the entry in the middle.  Nothing about numbers makes sure that they are in order
or that the table has the entry, and nothing about rounds makes sure that they come to an
end.  The stretch follows the windows of the search: no entry is refused, every round
halves what is left, and so the rounds end soon, whatever the table holds.
-/

namespace TextCoordinates

structure Stretch where
  low : Int
  high : Int
deriving DecidableEq

namespace Stretch

def middle (stretch : Stretch) : Int :=
  stretch.low + (stretch.high - stretch.low) / 2

inductive Stage where
  | searching (stretch : Stretch)
  | done (location : Location)
deriving DecidableEq

def round (map : LineMap) (position : Int) (stretch : Stretch) : Except Violation Stage :=
  if stretch.high ≤ stretch.low then
    pure (.done map.lastEnd)
  else do
    let line ← map.line stretch.middle
    if position ∈ line.span then
      pure (.done ⟨line, position - line.span.start⟩)
    else if position < line.span.start then
      pure (.searching ⟨stretch.low, stretch.middle⟩)
    else
      pure (.searching ⟨stretch.middle + 1, stretch.high⟩)

/-- The stage after so many rounds.  A search that is done stays as it is. -/
def after (map : LineMap) (position : Int) (stretch : Stretch) : Nat → Except Violation Stage
  | 0 => pure (.searching stretch)
  | rounds + 1 => do
      match ← round map position stretch with
      | .searching rest => after map position rest rounds
      | .done location => pure (.done location)

/-- The place that the next round looks at, when a search has gone so many rounds. -/
def LooksAt (map : LineMap) (position : Int) (stretch : Stretch) (rounds : Nat)
    (place : Int) : Prop :=
  ∃ rest, after map position stretch rounds = .ok (.searching rest) ∧
    rest.low < rest.high ∧ rest.middle = place

def full (map : LineMap) : Stretch :=
  ⟨0, map.count⟩

section

variable {map : LineMap} {position : Int} {stretch : Stretch}

theorem after_succ_of_searching {rest : Stretch}
    (h : round map position stretch = .ok (.searching rest)) (rounds : Nat) :
    after map position stretch (rounds + 1) = after map position rest rounds := by
  rw [after, h]
  rfl

theorem after_succ_of_done {location : Location}
    (h : round map position stretch = .ok (.done location)) (rounds : Nat) :
    after map position stretch (rounds + 1) = .ok (.done location) := by
  rw [after, h]
  rfl

theorem looksAt_succ_of_searching {rest : Stretch}
    (h : round map position stretch = .ok (.searching rest)) (rounds : Nat) (place : Int) :
    LooksAt map position stretch (rounds + 1) place ↔
      LooksAt map position rest rounds place := by
  rw [LooksAt, LooksAt, after_succ_of_searching h]

theorem looksAt_succ_of_done {location : Location}
    (h : round map position stretch = .ok (.done location)) (rounds : Nat) (place : Int) :
    LooksAt map position stretch (rounds + 1) place ↔ False := by
  rw [iff_false]
  rintro ⟨rest, hrest, _hlt, _hplace⟩
  rw [after_succ_of_done h] at hrest
  cases hrest

theorem looksAt_zero {place : Int} :
    LooksAt map position stretch 0 place ↔
      stretch.low < stretch.high ∧ stretch.middle = place := by
  constructor
  · rintro ⟨rest, hrest, hlooks⟩
    cases hrest
    exact hlooks
  · intro hlooks
    exact ⟨stretch, rfl, hlooks⟩

end

/-!
## Following the windows
-/

def ofWindow (window : Window) : Stretch :=
  ⟨window.low, window.high⟩

def Stage.ofProbe (map : LineMap) (position : Int) : Probe → Stage
  | .found line => .done ⟨line, position - line.span.start⟩
  | .missed => .done map.lastEnd
  | .narrowed rest => .searching (ofWindow rest)

section

variable {map : LineMap} {position : Int} {window : Window}

theorem high_sub_low_ofWindow (h : window.low ≤ window.high) :
    (ofWindow window).high - (ofWindow window).low = window.width :=
  (Int.natCast_sub h).symm

theorem middle_ofWindow (h : window.low ≤ window.high) :
    (ofWindow window).middle = window.middle := by
  rw [middle, high_sub_low_ofWindow h]
  rfl

theorem looksAt_zero_ofWindow {place : Nat} :
    LooksAt map position (ofWindow window) 0 place ↔
      window.low < window.high ∧ window.middle = place := by
  have hopen : (ofWindow window).low < (ofWindow window).high ↔ window.low < window.high :=
    Int.ofNat_lt
  rw [looksAt_zero, hopen]
  apply and_congr_right
  intro hlt
  rw [middle_ofWindow (Nat.le_of_lt hlt), Int.natCast_inj]

theorem round_of_high_le (h : window.high ≤ window.low) :
    round map position (ofWindow window) = .ok (.done map.lastEnd) :=
  if_pos (Int.ofNat_le.mpr h)

theorem round_of_entry {line : Line} (hlt : window.low < window.high)
    (hentry : map.toList[window.middle]? = some line) :
    round map position (ofWindow window) =
      .ok (.ofProbe map position (Probe.ofLine position window line)) := by
  have hopen : ¬ (ofWindow window).high ≤ (ofWindow window).low :=
    Int.not_le.mpr (Int.ofNat_lt.mpr hlt)
  rw [round, if_neg hopen, middle_ofWindow (Nat.le_of_lt hlt), LineMap.line_of_getElem? hentry,
    Probe.ofLine]
  show (if position ∈ line.span then _ else _) = _
  split
  · rfl
  · split
    · rfl
    · rfl

/-- A round does what a look at the table does, with a window inside of the table. -/
theorem round_ofWindow (h : window.IsInside map.count) (position : Int) :
    round map position (ofWindow window) =
      .ok (.ofProbe map position (Probe.ofWindow map.lines position window)) := by
  rcases Nat.lt_or_ge window.low window.high with hlt | hle
  · have hmiddle : window.middle < map.toList.length := by
      rw [LineMap.length_toList]
      exact Nat.lt_of_lt_of_le (Window.middle_lt_high hlt) h.high_le
    have hentry := List.getElem?_eq_getElem hmiddle
    rw [round_of_entry hlt hentry, Probe.ofWindow_of_entry hlt hentry]
  · rw [round_of_high_le hle, Probe.ofWindow_of_high_le hle]
    rfl

end

end Stretch

/-!
## Rounds of a course
-/

namespace LineMap

/-- Where a lookup lands with the line that its search has found, or with none. -/
def landing (map : LineMap) (position : Int) : Option Line → Location
  | some line => ⟨line, position - line.span.start⟩
  | none => map.lastEnd

theorem resolve_eq_landing (map : LineMap) (position : Int) :
    map.resolve position = map.landing position (search map.lines position map.fullWindow) := by
  cases hsearch : search map.lines position map.fullWindow with
  | some line =>
      exact resolve_of_search_eq_some hsearch
  | none =>
      exact resolve_of_search_eq_none hsearch

section

open Stretch (ofWindow after round LooksAt)

variable {map : LineMap} {position : Int} {window : Window} {line : Line} {looks : List Nat}
  {outcome : Option Line}

theorem round_of_mem (hlt : window.low < window.high)
    (hentry : map.toList[window.middle]? = some line) (hmem : position ∈ line.span) :
    round map position (ofWindow window) = .ok (.done (map.landing position (some line))) := by
  rw [Stretch.round_of_entry hlt hentry, Probe.ofLine_of_mem hmem]
  rfl

theorem round_of_lt_start (hlt : window.low < window.high)
    (hentry : map.toList[window.middle]? = some line) (hbefore : position < line.span.start) :
    round map position (ofWindow window) = .ok (.searching (ofWindow window.below)) := by
  rw [Stretch.round_of_entry hlt hentry, Probe.ofLine_of_lt_start hbefore]
  rfl

theorem round_of_stop_le (hlt : window.low < window.high)
    (hentry : map.toList[window.middle]? = some line)
    (hafter : (line.span.stop : Int) ≤ position) :
    round map position (ofWindow window) = .ok (.searching (ofWindow window.above)) := by
  rw [Stretch.round_of_entry hlt hentry, Probe.ofLine_of_stop_le hafter]
  rfl

/-- What so many rounds leave of a window: as many halvings of it, inside of the table, where
the search finds what it finds in the whole window. -/
structure IsLeft (map : LineMap) (position : Int) (window : Window) (rounds : Nat)
    (rest : Window) : Prop where
  inside : rest.IsInside map.count
  width_le : rest.width ≤ window.width / 2 ^ rounds
  search_eq : search map.lines position rest = search map.lines position window

theorem IsLeft.refl (h : window.IsInside map.count) : IsLeft map position window 0 window := by
  have hwhole : window.width / 2 ^ 0 = window.width := Nat.div_one window.width
  exact ⟨h, Nat.le_of_eq hwhole.symm, rfl⟩

theorem IsLeft.of_narrowed {next rest : Window} {rounds : Nat}
    (hinside : window.IsInside map.count)
    (hnarrowed : Probe.ofWindow map.lines position window = .narrowed next)
    (h : IsLeft map position next rounds rest) :
    IsLeft map position window (rounds + 1) rest := by
  refine ⟨h.inside, ?_, ?_⟩
  · calc
      rest.width ≤ next.width / 2 ^ rounds := h.width_le
      _ ≤ window.width / 2 / 2 ^ rounds :=
        Nat.div_le_div_right (hinside.of_narrowed hnarrowed).right
      _ = window.width / 2 ^ (rounds + 1) := by
        rw [Nat.div_div_eq_div_mul, ← Nat.pow_succ']
  · rw [search_eq_match map.lines position window, hnarrowed]
    exact h.search_eq

/-- After any number of rounds the search is done, or it goes on in what is left.  The first
round is one look, and the others go on with what it has left. -/
theorem after_cases (h : window.IsInside map.count) (position : Int) (rounds : Nat) :
    (∃ rest, after map position (ofWindow window) rounds = .ok (.searching (ofWindow rest)) ∧
      IsLeft map position window rounds rest) ∨
    after map position (ofWindow window) rounds =
      .ok (.done (map.landing position (search map.lines position window))) := by
  induction rounds generalizing window with
  | zero =>
      exact Or.inl ⟨window, rfl, IsLeft.refl h⟩
  | succ rounds ih =>
      have hround := Stretch.round_ofWindow h position
      have hsearch := search_eq_match map.lines position window
      cases hprobe : Probe.ofWindow map.lines position window with
      | found line =>
          rw [hprobe] at hround hsearch
          rw [hsearch]
          exact Or.inr (Stretch.after_succ_of_done hround rounds)
      | missed =>
          rw [hprobe] at hround hsearch
          rw [hsearch]
          exact Or.inr (Stretch.after_succ_of_done hround rounds)
      | narrowed next =>
          rw [hprobe] at hround hsearch
          rw [hsearch, Stretch.after_succ_of_searching hround]
          rcases ih (h.of_narrowed hprobe).left with ⟨rest, hrest, hleft⟩ | hdone
          · exact Or.inl ⟨rest, hrest, hleft.of_narrowed h hprobe⟩
          · exact Or.inr hdone

theorem exists_window_of_searching (h : window.IsInside map.count) {rounds : Nat}
    {stretch : Stretch}
    (hrounds : after map position (ofWindow window) rounds = .ok (.searching stretch)) :
    ∃ rest, stretch = ofWindow rest ∧ IsLeft map position window rounds rest := by
  rcases after_cases h position rounds with ⟨rest, hrest, hleft⟩ | hdone
  · rw [hrounds] at hrest
    cases hrest
    exact ⟨rest, rfl, hleft⟩
  · rw [hrounds] at hdone
    cases hdone

theorem Course.after_length_succ (h : Course map.toList position window looks outcome) :
    after map position (ofWindow window) (looks.length + 1) =
      .ok (.done (map.landing position outcome)) := by
  induction h with
  | exhausted hempty =>
      exact Stretch.after_succ_of_done (Stretch.round_of_high_le hempty) 0
  | found hlt hentry hmem =>
      exact Stretch.after_succ_of_done (round_of_mem hlt hentry hmem) 1
  | lower hlt hentry hbefore hrest ih =>
      rw [List.length_cons,
        Stretch.after_succ_of_searching (round_of_lt_start hlt hentry hbefore)]
      exact ih
  | upper hlt hentry hafter hrest ih =>
      rw [List.length_cons,
        Stretch.after_succ_of_searching (round_of_stop_le hlt hentry hafter)]
      exact ih

theorem Course.getElem?_zero_iff (h : Course map.toList position window looks outcome)
    (place : Nat) :
    looks[0]? = some place ↔ window.low < window.high ∧ window.middle = place := by
  cases h with
  | exhausted hempty =>
      have hclosed : ¬ window.low < window.high := Nat.not_lt_of_le hempty
      simp [hclosed]
  | found hlt hentry hmem =>
      simp [hlt]
  | lower hlt hentry hbefore hrest =>
      simp [hlt]
  | upper hlt hentry hafter hrest =>
      simp [hlt]

/-- The looks of a course are those that the rounds take, one in each round. -/
theorem Course.getElem?_iff_looksAt (h : Course map.toList position window looks outcome)
    (rounds place : Nat) :
    looks[rounds]? = some place ↔ LooksAt map position (ofWindow window) rounds place := by
  induction rounds generalizing window looks with
  | zero =>
      rw [h.getElem?_zero_iff, Stretch.looksAt_zero_ofWindow]
  | succ rounds ih =>
      cases h with
      | exhausted hempty =>
          rw [Stretch.looksAt_succ_of_done (Stretch.round_of_high_le hempty), iff_false]
          intro hlook
          cases hlook
      | found hlt hentry hmem =>
          rw [Stretch.looksAt_succ_of_done (round_of_mem hlt hentry hmem), iff_false]
          intro hlook
          cases hlook
      | lower hlt hentry hbefore hrest =>
          rw [Stretch.looksAt_succ_of_searching (round_of_lt_start hlt hentry hbefore)]
          exact ih hrest
      | upper hlt hentry hafter hrest =>
          rw [Stretch.looksAt_succ_of_searching (round_of_stop_le hlt hentry hafter)]
          exact ih hrest

end

theorem isInside_fullWindow (map : LineMap) : map.fullWindow.IsInside map.count :=
  ⟨Nat.zero_le map.count, Nat.le_refl map.count⟩

theorem exists_line_of_lt_count {map : LineMap} {place : Nat} (h : place < map.count) :
    ∃ line, map.line place = .ok line := by
  rw [← length_toList] at h
  exact ⟨_, line_of_getElem? (List.getElem?_eq_getElem h)⟩

/-- In any table the stretch of a search stays in order and inside of the table, every round
halves it, and the search is done before it looks at a place twice. -/
theorem rounds_of_any_table (map : LineMap) (position : Int) :
    (∀ rounds,
      (∃ stretch, Stretch.after map position (.full map) rounds = .ok (.searching stretch)) ∨
        Stretch.after map position (.full map) rounds = .ok (.done (map.resolve position))) ∧
    (∀ rounds stretch,
      Stretch.after map position (.full map) rounds = .ok (.searching stretch) →
        0 ≤ stretch.low ∧ stretch.low ≤ stretch.high ∧ stretch.high ≤ map.count ∧
        stretch.high - stretch.low ≤ ((map.count / 2 ^ rounds : Nat) : Int) ∧
        (stretch.low < stretch.high →
          stretch.low ≤ stretch.middle ∧ stretch.middle < stretch.high ∧
            ∃ line, map.line stretch.middle = .ok line) ∧
        ∃ window, stretch = .ofWindow window ∧
          search map.lines position window = search map.lines position map.fullWindow) ∧
    ∃ looks : List Nat,
      Course map.toList position map.fullWindow looks
        (search map.lines position map.fullWindow) ∧
      (∀ rounds place : Nat, looks[rounds]? = some place ↔
        Stretch.LooksAt map position (.full map) rounds place) ∧
      looks.Nodup ∧ looks.length ≤ Nat.log2 map.count + 1 ∧
      Stretch.after map position (.full map) (looks.length + 1) =
        .ok (.done (map.resolve position)) := by
  have hinside := isInside_fullWindow map
  have hwidth : map.fullWindow.width = map.count := Nat.sub_zero map.count
  have hfull : Stretch.full map = Stretch.ofWindow map.fullWindow := rfl
  rcases exists_course_search position hinside.high_le with ⟨looks, hcourse⟩
  rw [hfull, resolve_eq_landing]
  refine ⟨?_, ?_, looks, hcourse, hcourse.getElem?_iff_looksAt, hcourse.nodup, ?_,
    hcourse.after_length_succ⟩
  · intro rounds
    rcases after_cases hinside position rounds with ⟨rest, hrest, _hleft⟩ | hdone
    · exact Or.inl ⟨_, hrest⟩
    · exact Or.inr hdone
  · intro rounds stretch hrounds
    rcases exists_window_of_searching hinside hrounds with ⟨rest, rfl, hleft⟩
    have horder := hleft.inside.low_le_high
    have hhalved := hleft.width_le
    rw [hwidth] at hhalved
    refine ⟨Int.natCast_nonneg rest.low, Int.ofNat_le.mpr horder,
      Int.ofNat_le.mpr hleft.inside.high_le, ?_, ?_, rest, rfl, hleft.search_eq⟩
    · rw [Stretch.high_sub_low_ofWindow horder]
      exact Int.ofNat_le.mpr hhalved
    · intro hopen
      rcases Window.middle_inside (Int.ofNat_lt.mp hopen) with ⟨hlow, hhigh⟩
      rw [Stretch.middle_ofWindow horder]
      exact ⟨Int.ofNat_le.mpr hlow, Int.ofNat_lt.mpr hhigh,
        exists_line_of_lt_count (Nat.lt_of_lt_of_le hhigh hleft.inside.high_le)⟩
  · rw [← hwidth]
    exact hcourse.length_le_log2

/-- The search takes as many looks as a table of this size allows, and the entries that hold
the position are not among them. -/
theorem rounds_of_any_table_out_of_order :
    let map : LineMap := ⟨#[⟨0, .joining 0 2⟩, ⟨1, .joining 8 9⟩, ⟨2, .joining 7 8⟩,
      ⟨3, .joining 5 7⟩, ⟨4, .joining 0 9⟩], by decide⟩
    (∃ line ∈ map.toList, 6 ∈ line.span) ∧
      Stretch.after map 6 (.full map) 2 = .ok (.searching ⟨0, 1⟩) ∧
      (1 : Int) - 0 ≤ ((5 / 2 ^ 2 : Nat) : Int) ∧
      ∃ looks : List Nat, looks[2]? = some 0 ∧ looks.length = Nat.log2 5 + 1 ∧
        Stretch.after map 6 (.full map) (looks.length + 1) =
          .ok (.done ⟨⟨4, .joining 0 9⟩, 9⟩) := by
  intro map
  have hsecond : Stretch.after map 6 (.full map) 2 = .ok (.searching ⟨0, 1⟩) := by
    subst map
    rfl
  rcases rounds_of_any_table map 6 with
    ⟨_, hstretch, looks, _, hlooks, _, hlength, _⟩
  rcases hstretch 2 ⟨0, 1⟩ hsecond with ⟨_, _, _, hhalved, _⟩
  have hthird : looks[2]? = some 0 := (hlooks 2 0).mpr ⟨⟨0, 1⟩, hsecond, by decide, rfl⟩
  have hthree : looks.length = Nat.log2 5 + 1 := by
    rcases List.getElem?_eq_some_iff.mp hthird with ⟨hlt, _⟩
    exact Nat.le_antisymm hlength hlt
  refine ⟨by decide, hsecond, hhalved, looks, hthird, hthree, ?_⟩
  rw [hthree]
  subst map
  rfl

end LineMap
end TextCoordinates

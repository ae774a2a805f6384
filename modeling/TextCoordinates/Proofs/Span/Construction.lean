import TextCoordinates.Proofs.Span.Checked

/-!
# Sequences of constructions

Spans are made one after the other, and a hull is made from spans that are there already.  A
construction that fails leaves nothing behind.  The bounds can also be kept as two integers
that nothing holds in order, by doing on them what each construction says.  Step by step this
gives the bounds of the spans, so no sequence of constructions leads to a negative bound or
to bounds in the wrong order.
-/

namespace TextCoordinates

/-- What to make; a hull names its spans by their places among those made before. -/
inductive Construction where
  | ofBounds (start stop : Int)
  | ofLength (start length : Int)
  | emptyAt (offset : Int)
  | extend (place : Nat) (other : Option Nat)

/-- How the constructions are done on some representation of spans. -/
structure Maker (σ : Type) where
  ofBounds : Int → Int → Except Violation σ
  ofLength : Int → Int → Except Violation σ
  emptyAt : Int → Except Violation σ
  extend : σ → Option σ → Except Violation σ

namespace Maker

variable {σ τ : Type}

def outcome (maker : Maker σ) (made : List σ) : Construction → Option σ
  | .ofBounds start stop => (maker.ofBounds start stop).toOption
  | .ofLength start length => (maker.ofLength start length).toOption
  | .emptyAt offset => (maker.emptyAt offset).toOption
  | .extend place other =>
      made[place]?.bind fun span =>
        (maker.extend span (other.bind fun place => made[place]?)).toOption

def step (maker : Maker σ) (made : List σ) (construction : Construction) : List σ :=
  made ++ (maker.outcome made construction).toList

/-- All that is there after the constructions, in the order in which it was made. -/
def run (maker : Maker σ) (constructions : List Construction) : List σ :=
  constructions.foldl maker.step []

/-!
## One representation following another
-/

structure Follows (f : σ → τ) (maker : Maker σ) (other : Maker τ) : Prop where
  ofBounds_eq : ∀ start stop, other.ofBounds start stop = (maker.ofBounds start stop).map f
  ofLength_eq : ∀ start length, other.ofLength start length = (maker.ofLength start length).map f
  emptyAt_eq : ∀ offset, other.emptyAt offset = (maker.emptyAt offset).map f
  extend_eq : ∀ a b, other.extend (f a) (b.map f) = (maker.extend a b).map f

theorem toOption_map (f : σ → τ) (result : Except Violation σ) :
    (result.map f).toOption = result.toOption.map f := by
  cases result with
  | error violation =>
      rfl
  | ok span =>
      rfl

section

variable {f : σ → τ} {maker : Maker σ} {other : Maker τ}

/-- Both sides look at the same places, so a span is missing on both or on neither. -/
theorem Follows.outcome_eq (h : Follows f maker other) (made : List σ)
    (construction : Construction) :
    other.outcome (made.map f) construction = (maker.outcome made construction).map f := by
  cases construction with
  | ofBounds start stop =>
      rw [outcome, h.ofBounds_eq, toOption_map, outcome]
  | ofLength start length =>
      rw [outcome, h.ofLength_eq, toOption_map, outcome]
  | emptyAt offset =>
      rw [outcome, h.emptyAt_eq, toOption_map, outcome]
  | extend place second =>
      have hsecond : (second.bind fun place => (made.map f)[place]?) =
          (second.bind fun place => made[place]?).map f := by
        simp only [List.getElem?_map, Option.map_bind]
        rfl
      rw [outcome, outcome, List.getElem?_map, hsecond]
      cases made[place]? with
      | none =>
          rfl
      | some span =>
          rw [Option.map_some, Option.bind_some, Option.bind_some, h.extend_eq, toOption_map]

theorem Follows.step_eq (h : Follows f maker other) (made : List σ)
    (construction : Construction) :
    other.step (made.map f) construction = (maker.step made construction).map f := by
  rw [step, step, h.outcome_eq, List.map_append, Option.toList_map]

theorem Follows.run_eq (h : Follows f maker other) (constructions : List Construction) :
    other.run constructions = (maker.run constructions).map f := by
  have hfold : constructions.foldl other.step (([] : List σ).map f) =
      (constructions.foldl maker.step []).map f :=
    List.foldl_hom (List.map f) h.step_eq
  exact hfold

end

end Maker

/-!
## Bounds as plain integers
-/

structure Bounds where
  start : Int
  stop : Int
deriving DecidableEq

namespace Bounds

def length (bounds : Bounds) : Int :=
  bounds.stop - bounds.start

def isEmpty (bounds : Bounds) : Bool :=
  bounds.stop ≤ bounds.start

def Holds (bounds : Bounds) (offset : Int) : Prop :=
  bounds.start ≤ offset ∧ offset < bounds.stop

/-- The checks, the start before the other bound, and then the exchange of bounds in the
wrong order. -/
def store (start stop : Int) : Except Violation Bounds :=
  if start < 0 then .error (.spanBound "start" start)
  else if stop < 0 then .error (.spanBound "end" stop)
  else if stop < start then .ok ⟨stop, start⟩
  else .ok ⟨start, stop⟩

def maker : Maker Bounds where
  ofBounds := store
  ofLength start length :=
    if start < 0 then .error (.spanBound "start" start)
    else if length < 0 then .error (.spanLength length)
    else store start (start + length)
  emptyAt offset :=
    if offset < 0 then .error (.spanBound "at" offset)
    else store offset offset
  extend a
    | none => .ok a
    | some b => store (min a.start b.start) (max a.stop b.stop)

theorem isEmpty_iff (bounds : Bounds) :
    bounds.isEmpty = true ↔ ∀ offset, ¬ bounds.Holds offset := by
  rw [isEmpty, decide_eq_true_iff]
  constructor
  · intro hle offset hholds
    exact Int.not_lt.mpr hle (Int.lt_of_le_of_lt hholds.left hholds.right)
  · intro hnone
    exact Int.not_lt.mp fun hlt => hnone bounds.start ⟨Int.le_refl _, hlt⟩

end Bounds

namespace Span

def bounds (span : Span) : Bounds :=
  ⟨span.start, span.stop⟩

def maker : Maker Span where
  ofBounds := ofBounds
  ofLength := ofLength
  emptyAt := emptyAt
  extend a other := .ok (a.extend other)

theorem store_eq_map_bounds (start stop : Int) :
    Bounds.store start stop = (ofBounds start stop).map bounds := by
  unfold Bounds.store
  by_cases hstart : start < 0
  · rw [if_pos hstart, ofBounds, if_pos hstart]
    rfl
  · by_cases hstop : stop < 0
    · rw [if_neg hstart, if_pos hstop, ofBounds, if_neg hstart, if_pos hstop]
      rfl
    · obtain ⟨start, rfl⟩ := Int.eq_ofNat_of_zero_le (Int.not_lt.mp hstart)
      obtain ⟨stop, rfl⟩ := Int.eq_ofNat_of_zero_le (Int.not_lt.mp hstop)
      rw [if_neg hstart, if_neg hstop, ofBounds_natCast]
      show _ = Except.ok (Bounds.mk (min start stop : Nat) (max start stop : Nat))
      split
      · rw [Nat.min_eq_right (by lia), Nat.max_eq_left (by lia)]
      · rw [Nat.min_eq_left (by lia), Nat.max_eq_right (by lia)]

/-- Written with bounds, the constructions of spans check what the plain ones check. -/
theorem follows_bounds : Maker.Follows bounds maker Bounds.maker where
  ofBounds_eq := store_eq_map_bounds
  ofLength_eq start length := by
    show _ = (ofLength start length).map bounds
    rw [← ofLengthByBounds_eq_ofLength, ofLengthByBounds, apply_ite (Except.map bounds),
      apply_ite (Except.map bounds), ← store_eq_map_bounds]
    rfl
  emptyAt_eq offset := by
    show _ = (emptyAt offset).map bounds
    rw [← emptyAtByBounds_eq_emptyAt, emptyAtByBounds, apply_ite (Except.map bounds),
      ← store_eq_map_bounds]
    rfl
  extend_eq a other := by
    show _ = (Except.ok (a.extend other)).map bounds
    rw [← extendByBounds_eq_ok]
    cases other with
    | none =>
        rfl
    | some b =>
        exact store_eq_map_bounds _ _

theorem isEmpty_bounds (span : Span) : span.bounds.isEmpty = span.isEmpty := by
  rw [Bounds.isEmpty, isEmpty, length, bounds, decide_eq_decide]
  lia

theorem isEmpty_iff_forall_notMem (span : Span) :
    span.isEmpty = true ↔ ∀ offset : Int, offset ∉ span := by
  rw [← isEmpty_bounds]
  exact span.bounds.isEmpty_iff

/-!
## Constructions compared

The bounds may come in either order, and a start with a length is as good as two bounds.
-/

theorem ofBounds_comm_of_eq_ok {start stop : Int} {span : Span}
    (h : ofBounds start stop = .ok span) : ofBounds stop start = .ok span := by
  unfold ofBounds at h
  split at h
  · cases h
  · rename_i hstart
    split at h
    · cases h
    · rename_i hstop
      rw [ofBounds, if_neg hstop, if_neg hstart, ← h]
      exact congrArg Except.ok (eq_of_bounds (Nat.min_comm _ _) (Nat.max_comm _ _))

theorem eq_iff_start_length {a b : Span} :
    a = b ↔ a.start = b.start ∧ a.length = b.length := by
  constructor
  · rintro rfl
    exact ⟨rfl, rfl⟩
  · rintro ⟨hstart, hlength⟩
    apply eq_of_bounds hstart
    rw [← a.start_add_length, ← b.start_add_length, hstart, hlength]

theorem ofLength_natCast (start length : Nat) :
    ofLength start length = .ok ⟨start, start + length, Nat.le_add_right start length⟩ := by
  rw [ofLength, if_neg (Int.not_lt.mpr (Int.natCast_nonneg start)),
    if_neg (Int.not_lt.mpr (Int.natCast_nonneg length))]
  rfl

theorem ofLength_start_length (span : Span) : ofLength span.start span.length = .ok span := by
  rw [ofLength_natCast]
  exact congrArg Except.ok (eq_of_bounds rfl span.start_add_length)

theorem ofLength_eq_error_iff {start length : Int} {violation : Violation} :
    ofLength start length = .error violation ↔
      (start < 0 ∧ violation = .spanBound "start" start) ∨
        (0 ≤ start ∧ length < 0 ∧ violation = .spanLength length) := by
  unfold ofLength
  split
  · rename_i hstart
    simp only [Except.error.injEq, hstart, Int.not_le.mpr hstart, true_and, false_and, or_false]
    exact eq_comm
  · rename_i hstart
    split
    · rename_i hlength
      simp only [Except.error.injEq, hstart, Int.not_lt.mp hstart, hlength, true_and, false_and,
        false_or]
      exact eq_comm
    · rename_i hlength
      simp only [reduceCtorEq, hstart, hlength, false_and, and_false, or_false]

theorem ofLength_fails_iff {start length : Int} :
    (∃ violation, ofLength start length = .error violation) ↔ start < 0 ∨ length < 0 := by
  simp only [ofLength_eq_error_iff]
  constructor
  · rintro ⟨violation, ⟨hstart, _⟩ | ⟨_, hlength, _⟩⟩
    · exact Or.inl hstart
    · exact Or.inr hlength
  · intro hneg
    by_cases hstart : start < 0
    · exact ⟨_, Or.inl ⟨hstart, rfl⟩⟩
    · exact ⟨_, Or.inr ⟨Int.not_lt.mp hstart, hneg.resolve_left hstart, rfl⟩⟩

theorem start_length_of_ofLength {start length : Int} {span : Span}
    (h : ofLength start length = .ok span) :
    (span.start : Int) = start ∧ (span.length : Int) = length := by
  have haccepted : ¬ (start < 0 ∨ length < 0) := by
    intro hneg
    rcases ofLength_fails_iff.mpr hneg with ⟨violation, hviolation⟩
    rw [hviolation] at h
    cases h
  rw [not_or] at haccepted
  obtain ⟨start, rfl⟩ := Int.eq_ofNat_of_zero_le (Int.not_lt.mp haccepted.left)
  obtain ⟨length, rfl⟩ := Int.eq_ofNat_of_zero_le (Int.not_lt.mp haccepted.right)
  rw [ofLength_natCast] at h
  cases h
  exact ⟨rfl, congrArg Int.ofNat (Nat.add_sub_cancel_left start length)⟩

/-!
## All sequences

The spans carry the order of their bounds, so the plain bounds that follow them need no
invariant of their own.
-/

theorem bounds_of_run {constructions : List Construction} {made : Bounds}
    (h : made ∈ Bounds.maker.run constructions) : 0 ≤ made.start ∧ made.start ≤ made.stop := by
  rw [follows_bounds.run_eq, List.mem_map] at h
  rcases h with ⟨span, _hspan, rfl⟩
  exact ⟨Int.natCast_nonneg span.start, Int.ofNat_le.mpr span.start_le_stop⟩

/-- Every span can be made. -/
theorem mem_run_ofBounds (span : Span) : span ∈ maker.run [.ofBounds span.start span.stop] := by
  show span ∈ [] ++ (ofBounds span.start span.stop).toOption.toList
  rw [ofBounds_bounds]
  exact List.mem_singleton_self span

/-- Whatever is made has bounds in order, and the constructions agree with each other. -/
theorem constructions_keep_bounds_in_order :
    (∀ constructions : List Construction,
      Bounds.maker.run constructions = (maker.run constructions).map bounds ∧
      ∀ made ∈ Bounds.maker.run constructions,
        0 ≤ made.start ∧ made.start ≤ made.stop ∧ 0 ≤ made.length ∧
          (made.isEmpty = true ↔ ∀ offset, ¬ made.Holds offset)) ∧
    (∀ span : Span, (∃ constructions, span ∈ maker.run constructions) ∧
      (span.isEmpty = true ↔ ∀ offset : Int, offset ∉ span) ∧
      ofLength span.start span.length = .ok span) ∧
    (∀ a b : Span, a = b ↔ a.start = b.start ∧ a.length = b.length) ∧
    (∀ (start stop : Int) (span : Span), ofBounds start stop = .ok span →
      ofBounds stop start = .ok span) ∧
    (∀ (start length : Int) (span : Span), ofLength start length = .ok span →
      (span.start : Int) = start ∧ (span.length : Int) = length) ∧
    (∀ start length : Int, ofLengthByBounds start length = ofLength start length ∧
      ((∃ violation, ofLength start length = .error violation) ↔ start < 0 ∨ length < 0) ∧
      ∀ violation, ofLength start length = .error violation →
        violation = .spanBound "start" start ∨ violation = .spanLength length) := by
  refine ⟨?_, ?_, fun a b => eq_iff_start_length, fun start stop span => ofBounds_comm_of_eq_ok,
    fun start length span => start_length_of_ofLength, ?_⟩
  · intro constructions
    refine ⟨follows_bounds.run_eq constructions, ?_⟩
    intro made hmade
    rcases bounds_of_run hmade with ⟨hstart, hstop⟩
    exact ⟨hstart, hstop, Int.sub_nonneg_of_le hstop, made.isEmpty_iff⟩
  · intro span
    exact ⟨⟨_, span.mem_run_ofBounds⟩, span.isEmpty_iff_forall_notMem, span.ofLength_start_length⟩
  · intro start length
    refine ⟨ofLengthByBounds_eq_ofLength start length, ofLength_fails_iff, ?_⟩
    intro violation herror
    rcases ofLength_eq_error_iff.mp herror with ⟨_, hviolation⟩ | ⟨_, _, hviolation⟩
    · exact Or.inl hviolation
    · exact Or.inr hviolation

theorem constructions_keep_bounds_in_order_reversed :
    let constructions : List Construction :=
      [.ofBounds 5 2, .ofLength 3 (-1), .emptyAt 9, .extend 1 (some 0), .extend 7 none]
    Bounds.mk 2 9 ∈ Bounds.maker.run constructions ∧
      Bounds.maker.run constructions = (maker.run constructions).map bounds ∧
      ((Bounds.mk 2 9).isEmpty = true ↔ ∀ offset, ¬ (Bounds.mk 2 9).Holds offset) ∧
      ofBounds 5 2 = .ok (joining 5 2) ∧ ofBounds 2 5 = .ok (joining 5 2) ∧
      ofLength 3 0 = .ok (point 3) ∧ ((point 3).length : Int) = 0 ∧
      ofLength 3 (-1) = .error (.spanLength (-1)) ∧
      (Violation.spanLength (-1) = .spanBound "start" 3 ∨
        Violation.spanLength (-1) = .spanLength (-1)) := by
  intro constructions
  rcases constructions_keep_bounds_in_order with ⟨hruns, _, _, hswap, hlength, herrors⟩
  rcases hruns constructions with ⟨hrun, hmade⟩
  have hmem : Bounds.mk 2 9 ∈ Bounds.maker.run constructions :=
    List.mem_of_getElem? (rfl : (Bounds.maker.run constructions)[2]? = some ⟨2, 9⟩)
  have herror : ofLength 3 (-1) = .error (.spanLength (-1)) := rfl
  rcases hmade _ hmem with ⟨_, _, _, hempty⟩
  exact ⟨hmem, hrun, hempty, rfl, hswap 5 2 _ rfl, rfl, (hlength 3 0 _ rfl).right, herror,
    (herrors 3 (-1)).right.right _ herror⟩

end Span
end TextCoordinates

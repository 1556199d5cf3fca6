import Mathlib.Data.List.Pairwise
import Mathlib.Data.List.Sort
import QueryLint.Proofs.Separators
import QueryLint.Proofs.WordList

/-!
The maximal runs of positions that share a property: spans with something between any two, which
cover just these positions. There is one list of them, and it is the one that is read off the
flags of the positions.
-/

namespace QueryLint

/-- The spans are the maximal runs of positions that have a property, in their order. -/
structure MaximalRuns (holds : Nat → Prop) (runs : List Span) : Prop where
  ascending : runs.Pairwise (·.stop < ·.start)
  nonempty : ∀ run ∈ runs, run.start < run.stop
  covers_iff : ∀ position, (∃ run ∈ runs, run.Covers position) ↔ holds position

namespace MaximalRuns

variable {holds : Nat → Prop} {runs runs' : List Span} {run other : Span}

theorem apart (h : MaximalRuns holds runs) (hrun : run ∈ runs) (hother : other ∈ runs) :
    run = other ∨ run.stop < other.start ∨ other.stop < run.start := by
  by_cases heq : run = other
  · exact .inl heq
  · have hpairwise : runs.Pairwise fun a b => a.stop < b.start ∨ b.stop < a.start :=
      h.ascending.imp .inl
    have hsymm : Std.Symm fun a b : Span => a.stop < b.start ∨ b.stop < a.start :=
      ⟨fun _ _ hab => hab.symm⟩
    exact .inr (hpairwise.forall hrun hother heq)

theorem eq_of_covers (h : MaximalRuns holds runs) {position : Nat} (hrun : run ∈ runs)
    (hother : other ∈ runs) (hcovers : run.Covers position) (hcovers' : other.Covers position) :
    other = run := by
  simp only [Span.Covers] at hcovers hcovers'
  rcases h.apart hrun hother with rfl | hafter | hbefore
  · rfl
  · omega
  · omega

/-- No run can be made longer: what stands at its end and before its start does not have the
property. -/
theorem mem_iff (h : MaximalRuns holds runs) :
    run ∈ runs ↔ run.start < run.stop ∧ (∀ position, run.Covers position → holds position) ∧
      ¬holds run.stop ∧ ∀ position, position + 1 = run.start → ¬holds position := by
  have hends : ∀ found ∈ runs, ¬holds found.stop := by
    intro found hfound hstop
    obtain ⟨other, hother, hcovers⟩ := (h.covers_iff _).mpr hstop
    have hnonempty := h.nonempty found hfound
    simp only [Span.Covers] at hcovers
    rcases h.apart hfound hother with rfl | hafter | hbefore <;> omega
  constructor
  · intro hrun
    refine ⟨h.nonempty run hrun, fun position hcovers => ?_, hends run hrun, ?_⟩
    · exact (h.covers_iff position).mp ⟨run, hrun, hcovers⟩
    · intro position hposition hholds
      obtain ⟨other, hother, hcovers⟩ := (h.covers_iff _).mpr hholds
      have hnonempty := h.nonempty run hrun
      simp only [Span.Covers] at hcovers
      rcases h.apart hrun hother with rfl | hafter | hbefore <;> omega
  · rintro ⟨hnonempty, hinside, hstop, hstart⟩
    obtain ⟨found, hfound, hcovers⟩ :=
      (h.covers_iff run.start).mpr (hinside run.start ⟨le_rfl, hnonempty⟩)
    simp only [Span.Covers] at hcovers
    have hlater : run.start ≤ found.start := by
      by_contra hlt
      refine hstart (run.start - 1) (by omega) ((h.covers_iff _).mp ⟨found, hfound, ?_⟩)
      simp only [Span.Covers]
      omega
    have hlonger : found.stop ≤ run.stop := by
      by_contra hlt
      refine hstop ((h.covers_iff _).mp ⟨found, hfound, ?_⟩)
      simp only [Span.Covers]
      omega
    have hshorter : run.stop ≤ found.stop := by
      by_contra hlt
      refine hends found hfound (hinside found.stop ?_)
      simp only [Span.Covers]
      omega
    have hsame : found = run := by
      cases found
      cases run
      simp only [Span.mk.injEq]
      simp only at hcovers hlater hlonger hshorter
      omega
    exact hsame ▸ hfound

theorem congr {holds' : Nat → Prop} (h : MaximalRuns holds runs)
    (hiff : ∀ position, holds' position ↔ holds position) : MaximalRuns holds' runs :=
  ⟨h.ascending, h.nonempty, fun position => (h.covers_iff position).trans (hiff position).symm⟩

theorem concat {holds' : Nat → Prop} {next : Span} (h : MaximalRuns holds runs)
    (hapart : ∀ run ∈ runs, run.stop < next.start) (hnext : next.start < next.stop)
    (hiff : ∀ position, holds' position ↔ holds position ∨ next.Covers position) :
    MaximalRuns holds' (runs ++ [next]) where
  ascending :=
    List.pairwise_append.mpr ⟨h.ascending, List.pairwise_singleton _ _, by simpa using hapart⟩
  nonempty := List.forall_mem_append.mpr ⟨h.nonempty, by simpa using hnext⟩
  covers_iff position := by
    rw [hiff, ← h.covers_iff]
    simp [or_and_right, exists_or]

theorem extend {holds' : Nat → Prop} {last : Span} {stop : Nat}
    (h : MaximalRuns holds (runs ++ [last])) (hstop : last.stop ≤ stop)
    (hiff : ∀ position, holds' position ↔ holds position ∨ Span.Covers ⟨last.stop, stop⟩ position) :
    MaximalRuns holds' (runs ++ [⟨last.start, stop⟩]) := by
  obtain ⟨hascending, -, hlast⟩ := List.pairwise_append.mp h.ascending
  obtain ⟨hruns, hnonempty⟩ := List.forall_mem_append.mp h.nonempty
  have hlonger : last.start < stop := by
    have := hnonempty last List.mem_cons_self
    omega
  refine ⟨List.pairwise_append.mpr ⟨hascending, List.pairwise_singleton _ _, by simpa using hlast⟩,
    List.forall_mem_append.mpr ⟨hruns, by simpa using hlonger⟩, fun position => ?_⟩
  have hcovers : Span.Covers ⟨last.start, stop⟩ position ↔
      last.Covers position ∨ Span.Covers ⟨last.stop, stop⟩ position := by
    have := hnonempty last List.mem_cons_self
    simp only [Span.Covers]
    omega
  rw [hiff, ← h.covers_iff]
  simp [or_and_right, exists_or, hcovers, or_assoc]

theorem pairwise_start (h : MaximalRuns holds runs) : runs.Pairwise (·.start < ·.start) :=
  h.ascending.imp_of_mem fun hrun _ hlt => Nat.lt_trans (h.nonempty _ hrun) hlt

theorem unique (h : MaximalRuns holds runs) (h' : MaximalRuns holds runs') : runs = runs' := by
  have hirrefl : Std.Irrefl fun a b : Span => a.start < b.start := ⟨fun _ => Nat.lt_irrefl _⟩
  have hantisymm : Std.Antisymm fun a b : Span => a.start < b.start :=
    ⟨fun _ _ hab hba => absurd hab (Nat.lt_asymm hba)⟩
  exact h.pairwise_start.eq_of_mem_iff h'.pairwise_start fun run => h.mem_iff.trans h'.mem_iff.symm

end MaximalRuns

/-- A flag that is `true` belongs to the run of the flags after it, or is a run by itself. -/
theorem Text.exists_covers_runsFrom_true (offset position : Nat) (flags : List Bool) :
    (∃ run ∈ runsFrom offset (true :: flags), run.Covers position) ↔
      position = offset ∨ ∃ run ∈ runsFrom (offset + 1) flags, run.Covers position := by
  have hsingle : Span.Covers ⟨offset, offset + 1⟩ position ↔ position = offset := by
    simp only [Span.Covers]
    omega
  simp only [runsFrom]
  cases hruns : runsFrom (offset + 1) flags with
  | nil => simp [hsingle]
  | cons run runs =>
    by_cases hadjacent : run.start = offset + 1
    · have hbounds := (runsFrom_spec (offset + 1) flags).2 run (by simp [hruns])
      have hlonger : Span.Covers ⟨offset, run.stop⟩ position ↔
          position = offset ∨ run.Covers position := by
        simp only [Span.Covers]
        omega
      simp [hadjacent, hlonger, or_assoc]
    · simp [hadjacent, hsingle]

theorem Text.exists_covers_runsFrom_iff (offset position : Nat) (flags : List Bool) :
    (∃ run ∈ runsFrom offset flags, run.Covers position) ↔
      ∃ i, flags[i]? = some true ∧ position = offset + i := by
  induction flags generalizing offset with
  | nil => simp [runsFrom]
  | cons flag flags ih =>
    have hlater : (∃ i, flags[i]? = some true ∧ position = offset + 1 + i) ↔
        ∃ i, flags[i]? = some true ∧ position = offset + (i + 1) := by
      refine exists_congr fun i => and_congr_right fun _ => ?_
      omega
    cases flag with
    | false =>
      rw [runsFrom, ih, hlater]
      constructor
      · rintro ⟨i, hi, hposition⟩
        exact ⟨i + 1, hi, hposition⟩
      · rintro ⟨_ | i, hi, hposition⟩
        · simp at hi
        · exact ⟨i, hi, hposition⟩
    | true =>
      rw [exists_covers_runsFrom_true, ih, hlater]
      constructor
      · rintro (hposition | ⟨i, hi, hposition⟩)
        · exact ⟨0, rfl, hposition⟩
        · exact ⟨i + 1, hi, hposition⟩
      · rintro ⟨_ | i, hi, hposition⟩
        · exact .inl hposition
        · exact .inr ⟨i, hi, hposition⟩

theorem maximalRuns_runsFrom (flags : List Bool) :
    MaximalRuns (fun position => flags[position]? = some true) (Text.runsFrom 0 flags) where
  ascending := (Text.runsFrom_spec 0 flags).1
  nonempty run hrun := ((Text.runsFrom_spec 0 flags).2 run hrun).2.1
  covers_iff position := by
    rw [Text.exists_covers_runsFrom_iff]
    simp

end QueryLint

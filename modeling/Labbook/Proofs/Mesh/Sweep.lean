import Labbook.Proofs.Mesh.Classification

namespace Labbook

theorem prefix_flatMap {α β : Type} {line : α → List β} {outer : List α} {items : List β}
    (begun : items <+: outer.flatMap line) (filled : items ≠ []) :
    ∃ done v part, done ++ [v] <+: outer ∧ part <+: line v ∧ part ≠ [] ∧
      items = done.flatMap line ++ part := by
  induction outer generalizing items with
  | nil => exact absurd (List.prefix_nil.mp begun) filled
  | cons v outer ih =>
    rw [List.flatMap_cons] at begun
    have first : line v <+: line v ++ outer.flatMap line := List.prefix_append _ _
    by_cases short : items.length ≤ (line v).length
    · have within := List.prefix_of_prefix_length_le begun first short
      exact ⟨[], v, items, ⟨outer, rfl⟩, within, filled, rfl⟩
    · obtain ⟨later, rfl⟩ :=
        List.prefix_of_prefix_length_le first begun (Nat.le_of_not_le short)
      have more : later ≠ [] := by
        rintro rfl
        exact short (by rw [List.append_nil])
      obtain ⟨done, w, part, reached, inside, nonempty, rfl⟩ :=
        ih ((List.prefix_append_right_inj _).mp begun) more
      refine ⟨v :: done, w, part, List.cons_prefix_cons.mpr ⟨rfl, reached⟩, inside, nonempty, ?_⟩
      rw [List.flatMap_cons, List.append_assoc]

namespace Setpoint

-- Each value as often as it is counted, one run behind the other.
def runs (count : Binary64 → Nat) (outer : List Binary64) : List Binary64 :=
  outer.flatMap fun v => List.replicate (count v) v

section Runs
variable {count : Binary64 → Nat} {outer : List Binary64}

theorem runs_cons (v : Binary64) :
    runs count (v :: outer) = List.replicate (count v) v ++ runs count outer := rfl

theorem mem_runs (positive : ∀ v ∈ outer, 0 < count v) {v : Binary64} :
    v ∈ runs count outer ↔ v ∈ outer := by
  unfold runs
  simp only [List.mem_flatMap, List.mem_replicate]
  constructor
  · rintro ⟨u, member, -, rfl⟩
    exact member
  · intro member
    exact ⟨v, member, Nat.ne_of_gt (positive v member), rfl⟩

theorem dropRepeatsAfter_replicate {last : Binary64} (measured : last.isNaN = false) (n : Nat)
    (rest : List Binary64) : dropRepeatsAfter Binary64.equals last (List.replicate n last ++ rest) =
      dropRepeatsAfter Binary64.equals last rest := by
  induction n with
  | zero => rfl
  | succ n ih =>
    rw [List.replicate_succ, List.cons_append, dropRepeatsAfter,
      if_pos (Binary64.equals_refl measured)]
    exact ih

theorem dropRepeatsAfter_runs {last : Binary64} (plain : Plain (last :: outer))
    (once : (last :: outer).Nodup) (positive : ∀ v ∈ outer, 0 < count v) :
    dropRepeatsAfter Binary64.equals last (runs count outer) = outer := by
  induction outer generalizing last with
  | nil => rfl
  | cons v rest ih =>
    obtain ⟨fresh, tail⟩ := List.nodup_cons.mp once
    have differ : ¬last.equals v = true := fun same =>
      fresh ((plain last (by simp) v (by simp)).mp same ▸ List.mem_cons_self)
    have later : Plain (v :: rest) := plain.subset (List.subset_cons_self _ _)
    obtain ⟨more, length⟩ := Nat.exists_eq_succ_of_ne_zero (Nat.ne_of_gt (positive v (by simp)))
    rw [runs_cons, length, List.replicate_succ, List.cons_append, dropRepeatsAfter, if_neg differ,
      dropRepeatsAfter_replicate (later.measured v (by simp)),
      ih later tail fun u member => positive u (List.mem_cons_of_mem _ member)]

theorem dropRepeats_runs (plain : Plain outer) (once : outer.Nodup)
    (positive : ∀ v ∈ outer, 0 < count v) :
    dropRepeats Binary64.equals (runs count outer) = outer := by
  cases outer with
  | nil => rfl
  | cons v rest =>
    obtain ⟨more, length⟩ := Nat.exists_eq_succ_of_ne_zero (Nat.ne_of_gt (positive v (by simp)))
    rw [runs_cons, length, List.replicate_succ, List.cons_append, dropRepeats,
      dropRepeatsAfter_replicate (plain.measured v (by simp)),
      dropRepeatsAfter_runs plain once fun u member => positive u (List.mem_cons_of_mem _ member)]

theorem count_runs (once : outer.Nodup) {v : Binary64} (member : v ∈ outer) :
    (runs count outer).count v = count v := by
  induction outer with
  | nil => cases member
  | cons u rest ih =>
    obtain ⟨fresh, tail⟩ := List.nodup_cons.mp once
    rw [runs_cons, List.count_append, List.count_replicate]
    rcases List.mem_cons.mp member with rfl | later
    · have gone : (runs count rest).count v = 0 := List.count_eq_zero.mpr fun again => by
        obtain ⟨w, listed, here⟩ := List.mem_flatMap.mp again
        exact fresh ((List.mem_replicate.mp here).2 ▸ listed)
      rw [gone, if_pos (beq_self_eq_true v), Nat.add_zero]
    · have differ : (u == v) = false := beq_eq_false_iff_ne.mpr fun same => fresh (same ▸ later)
      rw [differ, ih tail later]
      exact Nat.zero_add _

-- Runs of one length, and one more that is not longer.
theorem interrupted_runs {done : List Binary64} {last : Binary64} {inner : Nat}
    (plain : Plain (done ++ [last])) (once : (done ++ [last]).Nodup)
    (full : ∀ v ∈ done, count v = inner) (begun : 0 < count last) (bounded : count last ≤ inner) :
    Interrupted (runs count (done ++ [last])) inner last := by
  have positive : ∀ v ∈ done ++ [last], 0 < count v := by
    intro v member
    rcases List.mem_append.mp member with before | here
    · exact full v before ▸ Nat.lt_of_lt_of_le begun bounded
    · exact List.mem_singleton.mp here ▸ begun
  have column : Plain (runs count (done ++ [last])) := plain.subset fun v => (mem_runs positive).mp
  have heads := dropRepeats_runs plain once positive
  refine ⟨?_, heads.symm ▸ once, ?_, ?_⟩
  · rw [← getLast?_dropRepeats column, heads, List.getLast?_concat]
  · intro v member differ
    have listed := (mem_runs positive).mp member
    have before : v ∈ done := (List.mem_append.mp listed).resolve_right fun here =>
      differ (List.mem_singleton.mp here)
    exact (count_runs once listed).trans (full v before)
  · exact (count_runs once (by simp)).trans_le bounded

end Runs

end Setpoint

namespace PlotType

theorem product_of_equidistant {x y : List Binary64} (plainX : Setpoint.Plain x)
    (plainY : Setpoint.Plain y) (lengths : x.length = y.length)
    (even : of2D x y = .equidistant2D) :
    (Setpoint.uniqueSorted x).length * (Setpoint.uniqueSorted y).length = (x.zip y).length := by
  have firsts : (x.zip y).map (·.1) = x := List.map_fst_zip (Nat.le_of_eq lengths)
  have seconds : (x.zip y).map (·.2) = y := List.map_snd_zip (Nat.le_of_eq lengths.symm)
  unfold of2D at even
  rw [measuredPairs_plain plainX plainY] at even
  dsimp only at even
  rw [firsts, seconds] at even
  split at even
  · cases even
  split at even
  · cases even
  split at even
  · cases even
  split at even
  · rename_i product
    exact eq_of_beq product
  · split at even <;> cases even

end PlotType

-- A sweep over two lists of setpoints that differ as numbers. Along the line of each outer setpoint all
-- inner ones are taken, in an order that may be another one on every line.
structure Sweep where
  outer : List Binary64
  inner : List Binary64
  line : Binary64 → List Binary64
  measured : ∀ v ∈ outer ++ inner, v.isNaN = false
  outerDistinct : outer.Pairwise fun a b => a.equals b = false
  innerDistinct : inner.Pairwise fun a b => a.equals b = false
  full : ∀ v ∈ outer, (line v).Perm inner

namespace Setpoint

theorem plain_of_distinct {values : List Binary64} (measured : ∀ v ∈ values, v.isNaN = false)
    (distinct : values.Pairwise fun a b => a.equals b = false) : Plain values := by
  have apart : values.Pairwise fun a b => a.equals b = true → a = b :=
    distinct.imp fun differ same => by rw [differ] at same; cases same
  have : Std.Symm fun a b : Binary64 => a.equals b = true → a = b :=
    ⟨fun a b given same => (given (Binary64.equals_symm same)).symm⟩
  intro a memberA b memberB
  constructor
  · exact apart.forall_of_forall (fun _ _ _ => rfl) memberA memberB
  · rintro rfl
    exact Binary64.equals_refl (measured a memberA)

theorem nodup_of_distinct {values : List Binary64} (measured : ∀ v ∈ values, v.isNaN = false)
    (distinct : values.Pairwise fun a b => a.equals b = false) : values.Nodup :=
  distinct.imp_of_mem fun {a b} memberA _ differ same => by
    rw [← same, Binary64.equals_refl (measured a memberA)] at differ
    cases differ

end Setpoint

namespace Sweep
variable {s : Sweep} {taken : List (Binary64 × Binary64)}

-- The samples of the lines of some outer setpoints: the outer setpoint first, the inner one behind it.
def samplesOf (s : Sweep) (outer : List Binary64) : List (Binary64 × Binary64) :=
  outer.flatMap fun v => (s.line v).map (v, ·)

def samples (s : Sweep) : List (Binary64 × Binary64) := s.samplesOf s.outer

-- Every outer setpoint that was reached was measured with every inner one.
def Completes (s : Sweep) (taken : List (Binary64 × Binary64)) : Prop :=
  ∀ p ∈ taken, ∀ w ∈ s.inner, (p.1, w) ∈ taken

theorem outer_plain (s : Sweep) : Setpoint.Plain s.outer :=
  Setpoint.plain_of_distinct (fun v member => s.measured v (List.mem_append_left _ member))
    s.outerDistinct

theorem inner_plain (s : Sweep) : Setpoint.Plain s.inner :=
  Setpoint.plain_of_distinct (fun v member => s.measured v (List.mem_append_right _ member))
    s.innerDistinct

theorem outer_nodup (s : Sweep) : s.outer.Nodup :=
  Setpoint.nodup_of_distinct (fun v member => s.measured v (List.mem_append_left _ member))
    s.outerDistinct

theorem inner_nodup (s : Sweep) : s.inner.Nodup :=
  Setpoint.nodup_of_distinct (fun v member => s.measured v (List.mem_append_right _ member))
    s.innerDistinct

theorem mem_samples {p : Binary64 × Binary64} (member : p ∈ s.samples) :
    p.1 ∈ s.outer ∧ p.2 ∈ s.inner := by
  obtain ⟨v, listed, onLine⟩ := List.mem_flatMap.mp member
  obtain ⟨w, taken, rfl⟩ := List.mem_map.mp onLine
  exact ⟨listed, (s.full v listed).subset taken⟩

theorem samples_nodup (s : Sweep) : s.samples.Nodup := by
  refine List.nodup_flatMap.mpr ⟨?_, s.outer_nodup.imp ?_⟩
  · intro v listed
    have line := (s.full v listed).nodup_iff.mpr s.inner_nodup
    exact line.map fun a b same => (Prod.mk.inj same).2
  · intro v u differ p onFirst onSecond
    obtain ⟨_, _, rfl⟩ := List.mem_map.mp onFirst
    obtain ⟨_, _, same⟩ := List.mem_map.mp onSecond
    exact differ (congrArg Prod.fst same).symm

-- Where a sweep was stopped beyond its first line: behind whole lines, at least one, and the start of
-- another.
structure Stopped (s : Sweep) (taken : List (Binary64 × Binary64)) (done : List Binary64)
    (last : Binary64) (start : List Binary64) : Prop where
  reached : done ++ [last] <+: s.outer
  beyond : done ≠ []
  begun : start ≠ []
  within : start <+: s.line last
  lines : taken = s.samplesOf done ++ start.map (last, ·)

theorem exists_stopped (begun : taken <+: s.samples) (long : s.inner.length < taken.length) :
    ∃ done last start, s.Stopped taken done last start := by
  have filled : taken ≠ [] := List.ne_nil_of_length_pos (Nat.zero_lt_of_lt long)
  obtain ⟨done, last, part, reached, inside, nonempty, lines⟩ := prefix_flatMap begun filled
  obtain ⟨start, within, rfl⟩ := List.prefix_map_iff.mp inside
  have listed : last ∈ s.outer := reached.subset (by simp)
  refine ⟨done, last, start, reached, ?_, ?_, within, lines⟩
  · rintro rfl
    have short := within.length_le
    rw [(s.full last listed).length_eq] at short
    rw [lines, List.flatMap_nil, List.nil_append, List.length_map] at long
    exact Nat.not_lt_of_le short long
  · rintro rfl
    exact nonempty rfl

section Stopped
variable {done start : List Binary64} {last : Binary64}

def lineLength (s : Sweep) (last : Binary64) (start : List Binary64) (v : Binary64) : Nat :=
  if v = last then start.length else s.inner.length

theorem Stopped.done_ne (stopped : s.Stopped taken done last start) {v : Binary64}
    (member : v ∈ done) : v ∈ s.outer ∧ v ≠ last := by
  have once := s.outer_nodup.sublist stopped.reached.sublist
  refine ⟨stopped.reached.subset (List.mem_append_left _ member), ?_⟩
  exact (List.nodup_append.mp once).2.2 v member last List.mem_cons_self

theorem Stopped.outerColumn (stopped : s.Stopped taken done last start) :
    taken.map (·.1) = Setpoint.runs (s.lineLength last start) (done ++ [last]) := by
  have whole : (s.samplesOf done).map (·.1) = Setpoint.runs (s.lineLength last start) done := by
    unfold samplesOf Setpoint.runs
    rw [List.map_flatMap]
    refine List.flatMap_congr fun v member => ?_
    obtain ⟨listed, differ⟩ := stopped.done_ne member
    rw [lineLength, if_neg differ, List.map_map, ← (s.full v listed).length_eq]
    exact List.map_const' ..
  have rest : (start.map (last, ·)).map (·.1) = List.replicate start.length last := by
    rw [List.map_map]
    exact List.map_const' ..
  rw [stopped.lines, List.map_append, whole, rest, Setpoint.runs, Setpoint.runs, List.flatMap_append,
    List.flatMap_singleton, lineLength, if_pos rfl]

theorem Stopped.mem_innerColumn (stopped : s.Stopped taken done last start)
    (begun : taken <+: s.samples) {w : Binary64} : w ∈ taken.map (·.2) ↔ w ∈ s.inner := by
  constructor
  · intro member
    obtain ⟨p, listed, rfl⟩ := List.mem_map.mp member
    exact (mem_samples (begun.subset listed)).2
  · intro member
    obtain ⟨v, first⟩ := List.exists_mem_of_ne_nil _ stopped.beyond
    have onLine := (s.full v (stopped.done_ne first).1).mem_iff.mpr member
    refine List.mem_map.mpr ⟨(v, w), ?_, rfl⟩
    rw [stopped.lines]
    exact List.mem_append_left _
      (List.mem_flatMap.mpr ⟨v, first, List.mem_map.mpr ⟨w, onLine, rfl⟩⟩)

theorem Stopped.length_inner (stopped : s.Stopped taken done last start)
    (begun : taken <+: s.samples) :
    (Setpoint.uniqueSorted (taken.map (·.2))).length = s.inner.length := by
  have plain : Setpoint.Plain (taken.map (·.2)) :=
    s.inner_plain.subset fun w => (stopped.mem_innerColumn begun).mp
  refine ((List.perm_ext_iff_of_nodup (Setpoint.uniqueSorted_nodup _) s.inner_nodup).mpr
    fun w => ?_).length_eq
  rw [Setpoint.mem_uniqueSorted_plain plain, stopped.mem_innerColumn begun]

theorem Stopped.interrupted (stopped : s.Stopped taken done last start) :
    Setpoint.Interrupted (taken.map (·.1)) s.inner.length last := by
  have listed : last ∈ s.outer := stopped.reached.subset (by simp)
  rw [stopped.outerColumn]
  refine Setpoint.interrupted_runs (s.outer_plain.subset stopped.reached.subset)
    (s.outer_nodup.sublist stopped.reached.sublist) ?_ ?_ ?_
  · intro v member
    exact if_neg (stopped.done_ne member).2
  · rw [lineLength, if_pos rfl]
    exact List.length_pos_of_ne_nil stopped.begun
  · rw [lineLength, if_pos rfl, ← (s.full last listed).length_eq]
    exact stopped.within.length_le

end Stopped

theorem outerColumn_plain (begun : taken <+: s.samples) : Setpoint.Plain (taken.map (·.1)) :=
  s.outer_plain.subset fun v member => by
    obtain ⟨p, listed, rfl⟩ := List.mem_map.mp member
    exact (mem_samples (begun.subset listed)).1

theorem innerColumn_plain (begun : taken <+: s.samples) : Setpoint.Plain (taken.map (·.2)) :=
  s.inner_plain.subset fun w member => by
    obtain ⟨p, listed, rfl⟩ := List.mem_map.mp member
    exact (mem_samples (begun.subset listed)).2

-- As many samples as both axes have places together: every line that was begun is complete.
theorem completes_of_product (begun : taken <+: s.samples) (long : s.inner.length < taken.length)
    (product : (Setpoint.uniqueSorted (taken.map (·.1))).length *
      (Setpoint.uniqueSorted (taken.map (·.2))).length = taken.length) : s.Completes taken := by
  obtain ⟨done, last, start, stopped⟩ := exists_stopped begun long
  have onAxis : ∀ w ∈ taken.map (·.2), w ∈ Setpoint.uniqueSorted (taken.map (·.2)) := fun _ =>
    (Setpoint.mem_uniqueSorted_plain (innerColumn_plain begun)).mpr
  have inside : ∀ p ∈ taken, p.1 ∈ Setpoint.uniqueSorted (taken.map (·.1)) ∧
      p.2 ∈ Setpoint.uniqueSorted (taken.map (·.2)) := fun p listed =>
    ⟨(Setpoint.mem_uniqueSorted_plain (outerColumn_plain begun)).mpr (List.mem_map_of_mem listed),
      onAxis p.2 (List.mem_map_of_mem listed)⟩
  intro p listed w member
  exact product_full (s.samples_nodup.sublist begun.sublist) inside product p.1 (inside p listed).1 w
    (onAxis w ((stopped.mem_innerColumn begun).mpr member))

-- A sweep that got beyond its first line is a mesh, whichever of its columns is the outer one, and it
-- passes for an even grid only when its last line is complete.
theorem isMesh_of_begun (s : Sweep) (taken : List (Binary64 × Binary64))
    (begun : taken <+: s.samples) (long : s.inner.length < taken.length)
    (outerVaries : Setpoint.allTheSame (taken.map (·.1)) = false)
    (innerVaries : Setpoint.allTheSame (taken.map (·.2)) = false) :
    ((PlotType.of2D (taken.map (·.1)) (taken.map (·.2))).isMesh = true ∧
      (PlotType.of2D (taken.map (·.1)) (taken.map (·.2)) = .equidistant2D → s.Completes taken)) ∧
    (PlotType.of2D (taken.map (·.2)) (taken.map (·.1))).isMesh = true ∧
      (PlotType.of2D (taken.map (·.2)) (taken.map (·.1)) = .equidistant2D → s.Completes taken) := by
  obtain ⟨done, last, start, stopped⟩ := exists_stopped begun long
  have plainX := outerColumn_plain begun
  have plainY := innerColumn_plain begun
  have once := s.samples_nodup.sublist begun.sublist
  have filled : taken ≠ [] := List.ne_nil_of_length_pos (Nat.zero_lt_of_lt long)
  have pairs : (taken.map (·.1)).zip (taken.map (·.2)) = taken := by
    rw [List.zip_map', List.map_id']
  have turned : (taken.map (·.2)).zip (taken.map (·.1)) = taken.map Prod.swap := List.zip_map' ..
  have lengths : (taken.map (·.1)).length = (taken.map (·.2)).length := by
    rw [List.length_map, List.length_map]
  have sweep : PlotType.isInterruptedSweep (taken.map (·.1))
      (Setpoint.uniqueSorted (taken.map (·.2))).length = true := by
    rw [stopped.length_inner begun]
    exact (Setpoint.isInterruptedSweep_iff plainX).mpr ⟨last, stopped.interrupted⟩
  refine ⟨⟨?_, ?_⟩, ?_, ?_⟩
  · refine (PlotType.isMesh_of2D_iff plainX plainY lengths).mpr
      ⟨by simpa using filled, outerVaries, innerVaries, pairs.symm ▸ once, .inr (.inl sweep)⟩
  · intro even
    have product := PlotType.product_of_equidistant plainX plainY lengths even
    rw [pairs] at product
    exact completes_of_product begun long product
  · refine (PlotType.isMesh_of2D_iff plainY plainX lengths.symm).mpr
      ⟨by simpa using filled, innerVaries, outerVaries, ?_, .inr (.inr sweep)⟩
    rw [turned]
    exact once.map Prod.swap_injective
  · intro even
    have product := PlotType.product_of_equidistant plainY plainX lengths.symm even
    rw [turned, List.length_map, Nat.mul_comm] at product
    exact completes_of_product begun long product

def backAndForth : Sweep where
  outer := [0, 1]
  inner := [0, 2]
  line := fun v => if v = 0 then [0, 2] else [2, 0]
  measured := by decide +kernel
  outerDistinct := by decide +kernel
  innerDistinct := by decide +kernel
  full := by decide +kernel

theorem isMesh_of_begun_backAndForth :
    ([(0, 0), (0, 2), (1, 2)] : List (Binary64 × Binary64)) <+: backAndForth.samples ∧
      (PlotType.of2D [0, 0, 1] [0, 2, 2]).isMesh = true ∧
      (PlotType.of2D [0, 2, 2] [0, 0, 1]).isMesh = true ∧
      ¬backAndForth.Completes [(0, 0), (0, 2), (1, 2)] := by
  have begun : ([(0, 0), (0, 2), (1, 2)] : List (Binary64 × Binary64)) <+: backAndForth.samples := by
    decide +kernel
  obtain ⟨⟨mesh, -⟩, turned, -⟩ := isMesh_of_begun backAndForth [(0, 0), (0, 2), (1, 2)] begun
    (by decide) (by decide +kernel) (by decide +kernel)
  refine ⟨begun, mesh, turned, fun complete => ?_⟩
  have missing := complete (1, 2) (by simp) 0 (by decide +kernel)
  revert missing
  decide +kernel

end Sweep

end Labbook

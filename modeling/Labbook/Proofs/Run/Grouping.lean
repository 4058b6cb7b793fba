import Labbook.Proofs.Run.LaidOut
import Labbook.Run.Dataset

namespace Labbook

namespace Dataset
variable {d : Dataset} {p q : Parameter} {r : Record}

-- The parameters whose records stand in the group of a dependent one.
inductive Uses (d : Dataset) (p : Parameter) : Parameter → Prop where
  | setpoint {name : String} {q : Parameter} (listed : name ∈ p.dependsOn)
      (declared : d.parameter? name = some q) : Uses d p q
  | measured : Uses d p p

-- A record shows the column of its name, on the grid of the dependent parameter if that has one.
structure Shows (d : Dataset) (p : Parameter) (r : Record) (column : RecordData) : Prop where
  found : d.columns.find? r.name = some column
  shape : r.shape = d.shapes.find? p.name
  data : r.data = column.onShape r.shape
  fits : ∀ dims, r.shape = some dims → column.size ≤ cellCount dims

inductive Hindrance (d : Dataset) (p : Parameter) : PlotError → Prop where
  | undeclared {name : String} (listed : name ∈ p.dependsOn) (unknown : d.parameter? name = none) :
      Hindrance d p (.unknownDependency p.name name)
  | unfilled {q : Parameter} (used : d.Uses p q) (missing : d.columns.find? q.name = none) :
      Hindrance d p (.missingColumn d.runId q.name)
  | uneven {q : Parameter} {column measured : RecordData} (used : d.Uses p q)
      (found : d.columns.find? q.name = some column) (own : d.columns.find? p.name = some measured)
      (differ : column.size ≠ measured.size) : Hindrance d p (.unequalCounts p.name)
  | crowded {q : Parameter} {column : RecordData} {dims : List Nat} (used : d.Uses p q)
      (found : d.columns.find? q.name = some column) (shape : d.shapes.find? p.name = some dims)
      (more : cellCount dims < column.size) : Hindrance d p (.gridTooSmall column.size dims)
  | uncounted {dims : List Nat} (shape : d.shapes.find? p.name = some dims)
      (many : ¬Tensor.Counted dims) : Hindrance d p (.gridUncounted dims)
  | unstorable {dims : List Nat} (shape : d.shapes.find? p.name = some dims)
      (counted : Tensor.Counted dims) (large : 2 ^ 63 ≤ cellCount (dims.filter (· ≠ 0))) :
      Hindrance d p (.gridTooLarge dims)

def Plain (d : Dataset) (q : Parameter) (r : Record) : Prop :=
  r.name = q.name ∧ r.shape = none ∧ d.columns.find? q.name = some r.data

theorem record_plain (done : d.record q = .ok r) : d.Plain q r := by
  unfold record at done
  split at done
  next column found =>
    cases done
    exact ⟨rfl, rfl, found⟩
  next => cases done

theorem record_fails (used : d.Uses p q) :
    Outcome.FailsOnly (d.record q) (Hindrance d p) := by
  unfold record
  split
  · exact .ok _
  next missing => exact .error (.unfilled used missing)

theorem setpointRecord_plain {name : String} (listed : name ∈ p.dependsOn)
    (done : d.setpointRecord p name = .ok r) : ∃ q, d.Uses p q ∧ d.Plain q r := by
  unfold setpointRecord at done
  split at done
  next q declared => exact ⟨q, .setpoint listed declared, record_plain done⟩
  next => cases done

theorem setpointRecord_fails {name : String} (listed : name ∈ p.dependsOn) :
    Outcome.FailsOnly (d.setpointRecord p name) (Hindrance d p) := by
  unfold setpointRecord
  split
  next q declared => exact record_fails (.setpoint listed declared)
  next unknown => exact .error (.undeclared listed unknown)

theorem onGrid_shows {dims : List Nat} {laid : Record} (plain : d.Plain q r)
    (shape : d.shapes.find? p.name = some dims) (done : onGrid dims r = .ok laid) :
    laid.name = q.name ∧ d.Shows p laid r.data := by
  obtain ⟨data, reshaped, built⟩ := Outcome.bind_eq_ok.mp done
  obtain ⟨rfl, fits, -⟩ := RecordData.reshaped_eq_ok reshaped
  obtain ⟨name, -, found⟩ := plain
  cases built
  refine ⟨name, by rw [← found, ← name], shape.symm, rfl, ?_⟩
  intro same equal
  cases equal
  exact fits

theorem onGrid_fails {dims : List Nat} (used : d.Uses p q) (plain : d.Plain q r)
    (shape : d.shapes.find? p.name = some dims) :
    Outcome.FailsOnly (onGrid dims r) (Hindrance d p) := by
  refine .bind ?_ fun _ _ => .ok _
  have run := r.data.reshapes dims
  generalize r.data.reshaped dims = outcome at run ⊢
  cases run with
  | uncounted many => exact .error (.uncounted shape many)
  | crowded counted more => exact .error (.crowded used plain.2.2 shape more)
  | unstorable counted fits large => exact .error (.unstorable shape counted large)
  | fitting fits small => exact .ok _

theorem plain_shows (plain : d.Plain q r) (bare : d.shapes.find? p.name = none) :
    d.Shows p r r.data := by
  obtain ⟨name, shape, found⟩ := plain
  refine ⟨by rw [name, found], by rw [shape, bare], by rw [shape]; rfl, ?_⟩
  intro dims equal
  rw [shape] at equal
  cases equal

theorem records_plain {setpoints : List Record} {measured : Record}
    (each : p.dependsOn.mapM (d.setpointRecord p) = .ok setpoints)
    (last : d.record p = .ok measured) :
    ∀ r ∈ setpoints ++ [measured], ∃ q, d.Uses p q ∧ d.Plain q r := by
  intro r member
  rcases List.mem_append.mp member with setpoint | final
  · obtain ⟨name, listed, step⟩ := Outcome.mem_of_mapM each r setpoint
    exact setpointRecord_plain listed step
  · rw [List.mem_singleton.mp final]
    exact ⟨p, .measured, record_plain last⟩

-- Every record of a group shows its column, and the last one is that of the dependent parameter.
theorem group_shows {group : PlotGroup} (done : d.group p = .ok group) :
    (∀ r ∈ group, ∃ column, d.Shows p r column) ∧
      ∃ measured, group.getLast? = some measured ∧ measured.name = p.name := by
  obtain ⟨setpoints, each, done⟩ := Outcome.bind_eq_ok.mp done
  obtain ⟨measured, last, done⟩ := Outcome.bind_eq_ok.mp done
  have plain := records_plain each last
  dsimp only at done
  split at done
  · cases done
  · split at done
    next dims shape =>
      refine ⟨?_, ?_⟩
      · intro r member
        obtain ⟨before, listed, step⟩ := Outcome.mem_of_mapM done r member
        obtain ⟨q, -, bare⟩ := plain before listed
        exact ⟨_, (onGrid_shows bare shape step).2⟩
      · obtain ⟨laid, final, step⟩ := Outcome.getLast?_of_mapM done List.getLast?_concat
        exact ⟨laid, final, (onGrid_shows (record_plain last) shape step).1⟩
    next bare =>
      cases done
      refine ⟨?_, measured, List.getLast?_concat, (record_plain last).1⟩
      intro r member
      obtain ⟨q, -, own⟩ := plain r member
      exact ⟨_, plain_shows own bare⟩

-- The columns of a group are of one length.
theorem group_even {group : PlotGroup} (done : d.group p = .ok group) :
    ∃ count, ∀ r ∈ group, ∀ column, d.columns.find? r.name = some column → column.size = count := by
  obtain ⟨setpoints, each, done⟩ := Outcome.bind_eq_ok.mp done
  obtain ⟨measured, last, done⟩ := Outcome.bind_eq_ok.mp done
  have plain := records_plain each last
  dsimp only at done
  split at done
  · cases done
  next even =>
    have own : ∀ r ∈ setpoints ++ [measured], ∀ column,
        d.columns.find? r.name = some column → column.size = measured.data.size := by
      intro r member column found
      obtain ⟨q, -, name, -, stored⟩ := plain r member
      rw [name, stored] at found
      cases found
      have same := mt List.any_eq_true.mpr even
      simpa using fun differ => same ⟨r, member, differ⟩
    refine ⟨measured.data.size, ?_⟩
    split at done
    next dims shape =>
      intro r member column found
      obtain ⟨before, listed, step⟩ := Outcome.mem_of_mapM done r member
      obtain ⟨q, -, bare⟩ := plain before listed
      have name := (onGrid_shows bare shape step).1.trans bare.1.symm
      exact own before listed column (name ▸ found)
    next =>
      cases done
      exact own

theorem group_fails (d : Dataset) (p : Parameter) :
    Outcome.FailsOnly (d.group p) (Hindrance d p) := by
  refine .bind (.mapM fun name listed => setpointRecord_fails listed) fun setpoints each => ?_
  refine .bind (record_fails .measured) fun measured last => ?_
  have plain := records_plain each last
  dsimp only
  split
  next uneven =>
    obtain ⟨r, member, differ⟩ := List.any_eq_true.mp uneven
    obtain ⟨q, used, -, -, found⟩ := plain r member
    obtain ⟨-, -, own⟩ := record_plain last
    exact .error (.uneven used found own (by simpa using differ))
  next =>
    split
    next dims shape =>
      refine .mapM fun r member => ?_
      obtain ⟨q, used, bare⟩ := plain r member
      exact onGrid_fails used bare shape
    next => exact .ok _

theorem groups_fails (d : Dataset) :
    Outcome.FailsOnly d.groups fun e => ∃ p ∈ d.dependents, d.Hindrance p e :=
  .mapM fun p listed => (group_fails d p).mono fun _ hindrance => ⟨p, listed, hindrance⟩

end Dataset

end Labbook

import Labbook.Proofs.Plot.Owners

namespace Labbook

variable {conversion : Conversion} {phase : PhaseUnit}

namespace Record

-- A component keeps the declared shape of its source.
def component (r : Record) (suffix unit : String) (values : Tensor Binary64) : Record :=
  { r with
    name := r.name ++ "_" ++ suffix
    label := r.label ++ " [" ++ suffix ++ "]"
    unit := unit
    data := .numeric values }

-- The two components of a complex record, on the dimensions of their source. Real and imaginary parts
-- put side by side are the source again; of norms and phases no such thing is said.
inductive Components (phase : PhaseUnit) (r : Record) : Conversion → Record → Record → Prop where
  | realAndImag {values : Tensor ComplexSample} {re im : Tensor Binary64}
      (complex : r.data = .complex values) (dims : re.dims = values.dims ∧ im.dims = values.dims)
      (paired : List.zipWith ComplexSample.mk re.cells im.cells = values.cells) :
      Components phase r .realAndImag (r.component "real" r.unit re) (r.component "imag" r.unit im)
  | magAndPhase {values : Tensor ComplexSample} {mag angle : Tensor Binary64}
      (complex : r.data = .complex values)
      (dims : mag.dims = values.dims ∧ angle.dims = values.dims)
      (norms : mag.cells = values.cells.map ComplexSample.norm)
      (phases : angle.cells = values.cells.map (ComplexSample.phase phase)) :
      Components phase r .magAndPhase (r.component "mag" r.unit mag)
        (r.component "phase" phase.symbol angle)

variable {r first second : Record}

theorem parts_components (complex : r.data.isComplex = true) :
    r.Components phase conversion (r.parts conversion phase).1 (r.parts conversion phase).2 := by
  cases data : r.data with
  | numeric => simp [data, RecordData.isComplex] at complex
  | text => simp [data, RecordData.isComplex] at complex
  | complex values =>
    unfold parts
    rw [data]
    cases conversion with
    | realAndImag =>
      have paired : List.zipWith ComplexSample.mk (values.map ComplexSample.re).cells
          (values.map ComplexSample.im).cells = values.cells := by
        simp [Tensor.map, List.zipWith_map]
      exact @Components.realAndImag phase r values (values.map _) (values.map _) data ⟨rfl, rfl⟩ paired
    | magAndPhase =>
      exact @Components.magAndPhase phase r values (values.map _) (values.map _) data ⟨rfl, rfl⟩ rfl rfl

theorem Components.real (parts : r.Components phase conversion first second) :
    first.data.isComplex = false ∧ second.data.isComplex = false := by
  cases parts <;> exact ⟨rfl, rfl⟩

end Record

-- Records with each complex one replaced by its components.
inductive Replaced (conversion : Conversion) (phase : PhaseUnit) : List Record → List Record → Prop where
  | nil : Replaced conversion phase [] []
  | keep {r : Record} {rest out : List Record} (real : r.data.isComplex = false)
      (others : Replaced conversion phase rest out) :
      Replaced conversion phase (r :: rest) (r :: out)
  | expand {r first second : Record} {rest out : List Record}
      (parts : r.Components phase conversion first second)
      (others : Replaced conversion phase rest out) :
      Replaced conversion phase (r :: rest) (first :: second :: out)

namespace Replaced
variable {records out : List Record}

theorem flatMap_expanded (records : List Record) :
    Replaced conversion phase records (records.flatMap (Record.expanded conversion phase)) := by
  induction records with
  | nil => exact .nil
  | cons r rest ih =>
    rw [List.flatMap_cons]
    unfold Record.expanded
    split
    next complex => exact .expand (Record.parts_components complex) ih
    next real => exact .keep (Bool.eq_false_iff.mpr real) ih

theorem append_real {measured : Record} (replaced : Replaced conversion phase records out)
    (real : measured.data.isComplex = false) :
    Replaced conversion phase (records ++ [measured]) (out ++ [measured]) := by
  induction replaced with
  | nil => exact .keep real .nil
  | keep plain _ ih => exact .keep plain ih
  | expand parts _ ih => exact .expand parts ih

theorem real (replaced : Replaced conversion phase records out) :
    ∀ r ∈ out, r.data.isComplex = false := by
  induction replaced with
  | nil => nofun
  | keep plain _ ih => exact List.forall_mem_cons.mpr ⟨plain, ih⟩
  | expand parts _ ih =>
    exact List.forall_mem_cons.mpr ⟨parts.real.1, List.forall_mem_cons.mpr ⟨parts.real.2, ih⟩⟩

end Replaced

-- The groups that a group is split into: one, or two that agree in all but the measured variable.
inductive SplitInto (conversion : Conversion) (phase : PhaseUnit) :
    PlotGroup → List PlotGroup → Prop where
  | whole {group out : PlotGroup}
      (real : ∀ measured, group.getLast? = some measured → measured.data.isComplex = false)
      (replaced : Replaced conversion phase group out) : SplitInto conversion phase group [out]
  | halves {setpoints out : List Record} {measured first second : Record}
      (replaced : Replaced conversion phase setpoints out)
      (parts : measured.Components phase conversion first second) :
      SplitInto conversion phase (setpoints ++ [measured]) [out ++ [first], out ++ [second]]

theorem splitGroup_into (group : PlotGroup) :
    SplitInto conversion phase group (splitGroup conversion phase group) := by
  cases last : group.getLast? with
  | none =>
    obtain rfl := List.getLast?_eq_none_iff.mp last
    exact .whole nofun .nil
  | some measured =>
    obtain ⟨setpoints, rfl⟩ := List.getLast?_eq_some_iff.mp last
    have replaced : Replaced conversion phase setpoints _ := .flatMap_expanded setpoints
    cases kind : measured.data.isComplex with
    | false =>
      rw [splitGroup_real last kind, List.dropLast_concat]
      refine .whole (fun other found => ?_) (replaced.append_real kind)
      rw [last] at found
      cases found
      exact kind
    | true =>
      unfold splitGroup
      rw [last]
      dsimp only
      rw [List.dropLast_concat, Record.expanded, if_pos kind]
      exact .halves replaced (Record.parts_components kind)

theorem SplitInto.real {group : PlotGroup} {parts : List PlotGroup}
    (split : SplitInto conversion phase group parts) :
    ∀ part ∈ parts, ∀ r ∈ part, r.data.isComplex = false := by
  cases split with
  | whole _ replaced => exact List.forall_mem_singleton.mpr replaced.real
  | halves replaced halves =>
    have half : ∀ r : Record, r.data.isComplex = false →
        ∀ other ∈ _ ++ [r], other.data.isComplex = false := fun r real =>
      List.forall_mem_append.mpr ⟨replaced.real, List.forall_mem_singleton.mpr real⟩
    exact List.forall_mem_cons.mpr ⟨half _ halves.real.1,
      List.forall_mem_singleton.mpr (half _ halves.real.2)⟩

theorem flatMap_eq_self {α : Type} {f : α → List α} {items : List α} (each : ∀ a ∈ items, f a = [a]) :
    items.flatMap f = items := by
  rw [List.flatMap_congr each]
  exact List.flatMap_singleton' items

theorem splitGroup_of_real {group : PlotGroup} (real : ∀ r ∈ group, r.data.isComplex = false) :
    splitGroup conversion phase group = [group] := by
  cases last : group.getLast? with
  | none =>
    unfold splitGroup
    rw [last]
  | some measured =>
    obtain ⟨setpoints, rfl⟩ := List.getLast?_eq_some_iff.mp last
    have plain : ∀ r ∈ setpoints, r.expanded conversion phase = [r] := by
      intro r member
      unfold Record.expanded
      rw [real r (List.mem_append_left _ member)]
      rfl
    rw [splitGroup_real last (real measured (List.mem_of_getLast? last)), List.dropLast_concat,
      flatMap_eq_self plain]

-- The law of splitting: group by group and in order, with nothing complex left for another split.
theorem splitComplex_groups (conversion : Conversion) (phase : PhaseUnit) (groups : List PlotGroup) :
    ∃ parts, splitComplex conversion phase groups = parts.flatten ∧
      List.Forall₂ (SplitInto conversion phase) groups parts ∧
      (∀ group ∈ splitComplex conversion phase groups, ∀ r ∈ group, r.data.isComplex = false) ∧
      ∀ again unit, splitComplex again unit (splitComplex conversion phase groups) =
        splitComplex conversion phase groups := by
  have real : ∀ group ∈ splitComplex conversion phase groups, ∀ r ∈ group,
      r.data.isComplex = false := by
    intro group member
    obtain ⟨source, -, piece⟩ := List.mem_flatMap.mp member
    exact (splitGroup_into source).real group piece
  refine ⟨groups.map (splitGroup conversion phase), List.flatMap_def, ?_, real, ?_⟩
  · exact List.forall₂_map_right_iff.mpr (List.forall₂_same.mpr fun group _ => splitGroup_into group)
  · intro again unit
    exact flatMap_eq_self fun group member => splitGroup_of_real (real group member)

end Labbook

import Labbook.Plot.OfDataset
import Labbook.Proofs.Run.Grouping

namespace Labbook

section
variable {conversion : Conversion} {phase : PhaseUnit} {group part : PlotGroup} {measured : Record}

theorem splitGroup_real (last : group.getLast? = some measured)
    (real : measured.data.isComplex = false) :
    splitGroup conversion phase group =
      [group.dropLast.flatMap (Record.expanded conversion phase) ++ [measured]] := by
  simp [splitGroup, last, Record.expanded, real]

theorem splitGroup_complex (last : group.getLast? = some measured)
    (complex : measured.data.isComplex = true) :
    ∃ first second, splitGroup conversion phase group = [first, second] := by
  simp [splitGroup, last, Record.expanded, complex]

-- Splitting makes no text: the text records of a part are those of its group.
theorem expanded_text {r source : Record} (member : r ∈ source.expanded conversion phase)
    (text : r.data.isText = true) : r = source := by
  unfold Record.expanded at member
  split at member
  next complex =>
    cases data : source.data with
    | complex values =>
      cases conversion
      all_goals
        simp only [Record.parts, data, List.mem_cons, List.not_mem_nil, or_false] at member
        rcases member with rfl | rfl
        all_goals cases text
    | numeric => simp [data, RecordData.isComplex] at complex
    | text => simp [data, RecordData.isComplex] at complex
  next => exact List.mem_singleton.mp member

theorem splitGroup_text {r : Record} (piece : part ∈ splitGroup conversion phase group)
    (member : r ∈ part) (text : r.data.isText = true) : r ∈ group := by
  unfold splitGroup at piece
  split at piece
  · rw [List.mem_singleton.mp piece] at member
    exact member
  next dependent last =>
    obtain ⟨final, chosen, rfl⟩ := List.mem_map.mp piece
    rcases List.mem_append.mp member with setpoint | measured
    · obtain ⟨source, listed, expanded⟩ := List.mem_flatMap.mp setpoint
      rw [expanded_text expanded text]
      exact (List.dropLast_sublist group).subset listed
    · cases List.mem_singleton.mp measured
      rw [expanded_text chosen text]
      exact List.mem_of_getLast? last

end

namespace Dataset

def hasComplexColumn (d : Dataset) (p : Parameter) : Bool :=
  (d.columns.find? p.name).any RecordData.isComplex

theorem group_measured {d : Dataset} {p : Parameter} {group : PlotGroup}
    (done : d.group p = .ok group) :
    ∃ measured, group.getLast? = some measured ∧ measured.name = p.name ∧
      measured.data.isComplex = d.hasComplexColumn p := by
  obtain ⟨shown, measured, last, name⟩ := group_shows done
  obtain ⟨column, shows⟩ := shown measured (List.mem_of_getLast? last)
  refine ⟨measured, last, name, ?_⟩
  rw [shows.data, RecordData.isComplex_onShape, hasComplexColumn, ← name, shows.found]
  rfl

end Dataset

namespace Plot
variable {d : Dataset} {options : PlotOptions}

def Asked (options : PlotOptions) (p : Parameter) : Bool :=
  match options.parameters with
  | some names => names.contains p.name
  | none => true

def asked (d : Dataset) (options : PlotOptions) : List Parameter :=
  d.dependents.filter (Asked options)

def copies (d : Dataset) (p : Parameter) : List Parameter :=
  if d.hasComplexColumn p then [p, p] else [p]

def owners (d : Dataset) (options : PlotOptions) : List Parameter :=
  (asked d options).flatMap (copies d)

def GroupOf (d : Dataset) (options : PlotOptions) (p : Parameter) (part : PlotGroup) : Prop :=
  ∃ group, d.group p = .ok group ∧ part ∈ splitGroup options.conversion options.phase group

theorem copies_groups {p : Parameter} {group : PlotGroup} (done : d.group p = .ok group) :
    List.Forall₂ (GroupOf d options) (copies d p)
      (splitGroup options.conversion options.phase group) := by
  obtain ⟨measured, last, -, complex⟩ := Dataset.group_measured done
  have part : ∀ part ∈ splitGroup options.conversion options.phase group, GroupOf d options p part :=
    fun part member => ⟨group, done, member⟩
  unfold copies
  split
  next two =>
    obtain ⟨first, second, halves⟩ :
        ∃ first second, splitGroup options.conversion options.phase group = [first, second] :=
      splitGroup_complex last (complex.trans two)
    rw [halves] at part ⊢
    exact .cons (part first (by simp)) (.cons (part second (by simp)) .nil)
  next one =>
    rw [splitGroup_real last (complex.trans (Bool.not_eq_true _ ▸ one))] at part ⊢
    exact .cons (part _ (by simp)) .nil

def askedGroup (names : List String) (group : PlotGroup) : Bool :=
  match group.getLast? with
  | some measured => names.contains measured.name
  | none => false

theorem selectGroups_eq_ok {groups chosen : List PlotGroup} {names : List String}
    (done : selectGroups d groups names = .ok chosen) : chosen = groups.filter (askedGroup names) := by
  unfold selectGroups at done
  dsimp only at done
  split at done
  · cases done
  · cases done
    rfl

theorem askedGroup_eq {names : List String} {p : Parameter} {group : PlotGroup}
    (done : d.group p = .ok group) : askedGroup names group = names.contains p.name := by
  obtain ⟨measured, last, name, -⟩ := Dataset.group_measured done
  simp [askedGroup, last, name]

theorem asked_groups {wholes : List PlotGroup} {names : List String} (grouped : d.groups = .ok wholes) :
    List.Forall₂ (fun p group => d.group p = .ok group)
      (d.dependents.filter fun p => names.contains p.name) (wholes.filter (askedGroup names)) := by
  refine List.rel_filter ?_ (Outcome.mapM_eq_ok.mp grouped)
  intro p group done
  simp only [askedGroup_eq done]

-- The groups that are plotted: those of the parameters that are asked for, split.
theorem selectedGroups_ok {groups : List PlotGroup} (done : selectedGroups d options = .ok groups) :
    ∃ wholes, List.Forall₂ (fun p group => d.group p = .ok group) (asked d options) wholes ∧
      groups = splitComplex options.conversion options.phase wholes := by
  obtain ⟨wholes, grouped, done⟩ := Outcome.bind_eq_ok.mp done
  unfold asked Asked
  dsimp only at done
  split at done
  next names named =>
    obtain ⟨chosen, picked, done⟩ := Outcome.bind_eq_ok.mp done
    cases done
    refine ⟨chosen, ?_, rfl⟩
    rw [selectGroups_eq_ok picked]
    simpa only [named] using asked_groups grouped
  next all =>
    cases done
    refine ⟨wholes, ?_, rfl⟩
    simpa only [all, List.filter_true] using Outcome.mapM_eq_ok.mp grouped

theorem owners_groups {groups : List PlotGroup} (done : selectedGroups d options = .ok groups) :
    List.Forall₂ (GroupOf d options) (owners d options) groups := by
  obtain ⟨wholes, each, rfl⟩ := selectedGroups_ok done
  exact List.rel_flatMap each fun p group grouped => copies_groups grouped

end Plot

end Labbook

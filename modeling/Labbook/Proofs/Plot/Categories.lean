import Labbook.Proofs.Plot.Pairing
import Labbook.Proofs.Setpoint.Distinct

namespace Labbook

theorem Setpoint.mem_distinctTexts {texts : List String} {text : String} :
    text ∈ distinctTexts texts ↔ text ∈ texts := by
  unfold distinctTexts
  constructor
  · intro kept
    exact List.mem_mergeSort.mp ((dropRepeats_sublist _).subset kept)
  · intro listed
    have unordered : (texts.mergeSort fun a b => decide (a ≤ b)).Pairwise fun _ _ => True :=
      List.pairwise_of_forall fun _ _ => trivial
    obtain ⟨kept, member, same⟩ :=
      @dropRepeats_covers _ (· == ·) _ _ unordered text (List.mem_mergeSort.mpr listed)
    rcases same with rfl | ⟨same, -⟩
    · exact member
    · rwa [← eq_of_beq same]

theorem Setpoint.length_distinctTexts_le (texts : List String) :
    (distinctTexts texts).length ≤ texts.length := by
  have kept : (distinctTexts texts).length ≤ (texts.mergeSort fun a b => decide (a ≤ b)).length :=
    (dropRepeats_sublist _).length_le
  rwa [List.length_mergeSort] at kept

theorem Setpoint.distinctTexts_ascending (texts : List String) :
    (distinctTexts texts).Pairwise (· < ·) := by
  have sorted : (texts.mergeSort fun a b => decide (a ≤ b)).Pairwise fun a b => a ≤ b := by
    refine (List.pairwise_mergeSort ?_ ?_ texts).imp fun before => of_decide_eq_true before
    · intro a b c first second
      exact decide_eq_true (String.le_trans (of_decide_eq_true first) (of_decide_eq_true second))
    · intro a b
      rw [Bool.or_eq_true, decide_eq_true_iff, decide_eq_true_iff]
      exact String.le_total a b
  have trans : ∀ a b c : String, a < b → b < c → a < c := fun _ _ _ => String.lt_trans
  have separates : ∀ a b : String, a ≤ b → (a == b) = false → a < b := by
    intro a b before differ
    refine Decidable.byContradiction fun notLess => ne_of_beq_false differ ?_
    exact String.le_antisymm before (String.not_lt.mp notLess)
  exact dropRepeats_pairwise trans separates sorted

theorem Setpoint.distinctTexts_nodup (texts : List String) : (distinctTexts texts).Nodup :=
  (distinctTexts_ascending texts).imp String.ne_of_lt

namespace RecordData
variable {data : RecordData} {text : String}

-- The texts in the cells of a record. A record of numbers has none.
def texts : RecordData → List String
  | .text t => t.cells
  | _ => []

theorem isText_of_mem_texts (member : text ∈ data.texts) : data.isText = true := by
  cases data with
  | text => rfl
  | numeric => cases member
  | complex => cases member

theorem mem_categories : text ∈ data.axisValues.categories.getD [] ↔ text ∈ data.texts := by
  cases data with
  | text t => exact Setpoint.mem_distinctTexts
  | numeric => rfl
  | complex => rfl

-- A cell that no sample reached holds the empty text, as any other text.
theorem mem_texts_onShape {shape : Option (List Nat)}
    (fits : ∀ dims, shape = some dims → data.size ≤ cellCount dims) :
    text ∈ (data.onShape shape).texts ↔ text ∈ data.texts ∨
      text = "" ∧ data.isText = true ∧ ∃ dims, shape = some dims ∧ data.size < cellCount dims := by
  cases shape with
  | none => simp [onShape]
  | some dims =>
    cases data with
    | text t =>
      have room : t.size ≤ cellCount dims := fits dims rfl
      simpa [onShape, padded, texts, isText, size] using Tensor.mem_padded room
    | numeric => simp [onShape, padded, texts, isText]
    | complex => simp [onShape, padded, texts, isText]

end RecordData

namespace Dataset
variable {d : Dataset} {p : Parameter} {r : Record} {text : String}

-- A column of text with fewer samples than the grid of a dependent parameter has cells.
def Unfilled (d : Dataset) (p : Parameter) (column : RecordData) : Prop :=
  column.isText = true ∧
    ∃ dims, d.shapes.find? p.name = some dims ∧ column.size < cellCount dims

def Offers (d : Dataset) (p : Parameter) (r : Record) (text : String) : Prop :=
  r.data.isText = true ∧ ∃ column, d.columns.find? r.name = some column ∧
    (text ∈ column.texts ∨ text = "" ∧ d.Unfilled p column)

theorem Shows.mem_texts {column : RecordData} (shows : d.Shows p r column) :
    text ∈ r.data.texts ↔ text ∈ column.texts ∨ text = "" ∧ d.Unfilled p column := by
  rw [shows.data, RecordData.mem_texts_onShape shows.fits, shows.shape]
  rfl

theorem mem_texts_of_part {group part : PlotGroup} {conversion : Conversion} {phase : PhaseUnit}
    (done : d.group p = .ok group) (piece : part ∈ splitGroup conversion phase group)
    (member : r ∈ part) : text ∈ r.data.texts ↔ d.Offers p r text := by
  constructor
  · intro listed
    have isText := RecordData.isText_of_mem_texts listed
    obtain ⟨column, shows⟩ := (group_shows done).1 r (splitGroup_text piece member isText)
    exact ⟨isText, column, shows.found, shows.mem_texts.mp listed⟩
  · rintro ⟨isText, column, found, offered⟩
    obtain ⟨own, shows⟩ := (group_shows done).1 r (splitGroup_text piece member isText)
    rw [shows.found] at found
    cases found
    exact shows.mem_texts.mpr offered

end Dataset

namespace Plot
variable {d : Dataset} {options : PlotOptions} {settings : Settings}

def texts (plot : Plot) : Fin 3 → List String
  | 0 => plot.canvas.xAxis.categories.getD []
  | 1 => plot.canvas.yAxis.categories.getD []
  | 2 => (plot.colorbar.bind Colorbar.tickLabels).getD []

-- Groups with more than two setpoints are not plotted.
def drawnRecords (group : PlotGroup) : List Record :=
  if group.length = 2 ∨ group.length = 3 then group else []

theorem mem_plotted {axis : Axis} {r : Record} {text : String} (bare : axis.categories = none) :
    text ∈ (axis.plotted options settings r).categories.getD [] ↔ text ∈ r.data.texts := by
  rw [Axis.plotted_categories, bare, Option.or_none, RecordData.mem_categories]

theorem Drawn.mem_texts {title : String} {size : Nat × Nat} {group : PlotGroup} {plot : Plot}
    (drawn : Drawn title options settings (Canvas.blank size) group plot) (k : Fin 3) (text : String) :
    text ∈ plot.texts k ↔ ∃ r, (drawnRecords group)[k.val]? = some r ∧ text ∈ r.data.texts := by
  cases drawn with
  | @series x y =>
    have both : drawnRecords [x, y] = [x, y] := if_pos (.inl rfl)
    rw [both]
    match k with
    | 0 => simp [texts, overlaid, Canvas.blank, mem_plotted]
    | 1 => simp [texts, overlaid, Canvas.blank, mem_plotted]
    | 2 => simp [texts]
  | @colors x y z layer bar coloured labels =>
    have three : drawnRecords [x, y, z] = [x, y, z] := if_pos (.inr rfl)
    rw [three]
    match k with
    | 0 => simp [texts, overlaid, Canvas.blank, mem_plotted]
    | 1 => simp [texts, overlaid, Canvas.blank, mem_plotted]
    | 2 => simp [texts, labels, RecordData.mem_categories]
  | skipped one two =>
    have undrawn : drawnRecords group = [] := if_neg (not_or.mpr ⟨one, two⟩)
    rw [undrawn]
    match k with
    | 0 => simp [texts, Canvas.blank]
    | 1 => simp [texts, Canvas.blank]
    | 2 => simp [texts]

theorem drawnRecords_subset {group : PlotGroup} {r : Record} {k : Nat}
    (drawn : (drawnRecords group)[k]? = some r) : r ∈ group := by
  have member := List.mem_of_getElem? drawn
  unfold drawnRecords at member
  split at member
  · exact member
  · cases member

theorem ofDataset_texts (d : Dataset) (options : PlotOptions) (settings : Settings)
    (plots : List Plot) (done : ofDataset d none none options settings = .ok plots) :
    List.Forall₂ (fun p plot => ∃ part, GroupOf d options p part ∧ ∀ k text, text ∈ plot.texts k ↔
      ∃ r, (drawnRecords part)[k.val]? = some r ∧ d.Offers p r text) (owners d options) plots := by
  obtain ⟨groups, selected, each⟩ := ofDataset_blank done
  refine (forall₂_through (owners_groups selected) each).imp ?_
  rintro p plot ⟨part, ⟨group, grouped, piece⟩, drawn⟩
  refine ⟨part, ⟨group, grouped, piece⟩, fun k text => ?_⟩
  rw [drawn.mem_texts]
  refine exists_congr fun r => and_congr_right fun shown => ?_
  exact Dataset.mem_texts_of_part grouped piece (drawnRecords_subset shown)

-- A sweep of text over a grid of two by two that stopped before its last cell.
def haltedRun : Dataset where
  parameters := [{ name := "x" }, { name := "y" }, { name := "state", dependsOn := ["x", "y"] }]
  columns := [("x", .numeric (.ofList [0, 0, 1])), ("y", .numeric (.ofList [0, 1, 0])),
    ("state", .text (.ofList ["hold", "off", "ramp"]))]
  shapes := [("state", [2, 2])]

def haltedGroup : PlotGroup :=
  haltedRun.columns.map fun (name, column) =>
    { name, label := "", unit := "", data := column.padded [2, 2], shape := some [2, 2] }

theorem haltedRun_plotted :
    ∃ plot, ofDataset haltedRun none none {} {} = .ok [plot] ∧
      Drawn (wrappedTitle haltedRun.title) {} {} (Canvas.blank (({} : Settings).canvasSize))
        haltedGroup plot := by
  obtain ⟨plots, done⟩ : ∃ plots, ofDataset haltedRun none none {} {} = .ok plots :=
    Outcome.exists_of_isOk (by decide +kernel)
  obtain ⟨groups, selected, each⟩ := ofDataset_blank done
  have only : selectedGroups haltedRun {} = .ok [haltedGroup] := rfl
  rw [only] at selected
  cases selected
  cases each with
  | @cons _ plot _ _ first rest =>
    cases rest
    exact ⟨plot, done, first⟩

-- The colorbar names the cell that the sweep did not reach, as if it had been measured empty.
theorem ofDataset_texts_halted :
    ∃ plot, ofDataset haltedRun none none {} {} = .ok [plot] ∧
      ∀ text, text ∈ plot.texts 2 ↔ text ∈ ["hold", "off", "ramp"] ∨ text = "" := by
  obtain ⟨plot, done, -⟩ := haltedRun_plotted
  have each := ofDataset_texts haltedRun {} {} [plot] done
  have asked : owners haltedRun {} = [{ name := "state", dependsOn := ["x", "y"] }] := rfl
  have own : haltedRun.group { name := "state", dependsOn := ["x", "y"] } = .ok haltedGroup := rfl
  rw [asked] at each
  cases each with
  | cons first rest =>
    obtain ⟨part, ⟨group, grouped, piece⟩, shown⟩ := first
    rw [own] at grouped
    cases grouped
    have whole : splitGroup .realAndImag .radians haltedGroup = [haltedGroup] := rfl
    cases List.mem_singleton.mp (whole ▸ piece)
    refine ⟨plot, done, fun text => (shown 2 text).trans ?_⟩
    constructor
    · rintro ⟨r, last, -, column, found, offered⟩
      cases last
      cases found
      exact offered.imp_right And.left
    · intro offered
      exact ⟨_, rfl, rfl, _, rfl, offered.imp_right fun empty => ⟨empty, rfl, [2, 2], rfl, by decide⟩⟩

theorem haltedRun_names_unmeasured :
    ∃ plot, ofDataset haltedRun none none {} {} = .ok [plot] ∧ "" ∈ plot.texts 2 ∧
      ∃ column, haltedRun.columns.find? "state" = some column ∧ "" ∉ column.texts := by
  obtain ⟨plot, done, drawn⟩ := haltedRun_plotted
  exact ⟨plot, done, (drawn.mem_texts 2 "").mpr ⟨_, rfl, by decide⟩, _, rfl, by decide⟩

end Plot

end Labbook

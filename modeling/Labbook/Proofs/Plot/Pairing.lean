import Labbook.Proofs.Plot.Drawing
import Labbook.Proofs.Plot.Owners

namespace Labbook

theorem forall₂_of_zip {α β γ : Type} {R : α × β → γ → Prop} {xs : List α} {ys : List β} {zs : List γ}
    (each : List.Forall₂ R (xs.zip ys) zs) (enough : xs.length ≤ ys.length) :
    List.Forall₂ (fun x z => ∃ y ∈ ys, R (x, y) z) xs zs := by
  induction xs generalizing ys zs with
  | nil =>
    cases each
    exact .nil
  | cons x xs ih =>
    cases ys with
    | nil => simp at enough
    | cons y ys =>
      cases each with
      | cons first rest =>
        refine .cons ⟨y, List.mem_cons_self, first⟩ ((ih rest (Nat.le_of_succ_le_succ enough)).imp ?_)
        rintro x z ⟨y, later, step⟩
        exact ⟨y, List.mem_cons_of_mem _ later, step⟩

theorem forall₂_through {α β γ : Type} {R : α → β → Prop} {S : β → γ → Prop} {xs : List α}
    {ys : List β} {zs : List γ} (first : List.Forall₂ R xs ys) (second : List.Forall₂ S ys zs) :
    List.Forall₂ (fun x z => ∃ y, R x y ∧ S y z) xs zs := by
  induction first generalizing zs with
  | nil =>
    cases second
    exact .nil
  | cons head tail ih =>
    cases second with
    | cons next rest => exact .cons ⟨_, head, next⟩ (ih rest)

namespace Plot
variable {title : String} {options : PlotOptions} {settings : Settings} {d : Dataset}
  {groups : List PlotGroup} {plots : List Plot}

theorem drawAll_drawn {canvases : List Canvas} {colorbars : List (Option (Colorbar Binary64))}
    (all : drawAll title options settings groups canvases colorbars = .ok plots)
    (targets : canvases.length = groups.length) (scales : colorbars.length = canvases.length) :
    List.Forall₂ (fun group plot => ∃ canvas ∈ canvases,
      Drawn title options settings canvas group plot) groups plots := by
  have each := Outcome.mapM_eq_ok.mp all
  have enough : groups.length ≤ (canvases.zip colorbars).length := by
    rw [List.length_zip]
    omega
  refine (forall₂_of_zip each enough).imp ?_
  rintro group plot ⟨⟨canvas, reused⟩, handed, step⟩
  exact ⟨canvas, (List.of_mem_zip handed).1, ofGroup_drawn step⟩

theorem prepareCanvases_length {supplied : Option (List Canvas)} {n : Nat} {canvases : List Canvas}
    (done : prepareCanvases supplied n options settings = .ok canvases) : canvases.length = n := by
  cases supplied with
  | none =>
    cases done
    exact List.length_replicate
  | some handed =>
    obtain ⟨rfl, length⟩ := prepareCanvases_supplied done
    exact length

theorem drawAll_length {canvases : List Canvas} {colorbars : List (Option (Colorbar Binary64))}
    (all : drawAll title options settings groups canvases colorbars = .ok plots)
    (targets : canvases.length = groups.length) (scales : colorbars.length = canvases.length) :
    plots.length = canvases.length := by
  rw [targets]
  exact (drawAll_drawn all targets scales).length_eq.symm

theorem ofDataset_foreseen (d : Dataset) (supplied : Option (List Canvas))
    (bars : Option (List (Option (Colorbar Binary64)))) (options : PlotOptions)
    (settings : Settings) :
    Outcome.FailsOnly (ofDataset d supplied bars options settings) PlotError.Foreseen := by
  refine .bind (selectedGroups_foreseen d options) fun groups _ => ?_
  refine .bind (prepareCanvases_foreseen _ _ _ _) fun canvases targets => ?_
  refine .bind (prepareColorbars_foreseen _ _) fun colorbars scales => ?_
  refine .bind (.mapM fun _ _ => ofGroup_foreseen _ _ _ _ _ _) fun plots all => ?_
  have paired := drawAll_length all (prepareCanvases_length targets) (prepareColorbars_length scales)
  dsimp only
  rw [if_neg (not_not_intro paired)]
  exact .ok _

-- A run that was plotted: every group is drawn over one of the canvases.
theorem ofDataset_drawn {supplied : Option (List Canvas)}
    {bars : Option (List (Option (Colorbar Binary64)))}
    (done : ofDataset d supplied bars options settings = .ok plots) :
    ∃ groups canvases, selectedGroups d options = .ok groups ∧
      prepareCanvases supplied groups.length options settings = .ok canvases ∧
      List.Forall₂ (fun group plot => ∃ canvas ∈ canvases,
        Drawn (wrappedTitle d.title) options settings canvas group plot) groups plots := by
  obtain ⟨groups, canvases, colorbars, selected, targets, scales, all, -⟩ := ofDataset_ok done
  exact ⟨groups, canvases, selected, targets,
    drawAll_drawn all (prepareCanvases_length targets) (prepareColorbars_length scales)⟩

theorem ofDataset_blank {bars : Option (List (Option (Colorbar Binary64)))}
    (done : ofDataset d none bars options settings = .ok plots) :
    ∃ groups, selectedGroups d options = .ok groups ∧
      List.Forall₂ (Drawn (wrappedTitle d.title) options settings
        (Canvas.blank (options.canvasSize.getD settings.canvasSize))) groups plots := by
  obtain ⟨groups, canvases, selected, targets, each⟩ := ofDataset_drawn done
  cases targets
  refine ⟨groups, selected, each.imp ?_⟩
  rintro group plot ⟨canvas, handed, drawn⟩
  rwa [List.eq_of_mem_replicate handed] at drawn

theorem Drawn.paired {size : Nat × Nat} {group : PlotGroup} {plot : Plot}
    (drawn : Drawn title options settings (Canvas.blank size) group plot) :
    (plot.colorbar.isSome = true ↔ group.length = 3) ∧
      (plot.canvas.usesColorbar = true ↔ group.length = 3) := by
  cases drawn with
  | series plain => simp [Canvas.usesColorbar, overlaid, Canvas.blank, plain]
  | colors coloured labels => simp [Canvas.usesColorbar, overlaid, Canvas.blank, coloured]
  | skipped one two => simp [Canvas.usesColorbar, Canvas.blank, two]

theorem ofDataset_aligned (d : Dataset) (supplied : Option (List Canvas))
    (bars : Option (List (Option (Colorbar Binary64)))) (options : PlotOptions)
    (settings : Settings) :
    (∀ e, ofDataset d supplied bars options settings = .error e → e.kind ≠ .internal) ∧
      ∀ plots, ofDataset d supplied bars options settings = .ok plots →
        ∃ groups, selectedGroups d options = .ok groups ∧
          plots.length = (owners d options).length ∧
          List.Forall₂ (GroupOf d options) (owners d options) groups ∧
          (supplied = none → List.Forall₂ (fun group plot =>
            (plot.colorbar.isSome = true ↔ group.length = 3) ∧
              (plot.canvas.usesColorbar = true ↔ group.length = 3)) groups plots) := by
  refine ⟨ofDataset_foreseen d supplied bars options settings, ?_⟩
  intro plots done
  obtain ⟨groups, canvases, selected, targets, each⟩ := ofDataset_drawn done
  have owned := owners_groups selected
  refine ⟨groups, selected, ?_, owned, ?_⟩
  · rw [owned.length_eq, each.length_eq]
  · rintro rfl
    obtain ⟨again, reselected, blank⟩ := ofDataset_blank done
    rw [selected] at reselected
    cases reselected
    exact blank.imp fun group plot drawn => drawn.paired

def bridgeRun : Dataset where
  parameters := [{ name := "x" }, { name := "y" }, { name := "s", dependsOn := ["x"] },
    { name := "m", dependsOn := ["x", "y"] }]
  columns := [("x", .numeric (.ofList [0])), ("y", .numeric (.ofList [1])),
    ("s", .complex (.ofList [⟨1, 2⟩])), ("m", .numeric (.ofList [3]))]

theorem ofDataset_aligned_bridge :
    (ofDataset bridgeRun none none {} {}).isOk = true ∧
      ∀ plots, ofDataset bridgeRun none none {} {} = .ok plots → plots.length = 3 ∧
        List.Forall₂ (fun records plot => (plot.colorbar.isSome = true ↔ records = 3) ∧
          (plot.canvas.usesColorbar = true ↔ records = 3)) [2, 2, 3] plots := by
  refine ⟨by decide +kernel, ?_⟩
  intro plots done
  obtain ⟨groups, selected, count, -, paired⟩ :=
    (ofDataset_aligned bridgeRun none none {} {}).2 plots done
  have sizes : (selectedGroups bridgeRun {}).map (·.map List.length) = .ok [2, 2, 3] := rfl
  rw [selected] at sizes
  rw [← Except.ok.inj sizes]
  exact ⟨count, List.forall₂_map_left_iff.mpr (paired rfl)⟩

end Plot

end Labbook

import Labbook.Proofs.Plot.Pairing

namespace Labbook

-- The items whose owner is wanted, in their order.
def ofWanted {κ α : Type} (wanted : κ → Bool) (owners : List κ) (items : List α) : List α :=
  ((owners.zip items).filter fun entry => wanted entry.1).map Prod.snd

section
variable {κ α β : Type} {wanted : κ → Bool}

theorem ofWanted_cons (owner : κ) (owners : List κ) (item : α) (items : List α) :
    ofWanted wanted (owner :: owners) (item :: items) =
      if wanted owner then item :: ofWanted wanted owners items else ofWanted wanted owners items := by
  unfold ofWanted
  rw [List.zip_cons_cons, List.filter_cons]
  split <;> rfl

theorem ofWanted_forall₂ {R : α → β → Prop} {xs : List α} {ys : List β} (each : List.Forall₂ R xs ys)
    (owners : List κ) : List.Forall₂ R (ofWanted wanted owners xs) (ofWanted wanted owners ys) := by
  induction each generalizing owners with
  | nil => simp [ofWanted]
  | cons first rest ih =>
    cases owners with
    | nil => exact .nil
    | cons owner owners =>
      rw [ofWanted_cons, ofWanted_cons]
      split
      · exact .cons first (ih owners)
      · exact ih owners

theorem ofWanted_append {owners more : List κ} {items others : List α}
    (even : owners.length = items.length) :
    ofWanted wanted (owners ++ more) (items ++ others) =
      ofWanted wanted owners items ++ ofWanted wanted more others := by
  unfold ofWanted
  rw [List.zip_append even, List.filter_append, List.map_append]

theorem ofWanted_one {owner : κ} {owners : List κ} {items : List α}
    (same : ∀ other ∈ owners, other = owner) (even : owners.length = items.length) :
    ofWanted wanted owners items = if wanted owner then items else [] := by
  induction owners generalizing items with
  | nil =>
    cases List.length_eq_zero_iff.mp even.symm
    split <;> rfl
  | cons first rest ih =>
    cases items with
    | nil => cases even
    | cons item items =>
      rw [ofWanted_cons, same first List.mem_cons_self,
        ih (fun other later => same other (List.mem_cons_of_mem _ later)) (Nat.succ.inj even)]
      split <;> rfl

-- Wanting an owner is the same before its items are spread out and after.
theorem ofWanted_flatMap {γ : Type} {keep : γ → Bool} {owned : κ → List κ} {spread : γ → List α}
    {keys : List κ} {wholes : List γ} (each : List.Forall₂ (fun key whole =>
      (∀ other ∈ owned key, other = key) ∧ (owned key).length = (spread whole).length ∧
        wanted key = keep whole) keys wholes) :
    ofWanted wanted (keys.flatMap owned) (wholes.flatMap spread) =
      (wholes.filter keep).flatMap spread := by
  induction each with
  | nil => rfl
  | cons first rest ih =>
    obtain ⟨same, even, kept⟩ := first
    rw [List.flatMap_cons, List.flatMap_cons, ofWanted_append even, ofWanted_one same even, ih,
      List.filter_cons, kept]
    split <;> rfl

end

namespace Plot
variable {d : Dataset} {options : PlotOptions} {settings : Settings} {plots : List Plot}

theorem drawAll_replicate (title : String) (options : PlotOptions) (settings : Settings)
    (groups : List PlotGroup) (canvas : Canvas) (reused : Option (Colorbar Binary64)) :
    drawAll title options settings groups (List.replicate groups.length canvas)
        (List.replicate groups.length reused) =
      groups.mapM fun group => ofGroup title options settings group canvas reused := by
  unfold drawAll
  induction groups with
  | nil => rfl
  | cons group rest ih =>
    rw [List.length_cons, List.replicate_succ, List.replicate_succ, List.zip_cons_cons,
      List.zip_cons_cons, List.mapM_cons, List.mapM_cons, ih]

-- Without canvases and colorbars a group is drawn from nothing but itself.
theorem ofDataset_new :
    ofDataset d none none options settings = .ok plots ↔
      ∃ groups, selectedGroups d options = .ok groups ∧
        List.Forall₂ (fun group plot => ofGroup (wrappedTitle d.title) options settings group
          (Canvas.blank (options.canvasSize.getD settings.canvasSize)) none = .ok plot)
          groups plots := by
  constructor
  · intro done
    obtain ⟨groups, canvases, colorbars, selected, targets, scales, all, -⟩ := ofDataset_ok done
    cases targets
    cases scales
    rw [List.length_replicate, drawAll_replicate] at all
    exact ⟨groups, selected, Outcome.mapM_eq_ok.mp all⟩
  · rintro ⟨groups, selected, each⟩
    unfold ofDataset
    refine Outcome.bind_eq_ok.mpr ⟨groups, selected, Outcome.bind_eq_ok.mpr ⟨_, rfl,
      Outcome.bind_eq_ok.mpr ⟨_, rfl, Outcome.bind_eq_ok.mpr ⟨plots, ?_, ?_⟩⟩⟩⟩
    · rw [List.length_replicate, drawAll_replicate]
      exact Outcome.mapM_eq_ok.mpr each
    · rw [List.length_replicate, if_neg (not_not_intro each.length_eq.symm)]
      rfl

def askingFor (options : PlotOptions) (names : List String) : PlotOptions :=
  { options with parameters := some names }

theorem selectGroups_known {groups : List PlotGroup} {names : List String}
    (known : ∀ name ∈ names, ∃ p ∈ d.dependents, p.name = name) :
    selectGroups d groups names = .ok (groups.filter (askedGroup names)) := by
  have known : (names.find? fun name => !(d.dependents.map (·.name)).contains name) = none := by
    apply List.find?_eq_none.mpr
    intro name member
    simpa using known name member
  unfold selectGroups
  dsimp only
  rw [known]
  rfl

theorem mem_copies {p other : Parameter} (member : other ∈ copies d p) : other = p := by
  unfold copies at member
  split at member <;> simpa using member

-- Asking for parameters before the complex variables are split picks the same groups as behind it.
theorem selectedGroups_known {groups : List PlotGroup} {names : List String}
    (everything : options.parameters = none) (selected : selectedGroups d options = .ok groups)
    (known : ∀ name ∈ names, ∃ p ∈ d.dependents, p.name = name) :
    selectedGroups d (askingFor options names) =
      .ok (ofWanted (fun p => names.contains p.name) (owners d options) groups) := by
  obtain ⟨wholes, grouped, rest⟩ := Outcome.bind_eq_ok.mp selected
  rw [everything] at rest
  cases rest
  have all : asked d options = d.dependents := by
    simp [asked, Asked, everything]
  have each : List.Forall₂ (fun p group => (∀ other ∈ copies d p, other = p) ∧
      (copies d p).length = (splitGroup options.conversion options.phase group).length ∧
        names.contains p.name = askedGroup names group) d.dependents wholes := by
    refine (Outcome.mapM_eq_ok.mp grouped).imp fun p group done => ⟨fun _ => mem_copies, ?_, ?_⟩
    · exact (copies_groups done).length_eq
    · exact (askedGroup_eq done).symm
  have picked : ofWanted (fun p : Parameter => names.contains p.name)
      (d.dependents.flatMap (copies d))
      (wholes.flatMap (splitGroup options.conversion options.phase)) =
        (wholes.filter (askedGroup names)).flatMap
          (splitGroup options.conversion options.phase) := ofWanted_flatMap each
  unfold owners splitComplex
  rw [all, picked]
  refine Outcome.bind_eq_ok.mpr ⟨wholes, grouped, ?_⟩
  exact Outcome.bind_eq_ok.mpr ⟨_, selectGroups_known known, rfl⟩

def PlotOf (d : Dataset) (options : PlotOptions) (settings : Settings) (p : Parameter) (plot : Plot) :
    Prop :=
  ∃ part, GroupOf d options p part ∧
    ofGroup (wrappedTitle d.title) options settings part
      (Canvas.blank (options.canvasSize.getD settings.canvasSize)) none = .ok plot

theorem ofDataset_filtered (d : Dataset) (options : PlotOptions) (settings : Settings)
    (plots : List Plot) (names : List String) (everything : options.parameters = none)
    (done : ofDataset d none none options settings = .ok plots)
    (known : ∀ name ∈ names, ∃ p ∈ d.dependents, p.name = name) :
    List.Forall₂ (PlotOf d options settings) (owners d options) plots ∧
      ofDataset d none none (askingFor options names) settings =
        .ok (ofWanted (fun p => names.contains p.name) (owners d options) plots) := by
  obtain ⟨groups, selected, each⟩ := ofDataset_new.mp done
  refine ⟨forall₂_through (owners_groups selected) each, ?_⟩
  exact ofDataset_new.mpr ⟨_, selectedGroups_known everything selected known,
    ofWanted_forall₂ each (owners d options)⟩

-- Asked for twice, the complex variable is still plotted once, by both of its halves.
theorem ofDataset_filtered_bridge :
    ∃ first second last, ofDataset bridgeRun none none {} {} = .ok [first, second, last] ∧
      ofDataset bridgeRun none none (askingFor {} ["s", "s"]) {} = .ok [first, second] := by
  obtain ⟨plots, done⟩ : ∃ plots, ofDataset bridgeRun none none {} {} = .ok plots :=
    Outcome.exists_of_isOk (by decide +kernel)
  obtain ⟨owned, picked⟩ := ofDataset_filtered bridgeRun {} {} plots ["s", "s"] rfl done (by decide)
  have three : plots.length = 3 := owned.length_eq.symm
  obtain ⟨first, second, last, rfl⟩ := List.length_eq_three.mp three
  exact ⟨first, second, last, done, picked⟩

end Plot

end Labbook

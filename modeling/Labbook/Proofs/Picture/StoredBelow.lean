import Labbook.Picture.Storage
import Labbook.Proofs.Files.PathBelow
import Labbook.Proofs.Files.TreeChange
import Labbook.Run.RunFile

namespace Labbook

namespace Storage
variable {d : Dataset} {root storage : String} {id index : Nat}

def fileName (id index : Nat) (extension : String) : String :=
  toString id ++ "_" ++ toString index ++ "." ++ extension

theorem uncut_toString (n : Nat) : '/' ∉ (toString n).toList := by
  intro member
  rw [Nat.toString_eq_repr, Nat.toList_repr] at member
  have digit := Nat.isDigit_of_mem_toDigits (by decide) (by decide) member
  exact absurd digit (by decide)

theorem fileName_toList (id index : Nat) (extension : String) :
    (fileName id index extension).toList =
      (toString id).toList ++ '_' :: ((toString index).toList ++ '.' :: extension.toList) := by
  unfold fileName
  rw [String.toList_append, String.toList_append, String.toList_append, String.toList_append,
    List.append_assoc, List.append_assoc, List.append_assoc]
  rfl

variable {folder extension : String}

theorem fileName_uncut (uncut : '/' ∉ extension.toList) :
    '/' ∉ (fileName id index extension).toList := by
  rw [fileName_toList]
  simp [-Nat.toString_eq_repr, uncut_toString, uncut]

-- It has a character that dots do not have.
theorem fileName_ne {name : String} (other : '_' ∉ name.toList) :
    fileName id index extension ≠ name := by
  rintro rfl
  rw [fileName_toList] at other
  exact other (List.mem_append_right _ List.mem_cons_self)

def IsFolder (folder : String) : Prop := folder = vectorDirectory ∨ folder = pixelDirectory

theorem IsFolder.plain (known : IsFolder folder) :
    Path.components folder = [folder] ∧ Path.isAbsolute folder = false ∧ folder ≠ ".." := by
  rcases known with rfl | rfl
  · exact ⟨by decide, Path.relative_name (by decide), by decide⟩
  · exact ⟨by decide, Path.relative_name (by decide), by decide⟩

theorem components_imagePath (known : IsFolder folder) (uncut : '/' ∉ extension.toList) :
    Path.components (imagePath storage folder extension id index) =
      Path.components storage ++ [folder, fileName id index extension] := by
  obtain ⟨single, relative, -⟩ := known.plain
  have file : Path.components (fileName id index extension) = [fileName id index extension] :=
    Path.components_name (fileName_uncut uncut) (fileName_ne (by decide)) (fileName_ne (by decide))
  change Path.components (Path.join (Path.join storage folder) (fileName id index extension)) = _
  rw [Path.components_join (Path.relative_name (fileName_uncut uncut)),
    Path.components_join relative, file, single, List.append_assoc]
  rfl

theorem isAbsolute_imagePath (known : IsFolder folder) (uncut : '/' ∉ extension.toList) :
    Path.isAbsolute (imagePath storage folder extension id index) = Path.isAbsolute storage := by
  change Path.isAbsolute (Path.join (Path.join storage folder) (fileName id index extension)) = _
  rw [Path.isAbsolute_join (Path.relative_name (fileName_uncut uncut)),
    Path.isAbsolute_join known.plain.2.1]

-- A name that replaces all that stands before it.
def Absolute (d : Dataset) : Prop :=
  Path.isAbsolute d.expName = true ∨ Path.isAbsolute d.sampleName = true

theorem components_directory (exp : Path.isAbsolute d.expName = false)
    (sample : Path.isAbsolute d.sampleName = false) :
    Path.components (directory root d) =
      Path.components root ++ (Path.components d.expName ++ Path.components d.sampleName) := by
  rw [directory, Path.components_join sample, Path.components_join exp, List.append_assoc]

theorem isAbsolute_directory (exp : Path.isAbsolute d.expName = false)
    (sample : Path.isAbsolute d.sampleName = false) :
    Path.isAbsolute (directory root d) = Path.isAbsolute root := by
  rw [directory, Path.isAbsolute_join sample, Path.isAbsolute_join exp]

theorem directory_absolute (absolute : Absolute d) (root other : String) :
    directory root d = directory other d := by
  unfold directory
  rcases absolute with exp | sample
  · rw [Path.join_absolute exp, Path.join_absolute exp]
  · rw [Path.join_absolute sample, Path.join_absolute sample]

theorem below_folder (exp : Path.LeadsDown d.expName) (sample : Path.LeadsDown d.sampleName)
    (known : IsFolder folder) : Path.Below root (Path.join (directory root d) folder) := by
  obtain ⟨single, relative, notUp⟩ := known.plain
  have down : ".." ∉ Path.components d.expName ++ Path.components d.sampleName ++ [folder] := by
    simp [exp.downwards, sample.downwards, Ne.symm notUp]
  refine ⟨?_, _, List.concat_ne_nil folder _, down, ?_⟩
  · rw [Path.isAbsolute_join relative, isAbsolute_directory exp.relative sample.relative]
  · rw [Path.components_join relative, components_directory exp.relative sample.relative, single,
      List.append_assoc]

theorem below_imagePath (exp : Path.isAbsolute d.expName = false)
    (sample : Path.isAbsolute d.sampleName = false) (known : IsFolder folder)
    (uncut : '/' ∉ extension.toList) :
    Path.Below root (imagePath (directory root d) folder extension id index) ↔
      ".." ∉ Path.components d.expName ∧ ".." ∉ Path.components d.sampleName := by
  have start : Path.isAbsolute (imagePath (directory root d) folder extension id index) =
      Path.isAbsolute root := by
    rw [isAbsolute_imagePath known uncut, isAbsolute_directory exp sample]
  have parts : Path.components (imagePath (directory root d) folder extension id index) =
      Path.components root ++ (Path.components d.expName ++ Path.components d.sampleName ++
        [folder, fileName id index extension]) := by
    rw [components_imagePath known uncut, components_directory exp sample, List.append_assoc]
  have file : fileName id index extension ≠ ".." := fileName_ne (by decide)
  rw [Path.below_iff start (by simp) parts, List.mem_append, List.mem_append, not_or, not_or]
  constructor
  · intro ⟨names, _⟩
    exact names
  · intro names
    refine ⟨names, ?_⟩
    simp [Ne.symm known.plain.2.2, Ne.symm file]

-- Both formats have a plain name for their directory and for what their files end in.
theorem format_plain {f : Format} {vector : Bool} {pixels : Option PixelWriter}
    (listed : f ∈ formats vector pixels) : IsFolder f.folder ∧ '/' ∉ f.extension.toList := by
  rcases List.mem_append.mp listed with drawn | written
  · cases vector with
    | false => cases drawn
    | true =>
      cases List.mem_singleton.mp drawn
      exact ⟨.inl rfl, by decide⟩
  · cases pixels with
    | none => cases written
    | some write =>
      cases List.mem_singleton.mp written
      exact ⟨.inr rfl, show '/' ∉ pixelExtension.toList by decide⟩

def picturePath (f : Format) (root : String) (d : Dataset) (index : Nat) : String :=
  imagePath (directory root d) f.folder f.extension d.runId index

-- What storing does to the tree, if the names of the run lead down.
def KeepsWithin (root : String) (d : Dataset) (t u : FileTree) : Prop :=
  Path.LeadsDown d.expName → Path.LeadsDown d.sampleName → t.Within root u

theorem KeepsWithin.refl (root : String) (d : Dataset) (t : FileTree) : KeepsWithin root d t t :=
  fun _ _ => .refl root t

theorem KeepsWithin.trans {root : String} {d : Dataset} (t u v : FileTree)
    (first : KeepsWithin root d t u) (second : KeepsWithin root d u v) : KeepsWithin root d t v :=
  fun exp sample => (first exp sample).trans (second exp sample)

theorem createFolder_does (root : String) (d : Dataset) (known : IsFolder folder) :
    (FileChange.createDirectories (Path.join (directory root d) folder)).Does (KeepsWithin root d)
      fun _ => True := by
  apply FileChange.createDirectories_does
  intro t u along exp sample
  exact along.within (below_folder exp sample known)

theorem storePlot_does {f : Format} (known : IsFolder f.folder) (uncut : '/' ∉ f.extension.toList)
    (root : String) (d : Dataset) (plot : Plot) (index : Nat) :
    (storePlot f (directory root d) d.runId plot index).Does (KeepsWithin root d) fun picture =>
      picture.path = picturePath f root d index := by
  have refl := KeepsWithin.refl root d
  have written : ∀ text t u, t.withFile (picturePath f root d index) text = some u →
      KeepsWithin root d t u := by
    intro text t u done exp sample
    have below : Path.Below root (picturePath f root d index) :=
      (below_imagePath exp.relative sample.relative known uncut).mpr
        ⟨exp.downwards, sample.downwards⟩
    exact FileTree.withFile_within below done
  unfold storePlot
  refine .bind .trans (.outcome refl fun _ _ => trivial) fun drawing (_ : True) => ?_
  exact .bind .trans (FileChange.writePicture_does _ _ refl (written _)) fun _ _ => .pure refl rfl

theorem store_does (d : Dataset) (plots : List Plot) (vector : Bool) (settings : Settings)
    (pixels : Option PixelWriter) :
    (store d plots vector settings pixels).Does (KeepsWithin settings.mainFolder d) fun pictures =>
      ∀ picture ∈ pictures, ∃ index < plots.length, ∃ f ∈ formats vector pixels,
        picture.path = picturePath f settings.mainFolder d index := by
  have refl := KeepsWithin.refl settings.mainFolder d
  have each : ∀ entry ∈ plots.zipIdx,
      ((formats vector pixels).mapM fun f =>
        storePlot f (directory settings.mainFolder d) d.runId entry.1 entry.2).Does
        (KeepsWithin settings.mainFolder d) fun pictures => ∀ picture ∈ pictures,
          ∃ index < plots.length, ∃ f ∈ formats vector pixels,
            picture.path = picturePath f settings.mainFolder d index := by
    intro (plot, index) listed
    have inside : index < plots.length := by
      simpa using List.snd_lt_of_mem_zipIdx listed
    apply FileChange.Does.mapM refl .trans
    intro f chosen
    obtain ⟨known, uncut⟩ := format_plain chosen
    apply (storePlot_does known uncut settings.mainFolder d plot index).mono
    intro picture path
    exact ⟨index, inside, f, chosen, path⟩
  unfold store
  refine .bind .trans (createFolder_does _ d (.inr rfl)) fun _ _ => ?_
  refine .bind .trans (createFolder_does _ d (.inl rfl)) fun _ _ => ?_
  refine .bind .trans (FileChange.Does.mapM refl .trans each) fun stored hold => ?_
  apply FileChange.Does.pure refl
  intro picture member
  obtain ⟨pictures, listed, inside⟩ := List.mem_flatten.mp member
  exact hold pictures listed picture inside

-- A picture is stored below the main folder exactly if no name of the run leads up; behind an absolute name
-- the main folder is lost. Names that lead down keep all of the storing to the main folder, also where it
-- fails. How pixels are drawn makes no difference.
theorem store_below (d : Dataset) (plots : List Plot) (vector : Bool) (settings : Settings)
    (pixels : Option PixelWriter) (t : FileTree) :
    (∀ pictures, ((store d plots vector settings pixels).run.run t).1 = .ok pictures →
      ∀ picture ∈ pictures, ∃ index < plots.length, ∃ f ∈ formats vector pixels,
        picture.path = picturePath f settings.mainFolder d index ∧
        (¬Absolute d → (Path.Below settings.mainFolder picture.path ↔
          ".." ∉ Path.components d.expName ∧ ".." ∉ Path.components d.sampleName)) ∧
        (Absolute d → ∀ root, picture.path = picturePath f root d index)) ∧
      (Path.LeadsDown d.expName → Path.LeadsDown d.sampleName →
        t.Within settings.mainFolder ((store d plots vector settings pixels).run.run t).2) := by
  obtain ⟨within, named⟩ := store_does d plots vector settings pixels t
  refine ⟨?_, within⟩
  intro pictures stored picture member
  obtain ⟨index, inside, f, chosen, path⟩ := named pictures stored picture member
  refine ⟨index, inside, f, chosen, path, ?_, ?_⟩
  · intro relative
    obtain ⟨exp, sample⟩ := not_or.mp relative
    obtain ⟨known, uncut⟩ := format_plain chosen
    rw [path]
    exact below_imagePath (Bool.eq_false_iff.mpr exp) (Bool.eq_false_iff.mpr sample) known uncut
  · intro absolute root
    rw [path, picturePath, directory_absolute absolute _ root]
    rfl

-- Storing one plot without points in both formats, with nothing in the directory before. Of the pixels
-- there is the signature alone.
def signature : PixelWriter := fun _ => .ok ⟨#[0x89, 0x50, 0x4e, 0x47, 0x0d, 0x0a, 0x1a, 0x0a]⟩

def storedAlone (d : Dataset) : Outcome (List StoredPicture) × FileTree :=
  (store d [⟨Canvas.blank (400, 300), none⟩] true { mainFolder := "data" } (some signature)).run.run {}

theorem storedAlone_ok {d : Dataset} {vector pixels : String}
    (paths : (storedAlone d).1.toOption.map (List.map StoredPicture.path) = some [vector, pixels]) :
    ∃ drawn written, (storedAlone d).1 = .ok [drawn, written] ∧
      drawn.path = vector ∧ written.path = pixels := by
  cases stored : (storedAlone d).1 with
  | error e =>
    rw [stored] at paths
    cases paths
  | ok pictures =>
    rw [stored] at paths
    obtain ⟨drawn, rest, rfl, same, more⟩ := List.map_eq_cons_iff.mp (Option.some.inj paths)
    obtain ⟨written, last, rfl, other, rest⟩ := List.map_eq_cons_iff.mp more
    cases List.map_eq_nil_iff.mp rest
    exact ⟨drawn, written, rfl, same, other⟩

def chipRun : Dataset where
  runId := 7
  expName := "dc_sweep"
  sampleName := "chip_a"

theorem store_below_chip : ∃ drawn written, (storedAlone chipRun).1 = .ok [drawn, written] ∧
    Path.Below "data" drawn.path ∧ Path.Below "data" written.path ∧
    FileTree.Within "data" {} (storedAlone chipRun).2 := by
  obtain ⟨drawn, written, stored, -⟩ := @storedAlone_ok chipRun
    "data/dc_sweep/chip_a/pdf/7_0.svg" "data/dc_sweep/chip_a/png/7_0.png" (by decide +kernel)
  have exp : Path.LeadsDown chipRun.expName := ⟨Path.relative_name (by decide), by decide⟩
  have sample : Path.LeadsDown chipRun.sampleName := ⟨Path.relative_name (by decide), by decide⟩
  have relative : ¬Absolute chipRun := by
    simp [Absolute, exp.relative, sample.relative]
  obtain ⟨paths, within⟩ := store_below chipRun [⟨Canvas.blank (400, 300), none⟩] true
    { mainFolder := "data" } (some signature) {}
  have below : ∀ picture ∈ [drawn, written], Path.Below "data" picture.path := by
    intro picture member
    obtain ⟨index, -, f, -, -, below, -⟩ := paths [drawn, written] stored picture member
    exact (below relative).mpr ⟨exp.downwards, sample.downwards⟩
  exact ⟨drawn, written, stored, below drawn (by simp), below written (by simp), within exp sample⟩

-- A run file that names the directory above as its experiment.
def strayText : String := "run_id,7\nexp_name,..\nsample_name,notes\nx\n0.0\n"

def strayRun : Dataset where
  runId := 7
  expName := ".."
  sampleName := "notes"
  parameters := [{ name := "x" }]
  columns := [("x", .ofFields ["0.0"])]

-- Its pictures are new files outside of the main folder.
theorem store_strays : RunFile.read strayText = .ok strayRun ∧
    ∃ drawn written, (storedAlone strayRun).1 = .ok [drawn, written] ∧
      drawn.path = "data/../notes/pdf/7_0.svg" ∧ ¬Path.Below "data" drawn.path ∧
      written.path = "data/../notes/png/7_0.png" ∧ ¬Path.Below "data" written.path ∧
      ∃ place, ¬(FileTree.placeOf "data").Under place ∧ FileTree.entry? {} place = none ∧
        ∃ entry, FileTree.entry? (storedAlone strayRun).2 place = some entry := by
  obtain ⟨drawn, written, stored, vector, pixels⟩ := @storedAlone_ok strayRun
    "data/../notes/pdf/7_0.svg" "data/../notes/png/7_0.png" (by decide +kernel)
  have strays : ∀ names, ".." ∈ names → ∀ path, Path.isAbsolute path = Path.isAbsolute "data" →
      Path.components path = Path.components "data" ++ names → ¬Path.Below "data" path := by
    intro names up path start parts below
    exact (Path.below_iff start (List.ne_nil_of_mem up) parts).mp below up
  refine ⟨rfl, drawn, written, stored, vector, ?_, pixels, ?_,
    { names := ["notes", "pdf", "7_0.svg"] }, ?_, rfl, Option.isSome_iff_exists.mp ?_⟩
  · rw [vector]
    exact strays ["..", "notes", "pdf", "7_0.svg"] (by decide) _ (by decide +kernel) (by decide)
  · rw [pixels]
    exact strays ["..", "notes", "png", "7_0.png"] (by decide) _ (by decide +kernel) (by decide)
  · decide +kernel
  · decide +kernel

end Storage

end Labbook
